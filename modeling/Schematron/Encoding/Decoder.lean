/-!
Decoders as state machines fed byte by byte. A decoder never repairs its input: a byte it refuses,
or an end in the middle of a sequence, refuses the whole.
-/
namespace Schematron

/-- A decoder reads one byte at a time and may write any number of characters for it. -/
structure Decoder where
  State : Type
  initial : State
  /-- The characters written for a byte and the state after it; nothing where it is malformed. -/
  step : State → UInt8 → Option (List Char × State)
  /-- Whether the input may end in this state. -/
  complete : State → Bool

namespace Decoder

def runFrom (d : Decoder) : d.State → List UInt8 → Option (List Char)
  | state, [] => if d.complete state then some [] else none
  | state, b :: rest => do
    let (written, next) ← d.step state b
    let following ← d.runFrom next rest
    some (written ++ following)

def run (d : Decoder) (bytes : List UInt8) : Option (List Char) :=
  d.runFrom d.initial bytes

def asciiChar (b : UInt8) : Char :=
  Char.ofNat b.toNat

def bytewise (char? : UInt8 → Option Char) : Decoder where
  State := Unit
  initial := ()
  step _ b := (char? b).map fun c => ([c], ())
  complete _ := true

/-- A decoder of single bytes and pairs, whose state is the first byte of a pair. A byte may lead a
pair if it stands for nothing on its own. -/
def pairwise (single? : UInt8 → Option Char) (leads : UInt8 → Bool)
    (pair? : UInt8 → UInt8 → Option (List Char)) : Decoder where
  State := Option UInt8
  initial := none
  step
    | none, b =>
      match single? b with
      | some c => some ([c], none)
      | none => if leads b then some ([], some b) else none
    | some lead, b => (pair? lead b).map fun written => (written, none)
  complete state := state.isNone

theorem run_eq_map (d : Decoder) (complete : d.complete d.initial = true)
    (char : UInt8 → Char) (bytes : List UInt8)
    (pass : ∀ b ∈ bytes, d.step d.initial b = some ([char b], d.initial)) :
    d.run bytes = some (bytes.map char) := by
  unfold run
  induction bytes with
  | nil => simp [runFrom, complete]
  | cons b rest ih =>
    have hrest := ih fun x hx => pass x (List.mem_cons_of_mem _ hx)
    simp [runFrom, pass b List.mem_cons_self, hrest]

end Decoder
end Schematron
