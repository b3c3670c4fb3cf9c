/-!
Line numbers of byte positions. A line feed, a carriage return with a line feed after it, and a
carriage return alone each end one line. Beside the count for a single position stands a counter
that reads the bytes once, for positions asked in rising order.
-/
namespace Schematron.Xml

/-- Whether a byte, given those after it, is the last byte of a line end. -/
def endsLine (b : UInt8) (after : List UInt8) : Bool :=
  b == 0x0A || (b == 0x0D && after.head? != some 0x0A)

/-- The number of line ends whose last byte is among the first `count` bytes. -/
def lineEnds : Nat → List UInt8 → Nat
  | 0, _ => 0
  | _, [] => 0
  | count + 1, b :: rest => (if endsLine b rest then 1 else 0) + lineEnds count rest

def lineOf (bytes : List UInt8) (offset : Nat) : Nat :=
  1 + lineEnds offset bytes

/-- How far the bytes have been read: those not yet read, the number of those read, and the line
reached. Lines are counted without a bound; a counter of 32 bits parts from this one in a text with
2 ^ 32 line ends. -/
structure LineCounter where
  rest : List UInt8
  scanned : Nat
  line : Nat
  deriving DecidableEq, Repr

namespace LineCounter

def start (bytes : List UInt8) : LineCounter :=
  ⟨bytes, 0, 1⟩

def advance : Nat → LineCounter → LineCounter
  | 0, counter => counter
  | count + 1, ⟨rest, scanned, line⟩ =>
    match rest with
    | [] => ⟨[], scanned, line⟩
    | b :: rest => advance count ⟨rest, scanned + 1, if endsLine b rest then line + 1 else line⟩

/-- The line of a position and the counter after it. A position already passed gets the line
reached. -/
def lineAt (offset : Nat) (counter : LineCounter) : Nat × LineCounter :=
  let counter := counter.advance (offset - counter.scanned)
  (counter.line, counter)

theorem advance_eq (count : Nat) (counter : LineCounter) :
    counter.advance count =
      ⟨counter.rest.drop count, counter.scanned + min count counter.rest.length,
        counter.line + lineEnds count counter.rest⟩ := by
  induction count generalizing counter with
  | zero => simp [advance, lineEnds]
  | succ count ih =>
    obtain ⟨rest, scanned, line⟩ := counter
    cases rest with
    | nil => simp [advance, lineEnds]
    | cons b rest =>
      simp only [advance, ih, lineEnds, List.drop_succ_cons, List.length_cons, mk.injEq, true_and]
      constructor
      · omega
      · split <;> omega

end LineCounter
end Schematron.Xml
