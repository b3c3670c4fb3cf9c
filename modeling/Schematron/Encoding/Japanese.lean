import Schematron.Encoding.Decoder
import Schematron.Encoding.Index.Jis0208
import Schematron.Encoding.Index.Jis0212

/-!
The Japanese multi-byte sets. All of them share one index of kanji, and half-width katakana are
single bytes in each. Shift_JIS folds two rows of the index into one lead byte and has user-defined
rows of its own; EUC-JP reads a second index after a shift byte; ISO-2022-JP changes between sets by
escape sequences.
-/
namespace Schematron

def halfWidthKatakana (offset : Nat) : Char :=
  Char.ofNat (0xFF61 + offset)

namespace ShiftJis

/-- The character of a pair. A lead byte has 188 cells; ten lead bytes are user-defined. -/
def pairChar? (lead trail : UInt8) : Option Char :=
  if (0x40 ≤ trail ∧ trail ≤ 0x7E) ∨ (0x80 ≤ trail ∧ trail ≤ 0xFC) then
    let cell := trail.toNat - (if trail < 0x7F then 0x40 else 0x41)
    let row := lead.toNat - (if lead < 0xA0 then 0x81 else 0xC1)
    let pointer := row * 188 + cell
    if 8836 ≤ pointer ∧ pointer ≤ 10715 then some (Char.ofNat (0xE000 + (pointer - 8836)))
    else CharIndex.jis0208.char? pointer
  else none

def singleChar? (b : UInt8) : Option Char :=
  if b ≤ 0x80 then some (Decoder.asciiChar b)
  else if 0xA1 ≤ b ∧ b ≤ 0xDF then some (halfWidthKatakana (b.toNat - 0xA1))
  else none

def decoder : Decoder :=
  Decoder.pairwise singleChar? (fun b => 0x81 ≤ b ∧ b ≤ 0xFC ∧ b ≠ 0xA0)
    fun lead trail => (pairChar? lead trail).map fun c => [c]

end ShiftJis

namespace EucJp

inductive State
  | start
  | katakana
  | lead (first : UInt8)
  | supplement
  | supplementLead (first : UInt8)
  deriving DecidableEq

def pairChar? (index : CharIndex) (lead trail : UInt8) : Option Char :=
  if 0xA1 ≤ trail ∧ trail ≤ 0xFE then
    index.char? ((lead.toNat - 0xA1) * 94 + (trail.toNat - 0xA1))
  else none

def step : State → UInt8 → Option (List Char × State)
  | .start, b =>
    if b < 0x80 then some ([Decoder.asciiChar b], .start)
    else if b = 0x8E then some ([], .katakana)
    else if b = 0x8F then some ([], .supplement)
    else if 0xA1 ≤ b ∧ b ≤ 0xFE then some ([], .lead b)
    else none
  | .katakana, b =>
    if 0xA1 ≤ b ∧ b ≤ 0xDF then some ([halfWidthKatakana (b.toNat - 0xA1)], .start) else none
  | .lead first, b => (pairChar? .jis0208 first b).map fun c => ([c], .start)
  | .supplement, b => if 0xA1 ≤ b ∧ b ≤ 0xFE then some ([], .supplementLead b) else none
  | .supplementLead first, b => (pairChar? .jis0212 first b).map fun c => ([c], .start)

def decoder : Decoder where
  State := State
  initial := .start
  step := step
  complete state := state == .start

end EucJp

namespace Iso2022Jp

inductive CharacterSet
  | ascii
  | roman
  | katakana
  | kanji
  deriving DecidableEq

inductive Pending
  | nothing
  | lead (first : UInt8)
  | escape
  | single
  | double
  deriving DecidableEq

/-- The set in use, whether it was chosen by an escape and not used yet, and what is under way. -/
structure State where
  set : CharacterSet
  unused : Bool
  pending : Pending
  deriving DecidableEq

/-- A single byte as a character of a set. The shift bytes 0x0E and 0x0F have no place. -/
def char? (set : CharacterSet) (b : UInt8) : Option Char :=
  match set with
  | .ascii => if b < 0x80 ∧ b ≠ 0x0E ∧ b ≠ 0x0F then some (Decoder.asciiChar b) else none
  | .roman =>
    if b = 0x5C then some '¥'
    else if b = 0x7E then some '‾'
    else if b < 0x80 ∧ b ≠ 0x0E ∧ b ≠ 0x0F then some (Decoder.asciiChar b) else none
  | .katakana =>
    if 0x21 ≤ b ∧ b ≤ 0x5F then some (halfWidthKatakana (b.toNat - 0x21)) else none
  | .kanji => none

def isCell (b : UInt8) : Bool :=
  0x21 ≤ b ∧ b ≤ 0x7E

def pairChar? (lead trail : UInt8) : Option Char :=
  if isCell trail then
    CharIndex.jis0208.char? ((lead.toNat - 0x21) * 94 + (trail.toNat - 0x21))
  else none

def selected? : Pending → UInt8 → Option CharacterSet
  | .single, b =>
    if b = 0x42 then some .ascii
    else if b = 0x4A then some .roman
    else if b = 0x49 then some .katakana
    else none
  | .double, b => if b = 0x40 ∨ b = 0x42 then some .kanji else none
  | _, _ => none

/-- One byte. An escape right after another one, with no character between, is malformed, and so is
one within a pair. -/
def step (state : State) (b : UInt8) : Option (List Char × State) :=
  match state.pending with
  | .nothing =>
    if b = 0x1B then some ([], ⟨state.set, state.unused, .escape⟩)
    else if state.set = .kanji then
      if isCell b then some ([], ⟨.kanji, false, .lead b⟩) else none
    else (char? state.set b).map fun c => ([c], ⟨state.set, false, .nothing⟩)
  | .lead first => (pairChar? first b).map fun c => ([c], ⟨state.set, false, .nothing⟩)
  | .escape =>
    if b = 0x28 then some ([], ⟨state.set, state.unused, .single⟩)
    else if b = 0x24 then some ([], ⟨state.set, state.unused, .double⟩)
    else none
  | pending =>
    match selected? pending b with
    | some set => if state.unused then none else some ([], ⟨set, true, .nothing⟩)
    | none => none

def decoder : Decoder where
  State := State
  initial := ⟨.ascii, false, .nothing⟩
  step := step
  complete state := state.pending == .nothing

end Iso2022Jp
end Schematron
