import Mathlib.Tactic.SplitIfs
import Schematron.Proofs.Encoding.Utf8
import Schematron.Xml.Document

/-!
Lines of a text and lines of its bytes. Lines end where line feeds and carriage returns stand, and
the two together end one; no other character has one of their bytes in its encoding.
-/
namespace Schematron.Xml

def lineBreaks : List Char → Nat
  | [] => 0
  | '\r' :: '\n' :: rest => 1 + lineBreaks rest
  | c :: rest => (if c = '\n' ∨ c = '\r' then 1 else 0) + lineBreaks rest

/-- Nothing is parted between the texts that is one line end. -/
def KeepsBreaks (before after : List Char) : Prop :=
  before.getLast? = some '\r' → after.head? ≠ some '\n'

theorem lineBreaks_cons (c : Char) (rest : List Char) :
    lineBreaks (c :: rest) =
      (if c = '\n' ∨ c = '\r' ∧ rest.head? ≠ some '\n' then 1 else 0) + lineBreaks rest := by
  by_cases pair : c = '\r' ∧ rest.head? = some '\n'
  · obtain ⟨rfl, feed⟩ := pair
    obtain ⟨rest, rfl⟩ := List.head?_eq_some_iff.1 feed
    simp [lineBreaks]
  · rw [lineBreaks]
    · by_cases single : c = '\r' <;> simp_all
    · rintro rest rfl rfl
      exact pair ⟨rfl, rfl⟩

theorem lineBreaks_le_append (before after : List Char) :
    lineBreaks before ≤ lineBreaks (before ++ after) := by
  induction before with
  | nil => exact Nat.zero_le _
  | cons c rest ih =>
    cases rest with
    | nil =>
      rw [List.singleton_append, lineBreaks_cons c after, lineBreaks_cons c []]
      by_cases pair : c = '\r' ∧ after.head? = some '\n'
      · obtain ⟨after, rfl⟩ := List.head?_eq_some_iff.1 pair.2
        rw [lineBreaks_cons '\n' after]
        simp [pair.1, lineBreaks]
      · have same : (c = '\r' ∧ ([] : List Char).head? ≠ some '\n') ↔
            c = '\r' ∧ after.head? ≠ some '\n' := by
          simpa using fun h => not_and.1 pair h
        simp only [same]
        exact Nat.add_le_add_left (Nat.zero_le _) _
    | cons d rest =>
      rw [List.cons_append, lineBreaks_cons c, lineBreaks_cons c, List.cons_append,
        List.head?_cons, List.head?_cons]
      exact Nat.add_le_add_left ih _

theorem utf8EncodeChar_cases (c : Char) :
    (String.utf8EncodeChar c = [UInt8.ofNat c.toNat] ∧ c.toNat < 128) ∨
      (128 ≤ c.toNat ∧ String.utf8EncodeChar c ≠ [] ∧
        ∀ b ∈ String.utf8EncodeChar c, b ≠ 0x0A ∧ b ≠ 0x0D) := by
  have high : ∀ n, 128 ≤ n % 256 → UInt8.ofNat n ≠ 0x0A ∧ UInt8.ofNat n ≠ 0x0D := by
    intro n large
    constructor <;>
    · intro same
      have same := congrArg UInt8.toNat same
      simp at same
      omega
  unfold String.utf8EncodeChar
  rw [show c.val.toNat = c.toNat from rfl]
  dsimp only
  split_ifs with ascii two three
  · exact .inl ⟨rfl, by omega⟩
  all_goals
    refine .inr ⟨by omega, by simp, ?_⟩
    simp only [List.forall_mem_cons, List.not_mem_nil, false_imp_iff, implies_true, and_true]
    refine ⟨high _ (by omega), ?_⟩
  · exact high _ (by omega)
  · exact ⟨high _ (by omega), high _ (by omega)⟩
  · exact ⟨high _ (by omega), high _ (by omega), high _ (by omega)⟩

theorem head?_encode_iff {text : List Char} :
    (Utf8.encode text).head? = some 0x0A ↔ text.head? = some '\n' := by
  cases text with
  | nil => simp [Utf8.encode]
  | cons c rest =>
    rw [Utf8.encode, List.flatMap_cons, List.head?_cons, Option.some.injEq]
    rcases utf8EncodeChar_cases c with ⟨encoded, ascii⟩ | ⟨wide, some_byte, others⟩
    · rw [encoded, List.singleton_append, List.head?_cons, Option.some.injEq]
      exact Utf8.ofNat_toNat_inj (d := '\n') ascii (by decide)
    · have differs : c ≠ '\n' := by
        rintro rfl
        exact absurd wide (by decide)
      obtain ⟨b, bytes, encoded⟩ := List.exists_cons_of_ne_nil some_byte
      have other : b ≠ 0x0A := (others b (by simp [encoded])).1
      simp [encoded, other, differs]

theorem lineEnds_append (first rest : List UInt8) (count : Nat) :
    lineEnds (first.length + count) (first ++ rest) =
      lineEnds first.length (first ++ rest) + lineEnds count rest := by
  induction first with
  | nil => simp [lineEnds]
  | cons b first ih =>
    rw [List.length_cons, Nat.add_right_comm, List.cons_append, lineEnds, lineEnds, ih,
      Nat.add_assoc]

theorem lineEnds_min (count : Nat) (bytes : List UInt8) :
    lineEnds (min count bytes.length) bytes = lineEnds count bytes := by
  induction bytes generalizing count with
  | nil => cases count <;> rfl
  | cons b rest ih =>
    cases count with
    | zero => rfl
    | succ count => rw [List.length_cons, Nat.add_min_add_right, lineEnds, lineEnds, ih]

theorem lineEnds_of_no_break {first : List UInt8} (rest : List UInt8)
    (others : ∀ b ∈ first, b ≠ 0x0A ∧ b ≠ 0x0D) : lineEnds first.length (first ++ rest) = 0 := by
  induction first with
  | nil => rfl
  | cons b first ih =>
    rw [List.forall_mem_cons] at others
    have unended : endsLine b (first ++ rest) = false := by simp [endsLine, others.1]
    rw [List.length_cons, List.cons_append, lineEnds, unended, ih others.2]
    rfl

theorem lineEnds_encodeChar (c : Char) (following : List Char) :
    lineEnds (String.utf8EncodeChar c).length (String.utf8EncodeChar c ++ Utf8.encode following) =
      if c = '\n' ∨ c = '\r' ∧ following.head? ≠ some '\n' then 1 else 0 := by
  rcases utf8EncodeChar_cases c with ⟨encoded, ascii⟩ | ⟨wide, -, others⟩
  · have feed : UInt8.ofNat c.toNat = 0x0A ↔ c = '\n' :=
      Utf8.ofNat_toNat_inj (d := '\n') ascii (by decide)
    have carriage : UInt8.ofNat c.toNat = 0x0D ↔ c = '\r' :=
      Utf8.ofNat_toNat_inj (d := '\r') ascii (by decide)
    rw [encoded, List.singleton_append, List.length_singleton, lineEnds, lineEnds]
    simp [endsLine, feed, carriage, head?_encode_iff]
  · rw [lineEnds_of_no_break _ others, if_neg]
    rintro (rfl | ⟨rfl, -⟩) <;> exact absurd wide (by decide)

theorem lineOf_encode {before after : List Char} (kept : KeepsBreaks before after) :
    lineOf (Utf8.encode (before ++ after)) (Utf8.size before) = 1 + lineBreaks before := by
  rw [lineOf]
  congr 1
  induction before with
  | nil => cases Utf8.encode ([] ++ after) <;> rfl
  | cons c rest ih =>
    have later : KeepsBreaks rest after := by
      intro last
      refine kept ?_
      cases rest with
      | nil => simp at last
      | cons d rest => rwa [List.getLast?_cons_cons]
    have following : (c = '\r' ∧ (rest ++ after).head? ≠ some '\n') ↔
        c = '\r' ∧ rest.head? ≠ some '\n' := by
      refine and_congr_right fun carriage => ?_
      cases rest with
      | nil => simpa [carriage, KeepsBreaks] using kept
      | cons d rest => rfl
    have encoded : Utf8.encode (c :: rest ++ after) =
        String.utf8EncodeChar c ++ Utf8.encode (rest ++ after) := rfl
    -- Whether the first character ends a line is seen at the next one, which may be past the place.
    rw [Utf8.size, ← String.length_utf8EncodeChar, encoded, lineEnds_append, ih later,
      lineEnds_encodeChar, lineBreaks_cons]
    simp only [following]

namespace LineCounter

/-- The counter has read so far and knows the line there. -/
structure Counts (bytes : List UInt8) (counter : LineCounter) : Prop where
  rest : counter.rest = bytes.drop counter.scanned
  line : counter.line = lineOf bytes counter.scanned
  within : counter.scanned ≤ bytes.length

theorem counts_start (bytes : List UInt8) : (start bytes).Counts bytes where
  rest := rfl
  line := by cases bytes <;> rfl
  within := Nat.zero_le _

theorem Counts.lineAt_of_le {bytes : List UInt8} {counter : LineCounter}
    (counts : counter.Counts bytes) {offset : Nat} (onward : counter.scanned ≤ offset) :
    (counter.lineAt offset).1 = lineOf bytes offset ∧ (counter.lineAt offset).2.Counts bytes ∧
      (counter.lineAt offset).2.scanned = min offset bytes.length := by
  have split : lineEnds offset bytes =
      lineEnds counter.scanned bytes +
        lineEnds (offset - counter.scanned) (bytes.drop counter.scanned) := by
    have parts := lineEnds_append (bytes.take counter.scanned) (bytes.drop counter.scanned)
      (offset - counter.scanned)
    rwa [List.take_append_drop, List.length_take_of_le counts.within,
      Nat.add_sub_cancel' onward] at parts
  have reached : counter.scanned + min (offset - counter.scanned) counter.rest.length =
      min offset bytes.length := by
    have within := counts.within
    rw [counts.rest, List.length_drop]
    omega
  have line : counter.line + lineEnds (offset - counter.scanned) counter.rest =
      lineOf bytes offset := by
    rw [counts.line, counts.rest, lineOf, lineOf, split, Nat.add_assoc]
  rw [LineCounter.lineAt, advance_eq, reached, line]
  refine ⟨rfl, ⟨?_, ?_, Nat.min_le_right _ _⟩, rfl⟩
  · rw [counts.rest, List.drop_drop, Nat.add_sub_cancel' onward, List.drop_eq_drop_min]
  · rw [lineOf, lineOf, lineEnds_min]

theorem Counts.lineAt {bytes : List UInt8} {counter : LineCounter} (counts : counter.Counts bytes)
    {offset : Nat} (onward : counter.scanned ≤ offset) (within : offset ≤ bytes.length) :
    (counter.lineAt offset).1 = lineOf bytes offset ∧ (counter.lineAt offset).2.Counts bytes ∧
      (counter.lineAt offset).2.scanned = offset := by
  have asked := counts.lineAt_of_le onward
  rwa [Nat.min_eq_left within] at asked

end LineCounter

theorem numberTokens_eq {bytes : List UInt8} {counter : LineCounter} {located : List Located}
    (counts : counter.Counts bytes)
    (rising : (counter.scanned :: located.map Located.offset).Pairwise (· ≤ ·))
    (within : ∀ found ∈ located, found.offset ≤ bytes.length) :
    (numberTokens counter located).1 =
        located.map (fun found => (lineOf bytes found.offset, found.token)) ∧
      (numberTokens counter located).2.Counts bytes := by
  induction located generalizing counter with
  | nil => exact ⟨rfl, counts⟩
  | cons found rest ih =>
    rw [List.map_cons, List.pairwise_cons, List.forall_mem_cons] at rising
    rw [List.forall_mem_cons] at within
    obtain ⟨line, counts, scanned⟩ := counts.lineAt rising.1.1 within.1
    have later := ih counts (by rw [scanned]; exact rising.2) within.2
    exact ⟨by simp only [numberTokens, List.map_cons, line, later.1], later.2⟩

end Schematron.Xml
