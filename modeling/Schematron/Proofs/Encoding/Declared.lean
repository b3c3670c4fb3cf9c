import Schematron.Encoding.Detect
import Schematron.Proofs.Text.Split

/-!
Documents without a mark are read in the encoding that their declaration names. The name is looked
for between the start of the declaration and the first end after it, within a limit.
-/
namespace Schematron

namespace Encoding

def read (encoding : Encoding) (bytes : List UInt8) : Except EncodingFault (List Char) :=
  match encoding.decode bytes with
  | some text => .ok text
  | none => .error (.malformed encoding)

theorem decodeDocument_of_unmarked {bytes : List UInt8} (unmarked : ofMark? bytes = none)
    (narrow : ofPattern? bytes = none) :
    decodeDocument bytes =
      match declaredLabel? bytes with
      | none => utf8.read bytes
      | some label => (ofDeclaredLabel label).bind fun encoding => encoding.read bytes := by
  rw [decodeDocument, detect, unmarked, narrow]
  cases declaredLabel? bytes with
  | none => rfl
  | some label =>
    dsimp only
    cases ofDeclaredLabel label <;> rfl

theorem decodeDocument_encode {text : List Char} (unmarked : ofMark? (Utf8.encode text) = none)
    (narrow : ofPattern? (Utf8.encode text) = none)
    (unlabelled : declaredLabel? (Utf8.encode text) = none) :
    decodeDocument (Utf8.encode text) = .ok text := by
  rw [decodeDocument_of_unmarked unmarked narrow, unlabelled]
  simp only [read, decode, Utf8.decode_encode]

/-- The content names a label: where it first says `encoding` there follow an equals sign and the
label in quotes. -/
def Names (content label : List Char) : Prop :=
  ∃ before gap gap' quote after,
    content = before ++ "encoding".toList ++
      (gap ++ '=' :: (gap' ++ quote :: (label ++ quote :: after))) ∧
    Text.occursIn "encoding".toList (before ++ "encodin".toList) = false ∧
    (∀ c ∈ gap, Text.isBlank c = true) ∧ (∀ c ∈ gap', Text.isBlank c = true) ∧
    (quote = '"' ∨ quote = '\'') ∧ quote ∉ label

theorem trimStart_append {blanks rest : List Char} (blank : ∀ c ∈ blanks, Text.isBlank c = true)
    (stop : ∀ c ∈ rest.head?, Text.isBlank c = false) : Text.trimStart (blanks ++ rest) = rest :=
  (Text.span_iff.2 ⟨rfl, blank, stop⟩).2

theorem exists_blanks_of_trimStart {text rest : List Char} (h : Text.trimStart text = rest) :
    ∃ blanks, text = blanks ++ rest ∧ ∀ c ∈ blanks, Text.isBlank c = true := by
  obtain ⟨split, blank, -⟩ := Text.span_iff.1 ⟨Eq.refl (text.takeWhile Text.isBlank), h⟩
  exact ⟨_, split, blank⟩

theorem declaredValue?_eq_some_iff {content label : List Char} :
    declaredValue? content = some label ↔ Names content label := by
  have mark : "encoding".toList = "encodin".toList ++ ['g'] := by decide
  constructor
  · intro h
    unfold declaredValue? at h
    split at h
    next => contradiction
    next before rest found =>
      rw [mark, Text.cutAt?_eq_some_iff, ← mark] at found
      obtain ⟨rfl, first⟩ := found
      split at h
      next value equals =>
        obtain ⟨gap, rfl, blank⟩ := exists_blanks_of_trimStart equals
        split at h
        next quote value' quoted =>
          obtain ⟨gap', rfl, blank'⟩ := exists_blanks_of_trimStart quoted
          split at h
          next kind =>
            obtain ⟨⟨label, after⟩, closed, rfl⟩ := Option.map_eq_some_iff.1 h
            obtain ⟨rfl, absent⟩ := Text.cutAt?_singleton_iff.1 closed
            exact ⟨before, gap, gap', quote, after, rfl, first, blank, blank', kind, absent⟩
          next => contradiction
        next => contradiction
      next => contradiction
  · rintro ⟨before, gap, gap', quote, after, rfl, first, blank, blank', kind, absent⟩
    have found : Text.cutAt? "encoding".toList (before ++ "encoding".toList ++
        (gap ++ '=' :: (gap' ++ quote :: (label ++ quote :: after)))) =
        some (before, gap ++ '=' :: (gap' ++ quote :: (label ++ quote :: after))) := by
      rw [mark, Text.cutAt?_eq_some_iff, ← mark]
      exact ⟨rfl, first⟩
    have equals : Text.trimStart (gap ++ '=' :: (gap' ++ quote :: (label ++ quote :: after))) =
        '=' :: (gap' ++ quote :: (label ++ quote :: after)) :=
      trimStart_append blank (by rintro c ⟨⟩; decide)
    have quoted : Text.trimStart (gap' ++ quote :: (label ++ quote :: after)) =
        quote :: (label ++ quote :: after) :=
      trimStart_append blank' (by rintro c ⟨⟩; rcases kind with rfl | rfl <;> decide)
    have closed : Text.cutAt? [quote] (label ++ quote :: after) = some (label, after) :=
      Text.cutAt?_singleton_iff.2 ⟨rfl, absent⟩
    simp only [declaredValue?, found, equals, quoted, if_pos kind, closed, Option.map_some]

/-- The input starts like a declaration whose content ends with the first end that stands within
the limit. -/
structure Encloses (bytes content : List UInt8) : Prop where
  starts : declarationStart ++ content ++ declarationEnd <+: bytes
  first : Text.occursIn declarationEnd (content ++ [0x3F]) = false
  short : (declarationStart ++ content ++ declarationEnd).length ≤ declarationLimit

theorem Encloses.unmarked {bytes content : List UInt8} (h : Encloses bytes content) :
    ofMark? bytes = none ∧ ofPattern? bytes = none := by
  obtain ⟨⟨rest, rfl⟩, -, -⟩ := h
  exact ⟨rfl, rfl⟩

theorem cutAt?_declarationEnd_iff {bytes before after : List UInt8} :
    Text.cutAt? declarationEnd bytes = some (before, after) ↔
      bytes = before ++ declarationEnd ++ after ∧
        Text.occursIn declarationEnd (before ++ [0x3F]) = false :=
  @Text.cutAt?_eq_some_iff UInt8 _ [0x3F] bytes before after 0x3E

theorem Encloses.declaredLabel?_eq {bytes content : List UInt8} (h : Encloses bytes content) :
    declaredLabel? bytes = declaredValue? (Utf8.lossy content) := by
  obtain ⟨⟨rest, rfl⟩, first, short⟩ := h
  have shortened : (declarationStart ++ content ++ declarationEnd ++ rest).take declarationLimit =
      declarationStart ++ (content ++ declarationEnd ++ rest.take
        (declarationLimit - (declarationStart ++ content ++ declarationEnd).length)) := by
    rw [List.take_append, List.take_of_length_le short]
    simp
  have started := Text.dropStart?_eq_some_iff.2 shortened
  have cut : Text.cutAt? declarationEnd (content ++ declarationEnd ++ rest.take
      (declarationLimit - (declarationStart ++ content ++ declarationEnd).length)) =
      some (content, rest.take
        (declarationLimit - (declarationStart ++ content ++ declarationEnd).length)) :=
    cutAt?_declarationEnd_iff.2 ⟨rfl, first⟩
  simp only [declaredLabel?, started, cut]

theorem declaredLabel?_eq_some_iff {bytes : List UInt8} {label : List Char} :
    declaredLabel? bytes = some label ↔
      ∃ content, Encloses bytes content ∧ Names (Utf8.lossy content) label := by
  constructor
  · intro h
    unfold declaredLabel? at h
    split at h
    next => contradiction
    next inner started =>
      have split := Text.dropStart?_eq_some_iff.1 started
      split at h
      next => contradiction
      next content after cut =>
        obtain ⟨rfl, first⟩ := cutAt?_declarationEnd_iff.1 cut
        refine ⟨content, ⟨?_, first, ?_⟩, declaredValue?_eq_some_iff.1 h⟩
        · have whole := List.take_append_drop declarationLimit bytes
          rw [split] at whole
          exact ⟨after ++ bytes.drop declarationLimit, by simpa [declarationEnd] using whole⟩
        · have bound := congrArg List.length split
          simp only [List.length_take, List.length_append, List.length_cons, List.length_nil,
            declarationEnd] at bound ⊢
          omega
  · rintro ⟨content, encloses, names⟩
    rw [encloses.declaredLabel?_eq, declaredValue?_eq_some_iff]
    exact names

end Encoding
end Schematron
