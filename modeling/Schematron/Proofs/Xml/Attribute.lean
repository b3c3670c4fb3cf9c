import Mathlib.Data.List.Forall2
import Schematron.Proofs.Outcome
import Schematron.Proofs.Text.Split
import Schematron.Xml.Builder

/-!
An attribute in a tag is spelled out with the blanks before its name and around its equals sign and
with its quote. Reading succeeds on such spellings only, one after the other, with new names.
-/
namespace Schematron.Xml

def Blank (text : List Char) : Prop :=
  ∀ c ∈ text, Text.isXmlBlank c = true

instance (text : List Char) : Decidable (Blank text) :=
  List.decidableBAll _ text

structure Spelling where
  /-- The blanks before the name. -/
  before : List Char
  name : List Char
  beforeEquals : List Char
  afterEquals : List Char
  quote : Char
  value : List Char

namespace Spelling

def text (spelling : Spelling) : List Char :=
  spelling.before ++ (spelling.name ++ (spelling.beforeEquals ++
    '=' :: (spelling.afterEquals ++ spelling.quote :: (spelling.value ++ [spelling.quote]))))

/-- The parts can be told apart. The first character of the name is any but a blank. -/
structure Regular (spelling : Spelling) : Prop where
  before : Blank spelling.before
  name : ∃ c rest, spelling.name = c :: rest ∧ Text.isXmlBlank c = false ∧
    ∀ d ∈ rest, TagCursor.endsKey d = false
  beforeEquals : Blank spelling.beforeEquals
  afterEquals : Blank spelling.afterEquals
  quoted : spelling.quote = '"' ∨ spelling.quote = '\''
  closed : spelling.quote ∉ spelling.value

end Spelling

theorem not_isXmlBlank_equals : Text.isXmlBlank '=' = false := by
  decide

theorem isXmlBlank_quote {quote : Char} (h : quote = '"' ∨ quote = '\'') :
    Text.isXmlBlank quote = false := by
  rcases h with rfl | rfl <;> decide

theorem utf8Size_quote {quote : Char} (h : quote = '"' ∨ quote = '\'') : quote.utf8Size = 1 := by
  rcases h with rfl | rfl <;> decide

theorem Spelling.size_text {spelling : Spelling}
    (h : spelling.quote = '"' ∨ spelling.quote = '\'') :
    Utf8.size spelling.text =
      Utf8.size spelling.before + Utf8.size spelling.name + Utf8.size spelling.beforeEquals +
        Utf8.size spelling.afterEquals + Utf8.size spelling.value + 3 := by
  have equals : '='.utf8Size = 1 := rfl
  simp only [Spelling.text, Utf8.size, Utf8.size_append, utf8Size_quote h, equals]
  omega

namespace TagCursor

theorem skipBlanks_iff {cursor found : TagCursor} :
    cursor.skipBlanks = found ↔
      ∃ blanks, Blank blanks ∧ cursor.rest = blanks ++ found.rest ∧
        found.position = cursor.position + Utf8.size blanks ∧
        ∀ c ∈ found.rest.head?, Text.isXmlBlank c = false := by
  obtain ⟨position, rest⟩ := found
  simp only [skipBlanks, mk.injEq]
  constructor
  · rintro ⟨rfl, rfl⟩
    obtain ⟨split, blank, stop⟩ := Text.span_iff.1 ⟨Eq.refl (cursor.rest.takeWhile _), rfl⟩
    exact ⟨_, blank, split, rfl, stop⟩
  · rintro ⟨blanks, blank, split, rfl, stop⟩
    obtain ⟨run, after⟩ := Text.span_iff.2 ⟨split, blank, stop⟩
    rw [run, after]
    exact ⟨rfl, rfl⟩

theorem endsKey_of_blank {blanks : List Char} (h : Blank blanks) (rest : List Char) :
    ∀ c ∈ (blanks ++ '=' :: rest).head?, endsKey c = true := by
  intro c first
  cases blanks with
  | nil =>
    obtain rfl : '=' = c := by simpa using first
    rfl
  | cons d blanks =>
    obtain rfl : d = c := by simpa using first
    simp [endsKey, h d (by simp)]

theorem key?_iff {cursor after : TagCursor} {key : AttributeKey} :
    cursor.key? = some (key, after) ↔
      ∃ c rest, key = ⟨cursor.position, c :: rest⟩ ∧ (∀ d ∈ rest, endsKey d = false) ∧
        cursor.rest = c :: rest ++ after.rest ∧
        after.position = cursor.position + Utf8.size (c :: rest) ∧
        ∀ d ∈ after.rest.head?, endsKey d = true := by
  obtain ⟨position, text⟩ := cursor
  obtain ⟨position', text'⟩ := after
  cases text with
  | nil => simp [key?]
  | cons c text =>
    simp only [key?, Option.some.injEq, Prod.mk.injEq, mk.injEq, List.cons_append, List.cons.injEq]
    constructor
    · rintro ⟨rfl, rfl, rfl⟩
      obtain ⟨split, inside, stop⟩ :=
        Text.span_iff.1 ⟨Eq.refl (text.takeWhile (!endsKey ·)), rfl⟩
      exact ⟨c, _, rfl, by simpa using inside, ⟨rfl, split⟩, rfl, by simpa using stop⟩
    · rintro ⟨_, rest, rfl, inside, ⟨rfl, split⟩, rfl, stop⟩
      obtain ⟨run, after⟩ := (Text.span_iff (p := (!endsKey ·))).2
        ⟨split, by simpa using inside, by simpa using stop⟩
      rw [run, after]
      exact ⟨rfl, rfl, rfl⟩

theorem skipEquals_iff {cursor after : TagCursor} :
    cursor.skipEquals = .ok after ↔
      ∃ blanks, Blank blanks ∧ cursor.rest = blanks ++ '=' :: after.rest ∧
        after.position = cursor.position + Utf8.size blanks + 1 := by
  obtain ⟨position, rest⟩ := after
  constructor
  · intro h
    unfold skipEquals at h
    dsimp only at h
    split at h
    next after found =>
      cases h
      obtain ⟨blanks, blank, split, moved, _⟩ := skipBlanks_iff.1 (Eq.refl cursor.skipBlanks)
      exact ⟨blanks, blank, by rw [split, found], by rw [moved]⟩
    · contradiction
  · rintro ⟨blanks, blank, split, rfl⟩
    have found : cursor.skipBlanks = ⟨cursor.position + Utf8.size blanks, '=' :: rest⟩ :=
      skipBlanks_iff.2 ⟨blanks, blank, split, rfl, by simp [not_isXmlBlank_equals]⟩
    simp [skipEquals, found]

theorem value_iff {cursor after : TagCursor} {text : List Char} :
    cursor.value = .ok (text, after) ↔
      ∃ blanks quote, Blank blanks ∧ (quote = '"' ∨ quote = '\'') ∧ quote ∉ text ∧
        cursor.rest = blanks ++ quote :: (text ++ quote :: after.rest) ∧
        after.position = cursor.position + Utf8.size blanks + Utf8.size text + 2 := by
  obtain ⟨position, rest⟩ := after
  constructor
  · intro h
    unfold value at h
    dsimp only at h
    split at h
    · contradiction
    next quote inside found =>
      split at h
      next quoted =>
        split at h
        next cut =>
          cases h
          obtain ⟨rfl, unended⟩ := Text.cutAt?_singleton_iff.1 cut
          obtain ⟨blanks, blank, split, moved, _⟩ := skipBlanks_iff.1 (Eq.refl cursor.skipBlanks)
          exact ⟨blanks, quote, blank, quoted, unended, by rw [split, found], by rw [moved]⟩
        · contradiction
      · contradiction
  · rintro ⟨blanks, quote, blank, quoted, unended, split, rfl⟩
    have found : cursor.skipBlanks =
        ⟨cursor.position + Utf8.size blanks, quote :: (text ++ quote :: rest)⟩ :=
      skipBlanks_iff.2 ⟨blanks, blank, split, rfl, by simp [isXmlBlank_quote quoted]⟩
    have cut := Text.cutAt?_singleton_iff.2 ⟨Eq.refl (text ++ quote :: rest), unended⟩
    simp [value, found, quoted, cut]

theorem next?_eq_none_iff {seen : List AttributeKey} {cursor : TagCursor} :
    cursor.next? seen = .ok none ↔ Blank cursor.rest := by
  constructor
  · intro h
    obtain ⟨blanks, blank, split, _, _⟩ := skipBlanks_iff.1 (Eq.refl cursor.skipBlanks)
    unfold next? at h
    split at h
    next ended =>
      have nothing : cursor.skipBlanks.rest = [] := by
        unfold key? at ended
        split at ended
        · assumption
        · contradiction
      rw [split, nothing, List.append_nil]
      exact blank
    · repeat' split at h
      all_goals simp at h
  · intro blank
    have found : cursor.skipBlanks = ⟨cursor.position + Utf8.size cursor.rest, []⟩ :=
      skipBlanks_iff.2 ⟨cursor.rest, blank, by simp, rfl, by simp⟩
    simp [next?, found, key?]

theorem next?_parts_iff {seen : List AttributeKey} {cursor after : TagCursor}
    {found : RawAttribute} :
    cursor.next? seen = .ok (some (found, after)) ↔
      ∃ afterKey afterEquals, cursor.skipBlanks.key? = some (found.key, afterKey) ∧
        afterKey.skipEquals = .ok afterEquals ∧ (∀ key ∈ seen, key.name ≠ found.key.name) ∧
        afterEquals.value = .ok (found.value, after) := by
  obtain ⟨key, value⟩ := found
  constructor
  · intro h
    unfold next? at h
    split at h
    · simp at h
    next keyed =>
      split at h
      · contradiction
      next equal =>
        split at h
        · contradiction
        next fresh =>
          split at h
          · contradiction
          next valued =>
            cases h
            exact ⟨_, _, keyed, equal, by simpa using fresh, valued⟩
  · rintro ⟨afterKey, afterEquals, keyed, equal, fresh, valued⟩
    have absent : seen.find? (·.name == key.name) = none := by simpa using fresh
    simp [next?, keyed, equal, absent, valued]

theorem next?_eq_some_iff {seen : List AttributeKey} {cursor after : TagCursor}
    {found : RawAttribute} :
    cursor.next? seen = .ok (some (found, after)) ↔
      (∀ key ∈ seen, key.name ≠ found.key.name) ∧
        ∃ spelling : Spelling, spelling.Regular ∧
          found = ⟨⟨cursor.position + Utf8.size spelling.before, spelling.name⟩, spelling.value⟩ ∧
          cursor.rest = spelling.text ++ after.rest ∧
          after.position = cursor.position + Utf8.size spelling.text := by
  rw [next?_parts_iff]
  constructor
  · rintro ⟨afterKey, afterEquals, keyed, equal, fresh, valued⟩
    obtain ⟨before, blank, cursor_rest, start_at, start⟩ :=
      skipBlanks_iff.1 (Eq.refl cursor.skipBlanks)
    obtain ⟨c, rest, named, inside, name_rest, name_at, _⟩ := key?_iff.1 keyed
    obtain ⟨gap, blank_gap, equals_rest, equals_at⟩ := skipEquals_iff.1 equal
    obtain ⟨gap', quote, blank_gap', quoted, closed, value_rest, value_at⟩ := value_iff.1 valued
    obtain ⟨key, value⟩ := found
    refine ⟨fresh, ⟨before, c :: rest, gap, gap', quote, value⟩, ⟨blank, ?_, blank_gap,
      blank_gap', quoted, closed⟩, ?_, ?_, ?_⟩
    · exact ⟨c, rest, rfl, start c (by simp [name_rest]), inside⟩
    · rw [← start_at, ← named]
    · simp [Spelling.text, cursor_rest, name_rest, equals_rest, value_rest]
    · rw [value_at, equals_at, name_at, start_at]
      rw [Spelling.size_text quoted]
      dsimp only
      omega
  · rintro ⟨fresh, ⟨before, name, gap, gap', quote, value⟩, regular, rfl, split, moved⟩
    obtain ⟨blank, ⟨c, rest, rfl, start, inside⟩, blank_gap, blank_gap', quoted, closed⟩ := regular
    dsimp only at *
    have found : cursor.skipBlanks = ⟨cursor.position + Utf8.size before,
        c :: rest ++ (gap ++ '=' :: (gap' ++ quote :: (value ++ quote :: after.rest)))⟩ :=
      skipBlanks_iff.2 ⟨before, blank, by simp [split, Spelling.text], rfl, by simp [start]⟩
    have keyed : cursor.skipBlanks.key? =
        some (⟨cursor.position + Utf8.size before, c :: rest⟩,
          ⟨cursor.position + Utf8.size before + Utf8.size (c :: rest),
            gap ++ '=' :: (gap' ++ quote :: (value ++ quote :: after.rest))⟩) := by
      rw [found]
      exact key?_iff.2 ⟨c, rest, rfl, inside, rfl, rfl, endsKey_of_blank blank_gap _⟩
    refine ⟨_, ⟨_, gap' ++ quote :: (value ++ quote :: after.rest)⟩, keyed,
      skipEquals_iff.2 ⟨gap, blank_gap, rfl, rfl⟩, fresh,
      value_iff.2 ⟨gap', quote, blank_gap', quoted, closed, rfl, ?_⟩⟩
    rw [moved, Spelling.size_text quoted]
    dsimp only
    omega

end TagCursor

theorem readAttributes_blank {seen : List AttributeKey} {cursor : TagCursor}
    (h : Blank cursor.rest) : readAttributes seen cursor = .ok [] := by
  rw [readAttributes, TagCursor.next?_eq_none_iff.2 h]

theorem readAttributes_cons_iff {seen : List AttributeKey} {cursor after : TagCursor}
    {raw : RawAttribute} (h : cursor.next? seen = .ok (some (raw, after)))
    {attributes : List (String × String)} :
    readAttributes seen cursor = .ok attributes ↔
      checkName raw.key.name = .ok () ∧ checkAttributeValue raw.value = .ok () ∧
        ∃ value, unescape raw.value = .ok value ∧
          ∃ following, readAttributes (raw.key :: seen) after = .ok following ∧
            (String.ofList raw.key.name, String.ofList value) :: following = attributes := by
  rw [readAttributes, h]
  simp

structure Spelling.Spells (spelling : Spelling) (pair : String × String) : Prop
    extends spelling.Regular where
  name_eq : pair.1 = String.ofList spelling.name
  value_eq : unescape spelling.value = .ok pair.2.toList
  name_sound : checkName spelling.name = .ok ()
  value_sound : checkAttributeValue spelling.value = .ok ()

namespace Spelling

variable {spellings : List Spelling} {attributes : List (String × String)}

theorem names_eq (h : List.Forall₂ Spells spellings attributes) :
    attributes.map (·.1.toList) = spellings.map name := by
  induction h with
  | nil => rfl
  | cons first _ ih => simp [first.name_eq, ih]

theorem exists_of_mem (h : List.Forall₂ Spells spellings attributes) {pair : String × String}
    (member : pair ∈ attributes) : ∃ spelling ∈ spellings, spelling.Spells pair := by
  induction h with
  | nil => contradiction
  | cons first _ ih =>
    rcases List.mem_cons.1 member with rfl | later
    · exact ⟨_, List.mem_cons_self, first⟩
    · obtain ⟨spelling, inside, spells⟩ := ih later
      exact ⟨spelling, List.mem_cons_of_mem _ inside, spells⟩

end Spelling

theorem readAttributes_spelled {seen : List AttributeKey} {cursor : TagCursor}
    {attributes : List (String × String)} (h : readAttributes seen cursor = .ok attributes) :
    ∃ (spellings : List Spelling) (blanks : List Char),
      cursor.rest = spellings.flatMap Spelling.text ++ blanks ∧ Blank blanks ∧
      List.Forall₂ Spelling.Spells spellings attributes ∧
      (spellings.map Spelling.name).Nodup ∧
      ∀ key ∈ seen, ∀ spelling ∈ spellings, key.name ≠ spelling.name := by
  induction seen, cursor using readAttributes.induct generalizing attributes with
  | case1 seen cursor fault failed =>
    rw [readAttributes, failed] at h
    contradiction
  | case2 seen cursor ended =>
    rw [TagCursor.next?_eq_none_iff] at ended
    rw [readAttributes_blank ended] at h
    cases h
    exact ⟨[], cursor.rest, rfl, ended, .nil, by simp, by simp⟩
  | case3 seen cursor raw after found ih =>
    rw [readAttributes_cons_iff found] at h
    obtain ⟨name_sound, value_sound, value, resolved, following, rest_read, rfl⟩ := h
    obtain ⟨fresh, spelling, regular, rfl, split, _⟩ := TagCursor.next?_eq_some_iff.1 found
    obtain ⟨spellings, blanks, rest_split, blank, spelled, distinct, apart⟩ := ih rest_read
    rw [List.forall_mem_cons] at apart
    refine ⟨spelling :: spellings, blanks, by simp [split, rest_split], blank,
      .cons ⟨regular, rfl, by simpa using resolved, name_sound, value_sound⟩ spelled, ?_, ?_⟩
    · rw [List.map_cons, List.nodup_cons]
      exact ⟨by simpa [eq_comm] using apart.1, distinct⟩
    · intro key member
      rw [List.forall_mem_cons]
      exact ⟨fresh key member, apart.2 key member⟩

end Schematron.Xml
