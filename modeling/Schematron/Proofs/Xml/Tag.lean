import Mathlib.Data.List.Nodup
import Schematron.Proofs.Xml.Attribute
import Schematron.Proofs.Xml.Escape
import Schematron.Proofs.Xml.Event
import Schematron.Xml.Print

/-!
Tags. What is read from a tag keeps to the rules for names, and of a written tag with its names in
order only the attribute values can keep it from being read.
-/
namespace Schematron.Xml

theorem isNameChar_of_mem {name : List Char} (h : checkName name = .ok ()) {c : Char}
    (member : c ∈ name) : isNameChar c = true := by
  rw [checkName_eq_ok_iff] at h
  cases name with
  | nil => contradiction
  | cons d rest =>
    simp only [isName, Bool.and_eq_true, List.all_eq_true] at h
    rcases List.mem_cons.1 member with rfl | inside
    · simp [isNameChar, h.1]
    · exact h.2 c inside

theorem isXmlBlank_of_isNameChar {c : Char} (h : isNameChar c = true) :
    Text.isXmlBlank c = false := by
  rw [← Bool.not_eq_true]
  intro blank
  simp only [Text.isXmlBlank, Bool.or_eq_true, beq_iff_eq] at blank
  obtain ((rfl | rfl) | rfl) | rfl := blank <;> contradiction

theorem endsKey_of_isNameChar {c : Char} (h : isNameChar c = true) :
    TagCursor.endsKey c = false := by
  have equals : c ≠ '=' := by
    rintro rfl
    contradiction
  simp [TagCursor.endsKey, equals, isXmlBlank_of_isNameChar h]

theorem exists_cons_of_checkName {name : List Char} (h : checkName name = .ok ()) :
    ∃ c rest, name = c :: rest ∧ Text.isXmlBlank c = false ∧
      ∀ d ∈ rest, TagCursor.endsKey d = false := by
  cases name with
  | nil => contradiction
  | cons c rest =>
    refine ⟨c, rest, rfl, isXmlBlank_of_isNameChar (isNameChar_of_mem h (by simp)), ?_⟩
    intro d member
    exact endsKey_of_isNameChar (isNameChar_of_mem h (by simp [member]))

namespace Spelling

def printed (pair : String × String) : Spelling :=
  ⟨[' '], pair.1.toList, [], [], '"', escape pair.2.toList⟩

theorem text_printed (pair : String × String) : (printed pair).text = printAttribute pair := by
  simp [printed, text, printAttribute]

theorem regular_printed {pair : String × String} (h : checkName pair.1.toList = .ok ()) :
    (printed pair).Regular where
  before := by simp [printed, Blank, Text.isXmlBlank]
  name := exists_cons_of_checkName h
  beforeEquals := by simp [printed, Blank]
  afterEquals := by simp [printed, Blank]
  quoted := .inl rfl
  closed := not_mem_escape (.inr (.inr (.inl rfl))) _

end Spelling

theorem readAttributes_printed_iff {seen : List AttributeKey} {position : Nat}
    {attributes result : List (String × String)}
    (names : ∀ pair ∈ attributes, checkName pair.1.toList = .ok ())
    (distinct : (attributes.map Prod.fst).Nodup)
    (apart : ∀ pair ∈ attributes, ∀ key ∈ seen, key.name ≠ pair.1.toList) :
    readAttributes seen ⟨position, attributes.flatMap printAttribute⟩ = .ok result ↔
      (∀ pair ∈ attributes, checkChars pair.2.toList = .ok ()) ∧ result = attributes := by
  induction attributes generalizing seen position result with
  | nil =>
    rw [List.flatMap_nil, readAttributes_blank (by simp [Blank])]
    simp [eq_comm]
  | cons pair attributes ih =>
    rw [List.forall_mem_cons] at names apart
    rw [List.map_cons, List.nodup_cons] at distinct
    have found : TagCursor.next? seen ⟨position, (pair :: attributes).flatMap printAttribute⟩ =
        .ok (some (⟨⟨position + 1, pair.1.toList⟩, escape pair.2.toList⟩,
          ⟨position + Utf8.size (Spelling.printed pair).text,
            attributes.flatMap printAttribute⟩)) :=
      TagCursor.next?_eq_some_iff.2 ⟨apart.1, Spelling.printed pair,
        Spelling.regular_printed names.1, rfl, by simp [Spelling.text_printed], rfl⟩
    have later : ∀ other ∈ attributes,
        ∀ key ∈ ⟨position + 1, pair.1.toList⟩ :: seen, key.name ≠ other.1.toList := by
      intro other member
      rw [List.forall_mem_cons]
      refine ⟨fun same => distinct.1 ?_, apart.2 other member⟩
      rw [String.toList_inj.1 same]
      exact List.mem_map_of_mem member
    rw [readAttributes_cons_iff found, List.forall_mem_cons]
    simp [names.1, checkAttributeValue_escape_iff, unescape_escape, ih names.2 distinct.2 later,
      and_assoc, @eq_comm _ result]

theorem Element.ofTag_iff {content : List Char} {line : Option Nat} {element : Element} :
    Element.ofTag content line = .ok element ↔
      checkName (tagName content) = .ok () ∧
        ∃ attributes, readAttributes []
            ⟨Utf8.size (tagName content), content.drop (tagName content).length⟩ =
              .ok attributes ∧
          ⟨String.ofList (tagName content), attributes, [], line⟩ = element := by
  simp [Element.ofTag]

theorem Element.ofTag_spelled {content : List Char} {line : Option Nat} {element : Element}
    (h : Element.ofTag content line = .ok element) :
    ∃ (spellings : List Spelling) (blanks : List Char),
      content = element.name.toList ++ (spellings.flatMap Spelling.text ++ blanks) ∧
      checkName element.name.toList = .ok () ∧ Blank blanks ∧
      List.Forall₂ Spelling.Spells spellings element.attributes ∧
      (spellings.map Spelling.name).Nodup := by
  obtain ⟨name_sound, attributes, read, rfl⟩ := Element.ofTag_iff.1 h
  obtain ⟨spellings, blanks, rest_eq, blank, spelled, distinct, _⟩ := readAttributes_spelled read
  have split : tagName content ++ content.drop (tagName content).length = content :=
    List.prefix_iff_eq_append.1 (List.takeWhile_prefix _)
  dsimp only at rest_eq
  rw [rest_eq] at split
  exact ⟨spellings, blanks, by simpa using split.symm, by simpa using name_sound, blank, spelled,
    distinct⟩

theorem Element.soundMarkup_of_ofTag {content : List Char} {line : Option Nat} {element : Element}
    (h : Element.ofTag content line = .ok element) :
    (Event.opened element.name element.attributes line).SoundMarkup := by
  obtain ⟨spellings, _, _, name_sound, _, spelled, distinct⟩ := Element.ofTag_spelled h
  refine ⟨name_sound, fun pair member => ?_, ?_⟩
  · obtain ⟨spelling, _, spells⟩ := Spelling.exists_of_mem spelled member
    simpa [spells.name_eq] using spells.name_sound
  · rw [← Spelling.names_eq spelled] at distinct
    exact List.Nodup.of_map String.toList (by rwa [List.map_map])

theorem tagName_append {name rest : List Char} (h : checkName name = .ok ())
    (blank : ∀ c ∈ rest.head?, Text.isXmlBlank c = true) : tagName (name ++ rest) = name := by
  have unblank : ∀ c ∈ name, (!Text.isXmlBlank c) = true := fun c member => by
    simp [isXmlBlank_of_isNameChar (isNameChar_of_mem h member)]
  have stop : ∀ c ∈ rest.head?, (!Text.isXmlBlank c) = false := fun c first => by
    simp [blank c first]
  exact (Text.span_iff.2 ⟨rfl, unblank, stop⟩).1

theorem tagName_printed {name : List Char} (h : checkName name = .ok ())
    (attributes : List (String × String)) :
    tagName (name ++ attributes.flatMap printAttribute) = name := by
  refine tagName_append h ?_
  cases attributes with
  | nil => simp
  | cons pair attributes => simp [printAttribute, Text.isXmlBlank]

theorem Element.ofTag_printed_iff {name : String} {attributes : List (String × String)}
    (sound : (Event.opened name attributes none).SoundMarkup) {element : Element} :
    Element.ofTag (name.toList ++ attributes.flatMap printAttribute) none = .ok element ↔
      (Event.opened name attributes none).SoundText ∧ element = ⟨name, attributes, [], none⟩ := by
  obtain ⟨name_sound, names, distinct⟩ := sound
  rw [Element.ofTag_iff, tagName_printed name_sound]
  simp [name_sound, readAttributes_printed_iff names distinct, Event.SoundText, @eq_comm _ element]

end Schematron.Xml
