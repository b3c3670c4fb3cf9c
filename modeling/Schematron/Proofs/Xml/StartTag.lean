import Schematron.Proofs.Xml.AttributeValue

/-!
The grammar of start tags. A tag is spelled out with its name, its attributes and its blanks; it
keeps to the grammar when every attribute has white space before it, and is read also where only the
first one has.
-/
namespace Schematron.Xml

structure Tag where
  name : List Char
  attributes : List Spelling
  /-- The blanks after the last attribute. -/
  blanks : List Char
  isEmpty : Bool

namespace Spelling

structure IsAttribute (spelling : Spelling) : Prop where
  name : isName spelling.name = true
  beforeEquals : Blank spelling.beforeEquals
  afterEquals : Blank spelling.afterEquals
  quoted : spelling.quote = '"' ∨ spelling.quote = '\''
  value : ∃ meaning, ValueText spelling.quote spelling.value meaning

structure Means (spelling : Spelling) (pair : String × String) : Prop where
  name_eq : pair.1.toList = spelling.name
  value_eq : ValueText spelling.quote spelling.value pair.2.toList

variable {spelling spelling' : Spelling}

theorem Spells.isAttribute {pair : String × String} (h : spelling.Spells pair) :
    spelling.IsAttribute where
  name := checkName_eq_ok_iff.1 h.name_sound
  beforeEquals := h.beforeEquals
  afterEquals := h.afterEquals
  quoted := h.quoted
  value := ⟨_, (valueText_iff h.quoted).2 ⟨h.closed, h.value_sound, h.value_eq⟩⟩

theorem Spells.means {pair : String × String} (h : spelling.Spells pair) : spelling.Means pair where
  name_eq := by simp [h.name_eq]
  value_eq := (valueText_iff h.quoted).2 ⟨h.closed, h.value_sound, h.value_eq⟩

theorem IsAttribute.regular (h : spelling.IsAttribute) (blank : Blank spelling.before) :
    spelling.Regular where
  before := blank
  name := exists_cons_of_checkName (checkName_eq_ok_iff.2 h.name)
  beforeEquals := h.beforeEquals
  afterEquals := h.afterEquals
  quoted := h.quoted
  closed := by
    obtain ⟨meaning, value⟩ := h.value
    exact ((valueText_iff h.quoted).1 value).1

theorem isAttribute_of_spelled {spellings : List Spelling} {attributes : List (String × String)}
    (h : List.Forall₂ Spells spellings attributes) :
    ∀ spelling ∈ spellings, spelling.IsAttribute ∧ Blank spelling.before := by
  induction h with
  | nil => simp
  | cons first _ ih =>
    rw [List.forall_mem_cons]
    exact ⟨⟨first.isAttribute, first.before⟩, ih⟩

theorem eq_of_append {rest rest' : List Char} (h : spelling.Regular) (h' : spelling'.Regular)
    (same : spelling.text ++ rest = spelling'.text ++ rest') :
    spelling = spelling' ∧ rest = rest' := by
  have stops {blanks tail : List Char} (blank : Blank blanks) :
      ∀ d ∈ (blanks ++ '=' :: tail).head?, (!TagCursor.endsKey d) = false := fun d first => by
    rw [TagCursor.endsKey_of_blank blank tail d first]
    rfl
  obtain ⟨before, name, gap, gap', quote, value⟩ := spelling
  obtain ⟨before₁, name₁, gap₁, gap₁', quote₁, value₁⟩ := spelling'
  obtain ⟨blank, ⟨c, more, rfl, start, inside⟩, blank_gap, blank_gap', quoted, closed⟩ := h
  obtain ⟨blank₁, ⟨c₁, more₁, rfl, start₁, inside₁⟩, blank_gap₁, blank_gap₁', quoted₁,
    closed₁⟩ := h'
  dsimp only at *
  simp only [text, List.append_assoc, List.cons_append, List.nil_append] at same
  obtain ⟨rfl, named⟩ :=
    Text.eq_of_append_run blank (by simp [start]) blank₁ (by simp [start₁]) same
  obtain ⟨rfl, named'⟩ := List.cons.inj named
  obtain ⟨rfl, equals⟩ := Text.eq_of_append_run (by simpa using inside) (stops blank_gap)
    (by simpa using inside₁) (stops blank_gap₁) named'
  obtain ⟨rfl, equals'⟩ := Text.eq_of_append_run blank_gap (by simp [not_isXmlBlank_equals])
    blank_gap₁ (by simp [not_isXmlBlank_equals]) equals
  obtain ⟨rfl, opened⟩ := Text.eq_of_append_run blank_gap' (by simp [isXmlBlank_quote quoted])
    blank_gap₁' (by simp [isXmlBlank_quote quoted₁]) (List.cons.inj equals').2
  obtain ⟨rfl, valued⟩ := List.cons.inj opened
  obtain ⟨rfl, rfl⟩ := Text.eq_of_append_mark closed closed₁ valued
  exact ⟨rfl, rfl⟩

end Spelling

namespace Tag

def ending (tag : Tag) : List Char :=
  if tag.isEmpty then ['/', '>'] else ['>']

def content (tag : Tag) : List Char :=
  tag.name ++ (tag.attributes.flatMap Spelling.text ++ tag.blanks)

def text (tag : Tag) : List Char :=
  '<' :: (tag.content ++ tag.ending)

/-- The tag keeps to the grammar but for the white space between its attributes: each attribute may
follow the one before it at once. -/
structure Lenient (tag : Tag) : Prop where
  name : isName tag.name = true
  attributes : ∀ spelling ∈ tag.attributes, spelling.IsAttribute ∧ Blank spelling.before
  first : ∀ spelling ∈ tag.attributes.head?, spelling.before ≠ []
  distinct : (tag.attributes.map Spelling.name).Nodup
  blanks : Blank tag.blanks

def Apart (tag : Tag) : Prop :=
  ∀ spelling ∈ tag.attributes, spelling.before ≠ []

/-- The tag opens an element of this name with these attributes, in the order in which they are
written and with their references resolved. -/
structure Gives (tag : Tag) (name : String) (attributes : List (String × String)) : Prop where
  name_eq : name.toList = tag.name
  attributes_eq : List.Forall₂ Spelling.Means tag.attributes attributes

end Tag

/-- The productions STag and EmptyElemTag, with names that are not repeated. -/
def IsTag (text : List Char) : Prop :=
  ∃ tag : Tag, tag.Lenient ∧ tag.Apart ∧ tag.text = text

namespace Tag

theorem exists_ending_eq (tag : Tag) : ∃ c rest, tag.ending = c :: rest ∧
    Text.isXmlBlank c = false ∧ isNameChar c = false := by
  unfold ending
  split
  · exact ⟨'/', ['>'], rfl, by decide, by decide⟩
  · exact ⟨'>', [], rfl, by decide, by decide⟩

theorem isEmpty_of_ending {tag tag' : Tag} (same : tag.ending = tag'.ending) :
    tag.isEmpty = tag'.isEmpty := by
  unfold ending at same
  cases empty : tag.isEmpty <;> cases empty' : tag'.isEmpty <;> simp [empty, empty'] at same ⊢

theorem ending_ne_attribute {tag : Tag} {blanks rest : List Char} {spelling : Spelling}
    (blank : Blank blanks) (sound : spelling.IsAttribute) (before : Blank spelling.before) :
    blanks ++ tag.ending ≠ spelling.text ++ rest := by
  intro same
  obtain ⟨c, tail, ending_eq, unblank, unnamed⟩ := tag.exists_ending_eq
  have name_sound := checkName_eq_ok_iff.2 sound.name
  obtain ⟨d, more, name_eq, start, -⟩ := exists_cons_of_checkName name_sound
  rw [Spelling.text, ending_eq, name_eq, List.append_assoc, List.append_assoc] at same
  obtain ⟨-, same'⟩ :=
    Text.eq_of_append_run blank (by simp [unblank]) before (by simp [start]) same
  obtain rfl := (List.cons.inj same').1
  rw [isNameChar_of_mem name_sound (by simp [name_eq])] at unnamed
  contradiction

theorem eq_of_attributes {tag tag' : Tag} {spellings spellings' : List Spelling}
    {blanks blanks' : List Char}
    (attributes : ∀ spelling ∈ spellings, spelling.IsAttribute ∧ Blank spelling.before)
    (attributes' : ∀ spelling ∈ spellings', spelling.IsAttribute ∧ Blank spelling.before)
    (blank : Blank blanks) (blank' : Blank blanks')
    (same : spellings.flatMap Spelling.text ++ (blanks ++ tag.ending) =
      spellings'.flatMap Spelling.text ++ (blanks' ++ tag'.ending)) :
    spellings = spellings' ∧ blanks = blanks' ∧ tag.ending = tag'.ending := by
  induction spellings generalizing spellings' with
  | nil =>
    cases spellings' with
    | nil =>
      obtain ⟨c, rest, ending_eq, unblank, -⟩ := tag.exists_ending_eq
      obtain ⟨c', rest', ending_eq', unblank', -⟩ := tag'.exists_ending_eq
      have both := Text.eq_of_append_run blank (by simp [ending_eq, unblank]) blank'
        (by simp [ending_eq', unblank']) same
      exact ⟨rfl, both⟩
    | cons spelling' spellings' =>
      rw [List.forall_mem_cons] at attributes'
      rw [List.flatMap_nil, List.nil_append, List.flatMap_cons, List.append_assoc] at same
      exact absurd same (ending_ne_attribute blank attributes'.1.1 attributes'.1.2)
  | cons spelling spellings ih =>
    rw [List.forall_mem_cons] at attributes
    rw [List.flatMap_cons, List.append_assoc] at same
    cases spellings' with
    | nil =>
      exact absurd same.symm (ending_ne_attribute blank' attributes.1.1 attributes.1.2)
    | cons spelling' spellings' =>
      rw [List.forall_mem_cons] at attributes'
      rw [List.flatMap_cons, List.append_assoc] at same
      obtain ⟨rfl, same'⟩ := Spelling.eq_of_append (attributes.1.1.regular attributes.1.2)
        (attributes'.1.1.regular attributes'.1.2) same
      obtain ⟨rfl, others⟩ := ih attributes.2 attributes'.2 same'
      exact ⟨rfl, others⟩

theorem not_isNameChar_blank {c : Char} (blank : Text.isXmlBlank c = true) :
    isNameChar c = false := by
  by_contra named
  rw [isXmlBlank_of_isNameChar (by simpa using named)] at blank
  contradiction

theorem Lenient.blank_behind {tag : Tag} (h : tag.Lenient) :
    ∀ c ∈ (tag.attributes.flatMap Spelling.text ++ tag.blanks).head?,
      Text.isXmlBlank c = true := by
  intro c behind
  cases attributes_eq : tag.attributes with
  | nil =>
    rw [attributes_eq, List.flatMap_nil, List.nil_append] at behind
    exact h.blanks c (List.mem_of_head? behind)
  | cons spelling spellings =>
    have some : spelling.before ≠ [] := h.first spelling (by simp [attributes_eq])
    obtain ⟨b, before, before_eq⟩ := List.exists_cons_of_ne_nil some
    obtain rfl : b = c := by simpa [attributes_eq, Spelling.text, before_eq] using behind
    exact (h.attributes spelling (by simp [attributes_eq])).2 b (by simp [before_eq])

theorem Lenient.unnamed_behind {tag : Tag} (h : tag.Lenient) :
    ∀ c ∈ (tag.attributes.flatMap Spelling.text ++ tag.blanks ++ tag.ending).head?,
      isNameChar c = false := by
  obtain ⟨d, tail, ending_eq, -, unnamed⟩ := tag.exists_ending_eq
  have blank := h.blank_behind
  intro c behind
  cases inner : tag.attributes.flatMap Spelling.text ++ tag.blanks with
  | nil =>
    obtain rfl : d = c := by simpa [inner, ending_eq] using behind
    exact unnamed
  | cons b more =>
    obtain rfl : b = c := by simpa [inner] using behind
    exact not_isNameChar_blank (blank b (by simp [inner]))

theorem Lenient.unique {tag tag' : Tag} (h : tag.Lenient) (h' : tag'.Lenient)
    (same : tag.text = tag'.text) : tag = tag' := by
  have named {name : List Char} (sound : isName name = true) :
      ∀ c ∈ name, isNameChar c = true :=
    fun c member => isNameChar_of_mem (checkName_eq_ok_iff.2 sound) member
  have inner := (List.cons.inj same).2
  rw [content, content, List.append_assoc tag.name, List.append_assoc tag'.name] at inner
  obtain ⟨name_eq, behind⟩ := Text.eq_of_append_run (named h.name) h.unnamed_behind
    (named h'.name) h'.unnamed_behind inner
  simp only [List.append_assoc] at behind
  obtain ⟨attributes_eq, blanks_eq, ending_eq⟩ := eq_of_attributes h.attributes h'.attributes
    h.blanks h'.blanks behind
  have isEmpty_eq := isEmpty_of_ending ending_eq
  cases tag
  cases tag'
  simp_all

theorem Lenient.isTag_text_iff {tag : Tag} (h : tag.Lenient) : IsTag tag.text ↔ tag.Apart := by
  constructor
  · rintro ⟨other, lenient, apart, same⟩
    rwa [← lenient.unique h same]
  · exact fun apart => ⟨tag, h, apart, rfl⟩

end Tag

namespace Spelling

theorem Means.value_sound {spelling : Spelling} {pair : String × String} (h : spelling.Means pair)
    (quoted : spelling.quote = '"' ∨ spelling.quote = '\'') :
    checkAttributeValue spelling.value = .ok () ∧ unescape spelling.value = .ok pair.2.toList :=
  ((valueText_iff quoted).1 h.value_eq).2

end Spelling

theorem readAttributes_of_means {spellings : List Spelling} {attributes : List (String × String)}
    (means : List.Forall₂ Spelling.Means spellings attributes)
    (sound : ∀ spelling ∈ spellings, spelling.IsAttribute ∧ Blank spelling.before)
    (distinct : (spellings.map Spelling.name).Nodup) {seen : List AttributeKey}
    (apart : ∀ spelling ∈ spellings, ∀ key ∈ seen, key.name ≠ spelling.name) {blanks : List Char}
    (blank : Blank blanks) (position : Nat) :
    readAttributes seen ⟨position, spellings.flatMap Spelling.text ++ blanks⟩ = .ok attributes := by
  induction means generalizing seen position with
  | nil => exact readAttributes_blank blank
  | @cons spelling pair spellings attributes first _ ih =>
    rw [List.forall_mem_cons] at sound apart
    rw [List.map_cons, List.nodup_cons] at distinct
    obtain ⟨value_sound, value_eq⟩ := first.value_sound sound.1.1.quoted
    have found : TagCursor.next? seen
        ⟨position, (spelling :: spellings).flatMap Spelling.text ++ blanks⟩ =
          .ok (some (⟨⟨position + Utf8.size spelling.before, spelling.name⟩, spelling.value⟩,
            ⟨position + Utf8.size spelling.text, spellings.flatMap Spelling.text ++ blanks⟩)) :=
      TagCursor.next?_eq_some_iff.2 ⟨apart.1, spelling, sound.1.1.regular sound.1.2, rfl,
        by simp, rfl⟩
    have later : ∀ other ∈ spellings,
        ∀ key ∈ ⟨position + Utf8.size spelling.before, spelling.name⟩ :: seen,
          key.name ≠ other.name := by
      intro other member
      rw [List.forall_mem_cons]
      refine ⟨fun same => distinct.1 ?_, apart.2 other member⟩
      rw [show spelling.name = other.name from same]
      exact List.mem_map_of_mem member
    rw [readAttributes_cons_iff found]
    refine ⟨checkName_eq_ok_iff.2 sound.1.1.name, value_sound, _, value_eq, attributes,
      ih sound.2 distinct.2 later _, ?_⟩
    rw [← first.name_eq, String.ofList_toList, String.ofList_toList]

namespace Element

variable {content : List Char} {line : Option Nat} {element : Element}

theorem before_ne_nil_of_ofTag (h : ofTag content line = .ok element) {spelling : Spelling}
    {rest : List Char} (regular : spelling.Regular)
    (split : content = element.name.toList ++ (spelling.text ++ rest)) : spelling.before ≠ [] := by
  obtain ⟨-, attributes, -, rfl⟩ := ofTag_iff.1 h
  obtain ⟨split', -, stop⟩ := Text.span_iff.1 ⟨Eq.refl (tagName content), rfl⟩
  obtain ⟨c, more, name_eq, start, -⟩ := regular.name
  intro none
  dsimp only at split
  rw [String.toList_ofList] at split
  have behind := List.append_cancel_left (split'.symm.trans split)
  have blank := stop c (by simp [behind, Spelling.text, none, name_eq])
  simp [start] at blank

theorem ofTag_eq_ok_iff (isEmpty : Bool) :
    ofTag content line = .ok element ↔
      ∃ tag : Tag, tag.Lenient ∧ tag.isEmpty = isEmpty ∧ tag.content = content ∧
        tag.Gives element.name element.attributes ∧ element.children = [] ∧
        element.line = line := by
  constructor
  · intro h
    obtain ⟨spellings, blanks, split, name_sound, blank, spelled, distinct⟩ := ofTag_spelled h
    have sound := Spelling.isAttribute_of_spelled spelled
    have first : ∀ spelling ∈ spellings.head?, spelling.before ≠ [] := by
      intro spelling starts
      obtain ⟨others, rfl⟩ := List.head?_eq_some_iff.1 starts
      rw [List.forall_mem_cons] at sound
      rw [List.flatMap_cons, List.append_assoc] at split
      exact before_ne_nil_of_ofTag h (sound.1.1.regular sound.1.2) split
    obtain ⟨-, attributes, -, rfl⟩ := ofTag_iff.1 h
    refine ⟨⟨_, spellings, blanks, isEmpty⟩, ⟨checkName_eq_ok_iff.1 name_sound, sound, first,
      distinct, blank⟩, rfl, split.symm, ⟨rfl, spelled.imp fun _ _ => Spelling.Spells.means⟩, rfl,
      rfl⟩
  · rintro ⟨tag, lenient, rfl, rfl, gives, childless, lined⟩
    have name_sound := checkName_eq_ok_iff.2 lenient.name
    have name_eq : tagName tag.content = tag.name := tagName_append name_sound lenient.blank_behind
    have read : readAttributes [] ⟨Utf8.size tag.name,
        tag.attributes.flatMap Spelling.text ++ tag.blanks⟩ = .ok element.attributes :=
      readAttributes_of_means gives.attributes_eq lenient.attributes lenient.distinct (by simp)
        lenient.blanks _
    refine ofTag_iff.2 ⟨by rwa [name_eq], element.attributes, ?_, ?_⟩
    · rw [name_eq, Tag.content, List.drop_left]
      exact read
    · obtain ⟨name, attributes, children, line⟩ := element
      dsimp only at childless lined gives
      rw [name_eq, childless, lined, ← gives.name_eq, String.ofList_toList]

end Element
end Schematron.Xml
