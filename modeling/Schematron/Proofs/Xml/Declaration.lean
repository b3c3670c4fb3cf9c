import Schematron.Proofs.Encoding.Declared
import Schematron.Proofs.Encoding.Offset
import Schematron.Proofs.Encoding.Utf8
import Schematron.Proofs.Xml.Attribute

/-!
The XML declaration (XML 1.0, productions 23 to 26, 32, 80 and 81) before a document in bytes. A
declaration is ASCII, holds no `>` before its end, and has a `g` only in `encoding` and in what
comes after it, so the search for `encoding` finds the setting itself.
-/
namespace Schematron.Xml

structure Spelling.Sets (spelling : Spelling) (name : String) (IsValue : List Char → Prop) :
    Prop where
  before : Blank spelling.before
  apart : spelling.before ≠ []
  name : spelling.name = name.toList
  beforeEquals : Blank spelling.beforeEquals
  afterEquals : Blank spelling.afterEquals
  quoted : spelling.quote = '"' ∨ spelling.quote = '\''
  value : IsValue spelling.value

def IsVersion (text : List Char) : Prop :=
  ∃ digits, text = '1' :: '.' :: digits ∧ digits ≠ [] ∧
    ∀ c ∈ digits, between 0x30 0x39 c = true

def isAsciiLetter (c : Char) : Bool :=
  between 0x41 0x5A c || between 0x61 0x7A c

def IsEncodingName (text : List Char) : Prop :=
  ∃ c rest, text = c :: rest ∧ isAsciiLetter c = true ∧
    ∀ d ∈ rest, isAsciiLetter d = true ∨ between 0x30 0x39 d = true ∨ d = '.' ∨ d = '_' ∨ d = '-'

def IsStandalone (text : List Char) : Prop :=
  text = "yes".toList ∨ text = "no".toList

/-- XMLDecl: the version, then the encoding and the standalone part where they are given. -/
structure Declaration where
  version : Spelling
  encoding : Option Spelling
  standalone : Option Spelling
  /-- The white space before the end. -/
  after : List Char

namespace Declaration

def back (declaration : Declaration) : List Char :=
  declaration.standalone.elim [] Spelling.text ++ declaration.after

def content (declaration : Declaration) : List Char :=
  declaration.version.text ++ declaration.encoding.elim [] Spelling.text ++ declaration.back

def text (declaration : Declaration) : List Char :=
  ['<', '?', 'x', 'm', 'l'] ++ declaration.content ++ ['?', '>']

structure WellFormed (declaration : Declaration) : Prop where
  version : declaration.version.Sets "version" IsVersion
  encoding : ∀ spelling ∈ declaration.encoding, spelling.Sets "encoding" IsEncodingName
  standalone : ∀ spelling ∈ declaration.standalone, spelling.Sets "standalone" IsStandalone
  after : Blank declaration.after

end Declaration

def IsInner (c : Char) : Prop :=
  c.toNat < 0x80 ∧ c.toNat ≠ 0x3E

def IsQuiet (c : Char) : Prop :=
  IsInner c ∧ c.toNat ≠ 0x67

instance (c : Char) : Decidable (IsInner c) :=
  inferInstanceAs (Decidable (_ ∧ _))

instance (c : Char) : Decidable (IsQuiet c) :=
  inferInstanceAs (Decidable (_ ∧ _))

theorem forall_mem_of_all {P : Char → Prop} [DecidablePred P] {text : List Char}
    (h : text.all (fun c => decide (P c)) = true) : ∀ c ∈ text, P c := by
  simpa using h

theorem toNat_of_between {low high : Nat} {c : Char} (h : between low high c = true) :
    low ≤ c.toNat ∧ c.toNat ≤ high := by
  simpa [between] using h

theorem isQuiet_of_isXmlBlank {c : Char} (h : Text.isXmlBlank c = true) : IsQuiet c := by
  simp only [Text.isXmlBlank, Bool.or_eq_true, beq_iff_eq] at h
  obtain ⟨⟨rfl | rfl⟩ | rfl⟩ | rfl := h <;> decide

theorem isQuiet_of_digit {c : Char} (h : between 0x30 0x39 c = true) : IsQuiet c := by
  have range := toNat_of_between h
  exact ⟨⟨by omega, by omega⟩, by omega⟩

theorem toNat_of_isAsciiLetter {c : Char} (h : isAsciiLetter c = true) :
    0x41 ≤ c.toNat ∧ c.toNat ≤ 0x7A := by
  simp only [isAsciiLetter, Bool.or_eq_true] at h
  rcases h with upper | lower
  · have range := toNat_of_between upper
    omega
  · have range := toNat_of_between lower
    omega

theorem IsVersion.isQuiet {text : List Char} (h : IsVersion text) : ∀ c ∈ text, IsQuiet c := by
  obtain ⟨digits, rfl, -, digit⟩ := h
  simp only [List.forall_mem_cons]
  exact ⟨by decide, by decide, fun c member => isQuiet_of_digit (digit c member)⟩

theorem IsStandalone.isQuiet {text : List Char} (h : IsStandalone text) :
    ∀ c ∈ text, IsQuiet c := by
  rcases h with rfl | rfl <;> exact forall_mem_of_all (by decide)

theorem IsEncodingName.isInner {text : List Char} (h : IsEncodingName text) :
    ∀ c ∈ text, IsInner c ∧ 0x27 < c.toNat := by
  have ofLetter : ∀ c, isAsciiLetter c = true → IsInner c ∧ 0x27 < c.toNat := fun c letter => by
    have range := toNat_of_isAsciiLetter letter
    exact ⟨⟨by omega, by omega⟩, by omega⟩
  obtain ⟨first, rest, rfl, letter, later⟩ := h
  simp only [List.forall_mem_cons]
  refine ⟨ofLetter first letter, fun c member => ?_⟩
  rcases later c member with letter | digit | rfl | rfl | rfl
  · exact ofLetter c letter
  · exact ⟨(isQuiet_of_digit digit).1, Nat.lt_of_lt_of_le (by decide) (toNat_of_between digit).1⟩
  · decide
  · decide
  · decide

theorem Spelling.Sets.forall_mem_text {spelling : Spelling} {name : String}
    {IsValue : List Char → Prop} (h : spelling.Sets name IsValue) {P : Char → Prop}
    (blank : ∀ c, Text.isXmlBlank c = true → P c) (signs : P '=' ∧ P '"' ∧ P '\'')
    (named : ∀ c ∈ name.toList, P c) (value : ∀ c ∈ spelling.value, P c) :
    ∀ c ∈ spelling.text, P c := by
  obtain ⟨equals, double, single⟩ := signs
  have quote : P spelling.quote := by rcases h.quoted with same | same <;> rwa [same]
  intro c member
  simp only [Spelling.text, List.mem_append, List.mem_cons, List.not_mem_nil, or_false] at member
  rcases member with gap | letter | gap | rfl | gap | rfl | inner | rfl
  · exact blank c (h.before c gap)
  · exact named c (h.name ▸ letter)
  · exact blank c (h.beforeEquals c gap)
  · exact equals
  · exact blank c (h.afterEquals c gap)
  · exact quote
  · exact value c inner
  · exact quote

namespace Declaration.WellFormed

variable {declaration : Declaration}

theorem isQuiet_version (h : declaration.WellFormed) :
    ∀ c ∈ declaration.version.text, IsQuiet c :=
  h.version.forall_mem_text (fun _ => isQuiet_of_isXmlBlank) (by decide)
    (forall_mem_of_all (by decide)) h.version.value.isQuiet

theorem isQuiet_back (h : declaration.WellFormed) : ∀ c ∈ declaration.back, IsQuiet c := by
  have blank : ∀ c ∈ declaration.after, IsQuiet c := fun c member =>
    isQuiet_of_isXmlBlank (h.after c member)
  unfold back
  cases stated : declaration.standalone with
  | none => exact blank
  | some spelling =>
    have sets := h.standalone spelling stated
    exact List.forall_mem_append.2 ⟨sets.forall_mem_text (fun _ => isQuiet_of_isXmlBlank)
      (by decide) (forall_mem_of_all (by decide)) sets.value.isQuiet, blank⟩

theorem isInner_encoding (h : declaration.WellFormed) {spelling : Spelling}
    (named : declaration.encoding = some spelling) : ∀ c ∈ spelling.text, IsInner c := by
  have sets := h.encoding spelling named
  exact sets.forall_mem_text (fun _ blank => (isQuiet_of_isXmlBlank blank).1) (by decide)
    (forall_mem_of_all (by decide)) fun c member => (sets.value.isInner c member).1

theorem isInner (h : declaration.WellFormed) : ∀ c ∈ declaration.content, IsInner c := by
  have version : ∀ c ∈ declaration.version.text, IsInner c := fun c member =>
    (h.isQuiet_version c member).1
  have back : ∀ c ∈ declaration.back, IsInner c := fun c member => (h.isQuiet_back c member).1
  unfold content
  simp only [List.forall_mem_append]
  cases named : declaration.encoding with
  | none => exact ⟨⟨version, by simp⟩, back⟩
  | some spelling => exact ⟨⟨version, h.isInner_encoding named⟩, back⟩

theorem ascii (h : declaration.WellFormed) : Utf8.Ascii declaration.content := fun c member =>
  (h.isInner c member).1

theorem encloses (h : declaration.WellFormed) (rest : List UInt8)
    (short : (Utf8.encode declaration.text).length ≤ 1024) :
    Encoding.Encloses (Utf8.encode declaration.text ++ rest)
      (Utf8.encode declaration.content) := by
  have start : Utf8.encode ['<', '?', 'x', 'm', 'l'] = Encoding.declarationStart := by decide
  have stop : Utf8.encode ['?', '>'] = Encoding.declarationEnd := by decide
  rw [text, Utf8.encode_append, Utf8.encode_append, start, stop] at short ⊢
  refine ⟨List.prefix_append _ _, ?_, short⟩
  have absent : UInt8.ofNat '>'.toNat ∉ Utf8.encode declaration.content :=
    Utf8.not_mem_encode h.ascii (by decide) fun member => (h.isInner '>' member).2 rfl
  refine Text.occursIn_eq_false_of_not_mem (x := 0x3E) (by decide) ?_
  simpa using absent

theorem names (h : declaration.WellFormed) {spelling : Spelling}
    (named : declaration.encoding = some spelling) :
    Encoding.Names declaration.content spelling.value := by
  have sets := h.encoding spelling named
  have isBlank : ∀ {blanks : List Char}, Blank blanks → ∀ c ∈ blanks, Text.isBlank c = true :=
    fun blank c member =>
      Text.isBlank_of_isAsciiBlank (Text.isAsciiBlank_of_isXmlBlank (blank c member))
  refine ⟨declaration.version.text ++ spelling.before, spelling.beforeEquals,
    spelling.afterEquals, spelling.quote, declaration.back, ?_, ?_, isBlank sets.beforeEquals,
    isBlank sets.afterEquals, sets.quoted, fun member => ?_⟩
  · simp [content, named, Spelling.text, sets.name]
  · refine Text.occursIn_eq_false_of_not_mem (x := 'g') (by decide) fun member => ?_
    rcases List.mem_append.1 member with earlier | letter
    · rcases List.mem_append.1 earlier with version | blank
      · exact (h.isQuiet_version 'g' version).2 rfl
      · exact absurd (sets.before 'g' blank) (by decide)
    · exact absurd letter (by decide)
  · have later := (sets.value.isInner _ member).2
    rcases sets.quoted with same | same <;> rw [same] at later <;> exact absurd later (by decide)

theorem declaredValue?_content (h : declaration.WellFormed) :
    Encoding.declaredValue? declaration.content = declaration.encoding.map (·.value) := by
  cases named : declaration.encoding with
  | none =>
    have absent : 'g' ∉ declaration.content := by
      simp only [content, named, Option.elim_none, List.append_nil, List.mem_append, not_or]
      exact ⟨fun member => (h.isQuiet_version 'g' member).2 rfl,
        fun member => (h.isQuiet_back 'g' member).2 rfl⟩
    have nowhere : Text.occursIn "encoding".toList declaration.content = false :=
      Text.occursIn_eq_false_of_not_mem (by decide) absent
    rw [Text.occursIn, Option.isSome_eq_false_iff, Option.isNone_iff_eq_none] at nowhere
    rw [Encoding.declaredValue?, nowhere, Option.map_none]
  | some spelling =>
    rw [Option.map_some, Encoding.declaredValue?_eq_some_iff]
    exact h.names named

theorem declaredLabel?_eq (h : declaration.WellFormed) (rest : List UInt8)
    (short : (Utf8.encode declaration.text).length ≤ 1024) :
    Encoding.declaredLabel? (Utf8.encode declaration.text ++ rest) =
      declaration.encoding.map (·.value) := by
  rw [(h.encloses rest short).declaredLabel?_eq, Utf8.lossy_encode_of_ascii h.ascii,
    h.declaredValue?_content]

end Declaration.WellFormed

/-- A declaration decides the encoding of a document: the label that it gives, and UTF-8 where it
gives none. Layout, version, standalone part and all that follows the declaration play no part.
The offsets at which the label is looked for are good on every input. -/
theorem decodeDocument_declaration :
    (∀ (declaration : Declaration) (rest : List UInt8), declaration.WellFormed →
      (Utf8.encode declaration.text).length ≤ 1024 →
      Encoding.decodeDocument (Utf8.encode declaration.text ++ rest) =
        match declaration.encoding with
        | none => Encoding.utf8.read (Utf8.encode declaration.text ++ rest)
        | some spelling =>
          match Encoding.ofLabel? spelling.value with
          | none | some .replacement => .error (.unsupported spelling.value)
          | some (.utf16 _) => .error (.notUtf16 spelling.value)
          | some encoding => encoding.read (Utf8.encode declaration.text ++ rest)) ∧
    ∀ bytes, Offset.declaredLabel? bytes = some (Encoding.declaredLabel? bytes) := by
  refine ⟨fun declaration rest h short => ?_, Offset.declaredLabel?_eq⟩
  obtain ⟨unmarked, narrow⟩ := (h.encloses rest short).unmarked
  rw [Encoding.decodeDocument_of_unmarked unmarked narrow, h.declaredLabel?_eq rest short]
  cases declaration.encoding with
  | none => rfl
  | some spelling =>
    simp only [Option.map_some, Encoding.ofDeclaredLabel]
    cases Encoding.ofLabel? spelling.value with
    | none => rfl
    | some encoding => cases encoding <;> rfl

def latinDeclaration : Declaration where
  version := ⟨[' '], "version".toList, [], [], '\'', "1.0".toList⟩
  encoding := some ⟨['\n', '\t'], "encoding".toList, [' '], [' '], '"', "latin1".toList⟩
  standalone := some ⟨[' '], "standalone".toList, [], [], '\'', "yes".toList⟩
  after := [' ']

theorem latinDeclaration_wellFormed : latinDeclaration.WellFormed where
  version := ⟨by decide, by decide, rfl, by decide, by decide, by decide,
    "0".toList, rfl, by decide, forall_mem_of_all (by decide)⟩
  encoding := by
    rintro spelling ⟨⟩
    exact ⟨by decide, by decide, rfl, by decide, by decide, by decide, 'l', "atin1".toList, rfl,
      by decide, forall_mem_of_all (by decide)⟩
  standalone := by
    rintro spelling ⟨⟩
    exact ⟨by decide, by decide, rfl, by decide, by decide, by decide, .inl rfl⟩
  after := by decide

theorem decodeDocument_latinDeclaration :
    Encoding.decodeDocument (Utf8.encode latinDeclaration.text ++
      (Utf8.encode "<a b='?>'>encoding='utf8'".toList ++ 0xE9 :: Utf8.encode "</a>".toList)) =
      .ok (latinDeclaration.text ++ "<a b='?>'>encoding='utf8'é</a>".toList) := by
  have read := decodeDocument_declaration.1 latinDeclaration
    (Utf8.encode "<a b='?>'>encoding='utf8'".toList ++ 0xE9 :: Utf8.encode "</a>".toList)
    latinDeclaration_wellFormed (by decide)
  exact read.trans (by decide +kernel)

end Schematron.Xml
