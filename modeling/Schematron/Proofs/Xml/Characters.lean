import Schematron.Proofs.Xml.Reference
import Schematron.Proofs.Xml.RoundTrip
import Schematron.Proofs.Xml.Source

/-!
Written text is checked character by character, but for the content of declarations; read text is
checked before references are resolved. Both gaps show in which characters get through.
-/
namespace Schematron.Xml

theorem isXmlChar_of_isNameChar {c : Char} (h : isNameChar c = true) : isXmlChar c = true := by
  simp only [isNameChar, isNameStart, isXmlChar, between, Bool.or_eq_true, Bool.and_eq_true,
    beq_iff_eq, decide_eq_true_eq, ← Char.toNat_inj, Char.reduceToNat] at h ⊢
  omega

theorem isXmlChar_of_toUpper {c : Char} (h : isXmlChar c.toUpper = true) : isXmlChar c = true := by
  unfold Char.toUpper at h
  split at h
  next lower =>
    have point : 97 ≤ c.toNat ∧ c.toNat ≤ 122 := ⟨lower.1, lower.2⟩
    simp only [isXmlChar, between, Bool.or_eq_true, Bool.and_eq_true, decide_eq_true_eq]
    omega
  next => exact h

theorem checkChars_of_blank {text : List Char} (h : Blank text) : checkChars text = .ok () := by
  rw [checkChars_eq_ok_iff]
  intro c member
  have blank := h c member
  simp only [Text.isXmlBlank, Bool.or_eq_true, beq_iff_eq] at blank
  obtain ((rfl | rfl) | rfl) | rfl := blank <;> decide

theorem checkChars_of_name {name : List Char} (h : checkName name = .ok ()) :
    checkChars name = .ok () :=
  checkChars_eq_ok_iff.2 fun _ member => isXmlChar_of_isNameChar (isNameChar_of_mem h member)

theorem checkChars_of_ite {p : Prop} [Decidable p] {fault : Violation} {text : List Char}
    (h : (if p then .error fault else checkChars text) = .ok ()) : checkChars text = .ok () := by
  split at h
  · contradiction
  · exact h

theorem checkChars_of_comment {content : List Char} (h : checkComment content = .ok ()) :
    checkChars content = .ok () :=
  checkChars_of_ite h

theorem checkChars_of_attributeValue {raw : List Char} (h : checkAttributeValue raw = .ok ()) :
    checkChars raw = .ok () :=
  checkChars_of_ite h

theorem checkChars_of_text {raw : List Char} (h : checkText raw = .ok ()) :
    checkChars raw = .ok () :=
  checkChars_of_ite h

theorem checkChars_of_instruction {content : List Char} (h : checkInstruction content = .ok ()) :
    checkChars content = .ok () := by
  simp only [checkInstruction] at h
  split at h
  · simp at h
  · simp only [bind_eq_ok_iff, exists_unit_iff] at h
    exact h.2

theorem checkChars_of_toUpper {text : List Char} (h : checkChars (text.map Char.toUpper) = .ok ()) :
    checkChars text = .ok () := by
  rw [checkChars_eq_ok_iff] at h ⊢
  exact fun c member => isXmlChar_of_toUpper (h _ (List.mem_map_of_mem member))

theorem checkChars_framed_iff {first content last : List Char} (h : checkChars first = .ok ())
    (h' : checkChars last = .ok ()) :
    checkChars (first ++ content ++ last) = .ok () ↔ checkChars content = .ok () := by
  simp only [checkChars_append_iff, h, h', true_and, and_true]

namespace Spelling

variable {spelling : Spelling} {pair : String × String}

theorem Spells.checkChars_text (h : spelling.Spells pair) : checkChars spelling.text = .ok () := by
  have equals : spelling.text =
      spelling.before ++ spelling.name ++ spelling.beforeEquals ++ ['='] ++
        spelling.afterEquals ++ [spelling.quote] ++ spelling.value ++ [spelling.quote] := by
    simp [text]
  have quote : checkChars [spelling.quote] = .ok () := by
    rcases h.quoted with same | same <;> rw [same] <;> rfl
  simp only [equals, checkChars_append_iff, checkChars_of_blank h.before,
    checkChars_of_name h.name_sound, checkChars_of_blank h.beforeEquals,
    checkChars_of_blank h.afterEquals, checkChars_of_attributeValue h.value_sound, quote]
  decide

theorem checkChars_of_spelled {spellings : List Spelling} {attributes : List (String × String)}
    (h : List.Forall₂ Spells spellings attributes) :
    checkChars (spellings.flatMap text) = .ok () := by
  induction h with
  | nil => rfl
  | cons first _ ih =>
    rw [List.flatMap_cons, checkChars_append_iff]
    exact ⟨first.checkChars_text, ih⟩

end Spelling

theorem Element.checkChars_of_ofTag {content : List Char} {line : Option Nat} {element : Element}
    (h : Element.ofTag content line = .ok element) : checkChars content = .ok () := by
  obtain ⟨spellings, blanks, rfl, name_sound, blank, spelled, _⟩ := Element.ofTag_spelled h
  simp only [checkChars_append_iff]
  exact ⟨checkChars_of_name name_sound, Spelling.checkChars_of_spelled spelled,
    checkChars_of_blank blank⟩

namespace Token

/-- What no check looks at: the content of declarations. -/
def unchecked : Token → List Char
  | .declaration content | .doctype content => content
  | _ => []

theorem checkChars_source_iff {token : Token} {source : List Char} (written : token.Source source)
    (sound : token.Sound) (named : ∀ name, token = .endTag name → checkName name = .ok ()) :
    checkChars source = .ok () ↔ checkChars token.unchecked = .ok () := by
  cases token with
  | text raw =>
    subst written
    simp [unchecked, checkChars_of_text sound.1]
  | cdata content =>
    have checked : checkChars content = .ok () := sound
    rw [show source = _ from written, checkChars_framed_iff rfl rfl]
    simp [unchecked, checked]
  | comment content =>
    rw [show source = _ from written, checkChars_framed_iff rfl rfl]
    simp [unchecked, checkChars_of_comment sound]
  | instruction content =>
    rw [show source = _ from written, checkChars_framed_iff rfl rfl]
    simp [unchecked, checkChars_of_instruction sound]
  | startTag content | emptyTag content =>
    obtain ⟨element, read⟩ := sound
    rw [show source = _ from written, checkChars_framed_iff rfl rfl]
    simp [unchecked, Element.checkChars_of_ofTag read]
  | declaration content =>
    rw [show source = _ from written, checkChars_framed_iff rfl rfl]
    rfl
  | doctype content =>
    obtain ⟨keyword, blanks, letters, blank, rfl⟩ := written
    have keyword_chars : checkChars keyword = .ok () :=
      checkChars_of_toUpper (by rw [letters]; rfl)
    rw [checkChars_append_iff, checkChars_append_iff, checkChars_framed_iff rfl
      (checkChars_of_blank blank)]
    simp [unchecked, keyword_chars, show checkChars ['>'] = .ok () from rfl]
  | endTag name =>
    obtain ⟨blanks, blank, rfl⟩ := written
    rw [checkChars_append_iff, checkChars_framed_iff rfl (checkChars_of_blank blank)]
    simp [unchecked, checkChars_of_name (named name rfl), show checkChars ['>'] = .ok () from rfl]

end Token

theorem Lexer.Sources.checkChars_iff {tokens : List Token} {text : List Char}
    (h : Lexer.Sources tokens text) (sound : ∀ token ∈ tokens, token.Sound)
    (named : ∀ name, .endTag name ∈ tokens → checkName name = .ok ()) :
    checkChars text = .ok () ↔ ∀ token ∈ tokens, checkChars token.unchecked = .ok () := by
  induction h with
  | nil => simp
  | cons written _ ih =>
    rw [List.forall_mem_cons] at sound
    rw [checkChars_append_iff, List.forall_mem_cons,
      Token.checkChars_source_iff written sound.1 fun name same => named name (by simp [same]),
      ih sound.2 fun name member => named name (List.mem_cons_of_mem _ member)]

def SoundReference (name : List Char) : Prop :=
  ∀ c, resolveReference 0 name = .ok c → isXmlChar c = true

instance (name : List Char) : Decidable (SoundReference name) :=
  match found : resolveReference 0 name with
  | .ok c => decidable_of_iff (isXmlChar c = true) (by simp [SoundReference, found])
  | .error _ => .isTrue (by simp [SoundReference, found])

theorem Resolves.checkChars_iff {raw resolved : List Char} (h : Resolves raw resolved)
    (written : checkChars raw = .ok ()) :
    checkChars resolved = .ok () ↔ ∀ name ∈ references raw, SoundReference name := by
  simp only [checkChars_eq_ok_iff] at written ⊢
  induction h with
  | nil => simp [references]
  | plain plain _ ih =>
    rw [List.forall_mem_cons] at written
    simp [references, plain, written.1, ih written.2]
  | @reference name raw resolved c amp semicolon found _ ih =>
    have meaning : SoundReference name ↔ isXmlChar c = true := by simp [SoundReference, found]
    simp only [List.forall_mem_cons, List.forall_mem_append] at written
    rw [references_reference amp semicolon, List.forall_mem_cons, List.forall_mem_cons, meaning,
      ih written.2.2.2]

def Token.references : Token → List (List Char)
  | .text raw => Xml.references raw
  | .startTag content | .emptyTag content => Xml.references content
  | _ => []

namespace Spelling

theorem not_mem_blank {text : List Char} (h : Blank text) {c : Char}
    (special : Text.isXmlBlank c = false) : c ∉ text := by
  intro member
  rw [h c member] at special
  contradiction

theorem Spells.references_append {spelling : Spelling} {pair : String × String}
    (h : spelling.Spells pair) (rest : List Char) :
    references (spelling.text ++ rest) = references spelling.value ++ references rest := by
  have split : spelling.text ++ rest = (spelling.before ++ (spelling.name ++
      (spelling.beforeEquals ++ '=' :: (spelling.afterEquals ++ [spelling.quote])))) ++
        (spelling.value ++ ([spelling.quote] ++ rest)) := by
    simp [text]
  have quote : '&' ≠ spelling.quote := by
    rcases h.quoted with same | same <;> rw [same] <;> decide
  have markup : '&' ∉ spelling.before ++ (spelling.name ++ (spelling.beforeEquals ++
      '=' :: (spelling.afterEquals ++ [spelling.quote]))) := by
    simp [not_mem_blank h.before, not_mem_name h.name_sound, not_mem_blank h.beforeEquals,
      not_mem_blank h.afterEquals, quote, Text.isXmlBlank, isNameChar, isNameStart, between]
  rw [split, references_append_plain markup,
    (unescape_eq_ok_iff.1 h.value_eq).references_append,
    references_append_plain (by simpa using quote)]

theorem soundText_iff {spellings : List Spelling} {attributes : List (String × String)}
    (h : List.Forall₂ Spells spellings attributes) {blanks : List Char} (blank : Blank blanks) :
    (∀ pair ∈ attributes, checkChars pair.2.toList = .ok ()) ↔
      ∀ name ∈ references (spellings.flatMap text ++ blanks), SoundReference name := by
  induction h with
  | nil =>
    have none : references (blanks ++ []) = [] :=
      references_append_plain (not_mem_blank blank (by decide)) []
    rw [List.append_nil] at none
    simp [none]
  | cons first _ ih =>
    have resolves := unescape_eq_ok_iff.1 first.value_eq
    have sound := checkChars_of_attributeValue first.value_sound
    rw [List.forall_mem_cons, List.flatMap_cons, List.append_assoc, first.references_append,
      List.forall_mem_append, resolves.checkChars_iff sound, ih]

end Spelling

theorem Element.soundText_iff_of_ofTag {content : List Char} {line : Option Nat} {element : Element}
    (h : Element.ofTag content line = .ok element) :
    (Event.opened element.name element.attributes line).SoundText ↔
      ∀ name ∈ references content, SoundReference name := by
  obtain ⟨spellings, blanks, rfl, name_sound, blank, spelled, _⟩ := Element.ofTag_spelled h
  rw [references_append_plain (not_mem_name name_sound (by decide))]
  exact Spelling.soundText_iff spelled blank

theorem Token.soundText_events_iff {token : Token} (sound : token.Sound) :
    (∀ event ∈ token.events, event.SoundText) ↔
      ∀ name ∈ token.references, SoundReference name := by
  cases token with
  | startTag content | emptyTag content =>
    obtain ⟨element, read⟩ := sound
    have tag := Element.soundText_iff_of_ofTag read
    simp [events, openingEvents, read, tag, references]
  | text raw =>
    obtain ⟨checked, resolved, read⟩ := sound
    have resolves := unescape_eq_ok_iff.1 read
    simp [events, read, references, resolves.checkChars_iff (checkChars_of_text checked)]
  | cdata content =>
    have checked : checkChars content = .ok () := sound
    simp [events, checked, references]
  | _ => simp [events, references]

namespace Event

def characters : Event → List Char
  | .opened name attributes _ =>
    name.toList ++ attributes.flatMap fun pair => pair.1.toList ++ pair.2.toList
  | .text content | .comment content => content.toList
  | .closed => []

@[simp] theorem soundText_eraseLine {event : Event} :
    event.eraseLine.SoundText ↔ event.SoundText := by
  cases event <;> rfl

theorem checkChars_characters_iff {event : Event} (markup : event.SoundMarkup) :
    checkChars event.characters = .ok () ↔ event.SoundText := by
  cases event with
  | opened name attributes line =>
    obtain ⟨name_sound, names, _⟩ := markup
    have pairs :
        checkChars (attributes.flatMap fun pair => pair.1.toList ++ pair.2.toList) = .ok () ↔
          ∀ pair ∈ attributes, checkChars pair.2.toList = .ok () := by
      simp only [checkChars_eq_ok_iff, List.forall_mem_flatMap, List.forall_mem_append]
      refine forall₂_congr fun pair member => and_iff_right ?_
      exact checkChars_eq_ok_iff.1 (checkChars_of_name (names pair member))
    rw [characters, checkChars_append_iff, and_iff_right (checkChars_of_name name_sound), pairs]
    rfl
  | text content => rfl
  | comment content => simp [characters, checkChars_of_comment markup]
  | closed => simp [characters]

end Event

namespace Document

theorem start_eq (text : List Char) : Lexer.start text = ⟨0, [], dropMark text⟩ := by
  cases text with
  | nil => rfl
  | cons c rest =>
    by_cases mark : c = '\ufeff'
    · subst mark
      rfl
    · simp [Lexer.start, dropMark, mark]

theorem checkChars_dropMark_iff {text : List Char} :
    checkChars (dropMark text) = .ok () ↔ checkChars text = .ok () := by
  unfold dropMark
  split
  next rest =>
    rw [show '\ufeff' :: rest = ['\ufeff'] ++ rest from rfl, checkChars_append_iff,
      and_iff_right (show checkChars ['\ufeff'] = .ok () from rfl)]
  · rfl

theorem checkChars_text_iff {text : String} {numbered : Bool} {document : Document}
    (h : parse text numbered = .ok document) :
    checkChars text.toList = .ok () ↔
      ∀ token ∈ tokens text, checkChars token.unchecked = .ok () := by
  obtain ⟨⟨offset, ended⟩, accepted⟩ := (exists_parse_iff numbered).1 ⟨document, h⟩
  -- The lexer skips a mark of its own, so two of them may precede the first token.
  have sources : Lexer.Sources (tokens text) (dropMark (dropMark text.toList)) := by
    have found := Lexer.sources_of_run ended
    rwa [congrArg Lexer.rest (start_eq _)] at found
  have named : ∀ name, .endTag name ∈ tokens text → checkName name = .ok () := by
    intro name member
    rcases Lexer.exists_startTag_of_run member with outer | ⟨content, opened, rfl⟩
    · simp [start_eq] at outer
    · obtain ⟨element, read⟩ := accepted.sound _ opened
      exact (Element.ofTag_iff.1 read).1
  rw [← checkChars_dropMark_iff, ← checkChars_dropMark_iff]
  exact sources.checkChars_iff accepted.sound named

theorem checkChars_tree_iff {text : String} {numbered : Bool} {document : Document}
    (h : parse text numbered = .ok document) :
    (∀ event ∈ document.root.events, checkChars event.characters = .ok ()) ↔
      ∀ token ∈ rootTokens (tokens text), ∀ name ∈ token.references, SoundReference name := by
  have markup := soundMarkup_of_parse h
  have events_eq := events_of_parse h
  obtain ⟨_, accepted⟩ := (exists_parse_iff numbered).1 ⟨document, h⟩
  calc (∀ event ∈ document.root.events, checkChars event.characters = .ok ())
    _ ↔ ∀ event ∈ document.root.events, event.SoundText :=
      forall₂_congr fun event member => Event.checkChars_characters_iff (markup event member)
    _ ↔ ∀ event ∈ document.root.eraseLines.events, event.SoundText := by
      simp [Element.events_eraseLines]
    _ ↔ ∀ token ∈ rootTokens (tokens text), ∀ event ∈ token.events, event.SoundText := by
      rw [events_eq, List.forall_mem_flatMap]
    _ ↔ ∀ token ∈ rootTokens (tokens text), ∀ name ∈ token.references, SoundReference name :=
      forall₂_congr fun token member =>
        Token.soundText_events_iff (accepted.sound token (rootTokens_subset member))

/-- Of an accepted text only declarations and the references in its root can break the rule that
everything consists of Chars: all other text is checked, but these are not. -/
theorem chars_iff {text : String} {numbered : Bool} {document : Document}
    (h : parse text numbered = .ok document) :
    ((∀ c ∈ text.toList, isXmlChar c = true) ∧
        ∀ event ∈ document.root.events, ∀ c ∈ event.characters, isXmlChar c = true) ↔
      (∀ token ∈ tokens text, ∀ c ∈ token.unchecked, isXmlChar c = true) ∧
        ∀ token ∈ rootTokens (tokens text), ∀ name ∈ token.references, SoundReference name := by
  simp only [← checkChars_eq_ok_iff]
  rw [checkChars_text_iff h, checkChars_tree_iff h]

theorem chars_declared :
    (∀ c ∈ "<?xml version='1.0'?><a b='&#65;'>&lt;</a>".toList, isXmlChar c = true) ∧
      ∀ event ∈ [Event.opened "a" [("b", "A")] none, .text "<", .closed],
        ∀ c ∈ event.characters, isXmlChar c = true := by
  have read : parse "<?xml version='1.0'?><a b='&#65;'>&lt;</a>" false =
      .ok (ofRoot ⟨"a", [("b", "A")], [.text "<"], none⟩) := by decide +kernel
  refine (chars_iff read).2 ⟨?_, by decide +kernel⟩
  simp only [← checkChars_eq_ok_iff]
  decide +kernel

theorem chars_unchecked :
    ¬∀ document, parse "<!DOCTYPE a \x01><a>&#2;</a>" false = .ok document →
      (∀ c ∈ "<!DOCTYPE a \x01><a>&#2;</a>".toList, isXmlChar c = true) ∧
        ∀ event ∈ document.root.events, ∀ c ∈ event.characters, isXmlChar c = true := by
  intro all
  have read : parse "<!DOCTYPE a \x01><a>&#2;</a>" false =
      .ok (ofRoot ⟨"a", [], [.text "\x02"], none⟩) := by decide +kernel
  have written := (all _ read).1 '\x01' (by decide)
  contradiction

end Document
end Schematron.Xml
