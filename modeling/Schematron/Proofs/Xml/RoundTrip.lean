import Schematron.Proofs.Xml.Structure
import Schematron.Proofs.Xml.Written

/-!
Writing a tree and reading it back. A tree comes back as its normal form if it is well-formed. A
document that was read need not be: its texts may hold what only a reference can spell, and its
elements may hold nothing but empty texts.
-/
namespace Schematron.Xml

theorem Token.soundMarkup_events {token : Token} (sound : token.Sound) :
    ∀ event ∈ token.events, event.SoundMarkup := by
  have opening : ∀ {content : List Char}, ∀ event ∈ openingEvents content,
      event.SoundMarkup := by
    intro content
    unfold openingEvents
    split
    next element read => simpa using Element.soundMarkup_of_ofTag read
    · simp
  cases token with
  | startTag content => exact opening
  | emptyTag content =>
    rw [events, List.forall_mem_append]
    exact ⟨opening, by simp⟩
  | comment content => simpa [events] using sound
  | text raw =>
    rw [events]
    split <;> simp
  | _ => simp [events]

namespace Document

theorem lex_toXml {root : Element} (delimited : ∀ event ∈ root.events, event.Delimited) :
    Tokenizes (ofRoot root).toXml ∧ tokens (ofRoot root).toXml = root.tokens := by
  obtain ⟨located, stop, tokens_eq, run_eq⟩ := Lexer.reads_element [] root [] delimited 0
  obtain ⟨rest, start⟩ := root.exists_print_eq_cons
  have stopped : (⟨stop, [], []⟩ : Lexer).run = ⟨[], .finished stop⟩ := Lexer.run_of_rest_nil rfl
  rw [List.append_nil, stopped, List.append_nil] at run_eq
  have lexed : lex (dropMark (ofRoot root).toXml.toList) = ⟨located, .finished stop⟩ := by
    simp only [toXml, ofRoot, Element.toXml, String.toList_ofList]
    rw [start] at run_eq ⊢
    exact run_eq
  exact ⟨⟨stop, by rw [lexed]⟩, by rw [tokens, lexed, tokens_eq]⟩

theorem parse_toXml_of_markup {root : Element}
    (markup : ∀ event ∈ root.events, event.SoundMarkup) {document : Document} :
    parse (ofRoot root).toXml false = .ok document ↔
      (∀ event ∈ root.events, event.SoundText) ∧ document = ofRoot root.normal := by
  obtain ⟨whole, tokens_eq⟩ := lex_toXml fun event h => (markup event h).delimited
  have layout : Layout root.tokens [] root.tokens [] :=
    ⟨by simp, isElement_tokens root, by simp, by simp⟩
  have accepted_iff := (isElement_tokens root).accepted_iff (undeclared_tokens root)
  rw [sound_tokens_iff root markup] at accepted_iff
  have built_iff : (∀ event ∈ root.events, event.SoundText) → ∀ element,
      element.events = (rootTokens root.tokens).flatMap Token.events ↔ element = root.normal := by
    intro text element
    rw [← layout.body_eq, flatMap_events_tokens root fun event h => ⟨markup event h, text event h⟩]
    exact Element.events_injective.eq_iff
  rw [parse_false_iff, tokens_eq, and_iff_right whole]
  constructor
  · rintro ⟨built, based⟩
    have text := accepted_iff.1 built.accepted
    obtain ⟨baseUri, element⟩ := document
    obtain rfl := (built_iff text element).1 built.events_eq
    obtain rfl : baseUri = none := based
    exact ⟨text, rfl⟩
  · rintro ⟨text, rfl⟩
    obtain ⟨element, built, events_eq⟩ := (accepted_iff.2 text).builds
    obtain rfl := (built_iff text element).1 events_eq
    exact ⟨built, rfl⟩

theorem soundMarkup_of_parse {text : String} {numbered : Bool} {document : Document}
    (h : parse text numbered = .ok document) :
    ∀ event ∈ document.root.events, event.SoundMarkup := by
  obtain ⟨_, accepted⟩ := (exists_parse_iff numbered).1 ⟨document, h⟩
  intro event member
  have found : event.eraseLine ∈ (rootTokens (tokens text)).flatMap Token.events := by
    rw [← events_of_parse h, Element.events_eraseLines]
    exact List.mem_map_of_mem member
  obtain ⟨token, inside, contributed⟩ := List.mem_flatMap.1 found
  have sound := accepted.sound token (rootTokens_subset inside)
  exact Event.soundMarkup_eraseLine.1 (Token.soundMarkup_events sound _ contributed)

/-- A tree is read back, as its normal form, exactly when it is well-formed. -/
theorem parse_toXml_iff (root : Element) :
    parse (ofRoot root).toXml false = .ok (ofRoot root.normal) ↔
      ∀ event ∈ root.events, event.SoundMarkup ∧ event.SoundText := by
  constructor
  · intro h
    have markup := root.soundMarkup_normal.1 (soundMarkup_of_parse h)
    have text := ((parse_toXml_of_markup markup).1 h).1
    exact fun event member => ⟨markup event member, text event member⟩
  · intro sound
    exact (parse_toXml_of_markup fun event h => (sound event h).1).2
      ⟨fun event h => (sound event h).2, rfl⟩

@[simp] theorem toXml_eraseLines (document : Document) :
    document.eraseLines.toXml = document.toXml := by
  simp [eraseLines, toXml, Element.toXml, Element.print_eraseLines]

/-- A document that was read can be written and read again without a change of its written form
exactly when its texts and attribute values consist of Chars and no element is written with two
tags and nothing between them. Character references can put other characters into a text, and
empty CDATA sections leave empty texts. -/
theorem toXml_stable_iff {text : String} {numbered : Bool} {document : Document}
    (h : parse text numbered = .ok document) :
    (∃ again, parse document.toXml numbered = .ok again ∧ again.toXml = document.toXml) ↔
      (∀ event ∈ document.root.events, event.SoundText) ∧
        ∀ inner ∈ document.root.preorder, ¬inner.Hollow := by
  have reread : ∀ {other : Document}, parse document.toXml false = .ok other ↔
      (∀ event ∈ document.root.events, event.SoundText) ∧ other = ofRoot document.root.normal :=
    parse_toXml_of_markup (soundMarkup_of_parse h)
  have stable : (ofRoot document.root.normal).toXml = document.toXml ↔
      ∀ inner ∈ document.root.preorder, ¬inner.Hollow := by
    rw [← Element.print_normal_eq_iff]
    exact String.ofList_inj
  constructor
  · rintro ⟨again, read, same⟩
    obtain ⟨sound, erased⟩ := reread.1 (parse_eraseLines read)
    rw [← toXml_eraseLines, erased, stable] at same
    exact ⟨sound, same⟩
  · rintro ⟨sound, filled⟩
    have read := reread.2 ⟨sound, rfl⟩
    rw [← eraseLines_parse _ numbered, map_eq_ok_iff] at read
    obtain ⟨again, read, erased⟩ := read
    refine ⟨again, read, ?_⟩
    rw [← toXml_eraseLines, erased, stable]
    exact filled

theorem toXml_stable_escapes :
    ∃ document, parse "<a b='1'>&lt;<!--c--><d></d></a>" true = .ok document ∧
      ∃ again, parse document.toXml true = .ok again ∧ again.toXml = document.toXml := by
  have read : parse "<a b='1'>&lt;<!--c--><d></d></a>" true = .ok (ofRoot ⟨"a", [("b", "1")],
      [.text "<", .comment "c", .element ⟨"d", [], [], some 1⟩], some 1⟩) := by decide +kernel
  exact ⟨_, read, (toXml_stable_iff read).2 ⟨by decide, by decide⟩⟩

theorem toXml_unstable_control :
    ¬∀ document, parse "<a>&#1;</a>" false = .ok document →
      ∃ again, parse document.toXml false = .ok again ∧ again.toXml = document.toXml := by
  intro stable
  have read : parse "<a>&#1;</a>" false =
      .ok (ofRoot ⟨"a", [], [.text "\x01"], none⟩) := by decide +kernel
  obtain ⟨again, reread, _⟩ := stable _ read
  have refused : (parse (ofRoot ⟨"a", [], [.text "\x01"], none⟩).toXml false).isOk = false := by
    decide +kernel
  rw [reread] at refused
  contradiction

end Document
end Schematron.Xml
