import Schematron.Proofs.Xml.LineNumbers
import Schematron.Proofs.Xml.Pieces
import Schematron.Proofs.Xml.StartTag
import Schematron.Proofs.Xml.Tree

/-!
The tags of a document. Every piece of its text that begins an element is a tag of the grammar, but
for the white space between attributes, which is not asked for; the tags stand in the order of the
elements of the tree and give their names and attributes.
-/
namespace Schematron.Xml

def Element.heading (element : Element) : String × List (String × String) :=
  (element.name, element.attributes)

def Event.heading? : Event → Option (String × List (String × String))
  | .opened name attributes _ => some (name, attributes)
  | .text _ | .comment _ | .closed => none

theorem Element.heading_eraseLines (element : Element) :
    element.eraseLines.heading = element.heading := by
  simp [heading]

mutual

theorem Element.headings_events : ∀ element : Element,
    element.events.filterMap Event.heading? = element.preorder.map Element.heading
  | ⟨name, attributes, children, line⟩ => by
    simp [Element.events, Element.preorder, Event.heading?, Element.heading,
      headings_eventsOfNodes children]

theorem headings_eventsOfNodes : ∀ nodes : List Node,
    (eventsOfNodes nodes).filterMap Event.heading? = (preorderNodes nodes).map Element.heading
  | [] => rfl
  | .element inner :: rest => by
    simp [eventsOfNodes, preorderNodes, Node.events, Node.preorder, inner.headings_events,
      headings_eventsOfNodes rest]
  | .text _ :: rest | .comment _ :: rest => by
    simp [eventsOfNodes, preorderNodes, Node.events, Node.preorder, List.filterMap_cons,
      Event.heading?, headings_eventsOfNodes rest]

end

namespace Token

variable {token : Token} {source : List Char}

def headings (token : Token) : List (String × List (String × String)) :=
  token.events.filterMap Event.heading?

theorem headings_of_not_begins (h : token.begins = false) : token.headings = [] := by
  cases token with
  | startTag | emptyTag => contradiction
  | text raw =>
    cases resolved : unescape raw <;> simp [headings, events, resolved, Event.heading?]
  | _ => rfl

theorem begins_of_not_isTag (h : token.isTag = false) : token.begins = false := by
  cases token with
  | startTag | emptyTag => contradiction
  | _ => rfl

/-- A token that begins an element has the text of a tag, which gives the element. -/
theorem exists_tag (written : token.Source source) (sound : token.Sound)
    (begins : token.begins = true) :
    ∃ (tag : Tag) (element : Element), tag.Lenient ∧ tag.text = source ∧
      tag.Gives element.name element.attributes ∧ token.headings = [element.heading] := by
  cases token with
  | startTag content =>
    obtain ⟨element, read⟩ := sound
    obtain ⟨tag, lenient, isEmpty, rfl, gives, -⟩ := (Element.ofTag_eq_ok_iff false).1 read
    refine ⟨tag, element, lenient, ?_, gives, ?_⟩
    · rw [show source = _ from written]
      simp [Tag.text, Tag.ending, isEmpty]
    · simp [headings, events, openingEvents, read, Event.heading?, Element.heading]
  | emptyTag content =>
    obtain ⟨element, read⟩ := sound
    obtain ⟨tag, lenient, isEmpty, rfl, gives, -⟩ := (Element.ofTag_eq_ok_iff true).1 read
    refine ⟨tag, element, lenient, ?_, gives, ?_⟩
    · rw [show source = _ from written]
      simp [Tag.text, Tag.ending, isEmpty]
    · simp [headings, events, openingEvents, read, Event.heading?, Element.heading]
  | _ => contradiction

end Token

def OtherSource (source : List Char) : Prop :=
  '<' ∉ source ∨ ∃ c rest, source = '<' :: c :: rest ∧ c ∈ ['!', '?', '/']

theorem Token.otherSource {token : Token} {source : List Char} (written : token.Source source)
    (begins : token.begins = false) (plain : ∀ raw, token = .text raw → '<' ∉ raw) :
    OtherSource source := by
  cases token with
  | startTag | emptyTag => contradiction
  | text raw =>
    rw [show source = raw from written]
    exact .inl (plain raw rfl)
  | cdata | comment | instruction | declaration =>
    rw [show source = _ from written]
    exact .inr ⟨_, _, rfl, by simp⟩
  | doctype content =>
    obtain ⟨keyword, blanks, -, -, rfl⟩ := written
    exact .inr ⟨'!', keyword ++ blanks ++ content ++ ['>'], by simp, by simp⟩
  | endTag name =>
    obtain ⟨blanks, -, rfl⟩ := written
    exact .inr ⟨'/', name ++ blanks ++ ['>'], by simp, by simp⟩

theorem Opening.build_ne_text (opening : Opening) (body raw : List Char) :
    opening.build body ≠ .ok (.text raw) := by
  cases opening with
  | cdata =>
    simp only [build, Token.ofCdata]
    split <;> simp
  | comment =>
    simp only [build, Token.ofComment]
    split <;> simp
  | doctype =>
    simp only [build, Token.ofDoctype]
    repeat' split
    all_goals simp
  | instruction =>
    simp only [build, Token.ofInstruction]
    repeat' split
    all_goals simp
  | endTag => simp [build]
  | tag =>
    simp only [build, Token.ofTag]
    split <;> simp

namespace Lexer

theorem not_mem_of_next {lexer after : Lexer} {raw : List Char}
    (h : lexer.next = .token (.text raw) after) : '<' ∉ raw := by
  rcases next_cases h with ⟨_, _, _, _, -, -, -, built, -⟩ | ⟨_, same, plain, -⟩
  · exact absurd built (Opening.build_ne_text _ _ _)
  · cases same
    exact plain

theorem otherSource_of_mem_pieces {lexer : Lexer} {piece : Piece} (member : piece ∈ lexer.pieces)
    (begins : piece.token.begins = false) : OtherSource piece.source := by
  induction lexer using Lexer.run.induct with
  | case1 lexer ended => simp [pieces_of_rest_nil (next_eq_finished_iff.1 ended)] at member
  | case2 lexer fault offset failed => simp [pieces_of_failed failed] at member
  | case3 lexer token next taken ih =>
    obtain ⟨⟨source, written, split⟩, _⟩ := next_source taken
    rw [pieces_of_next taken split, List.mem_cons] at member
    rcases member with rfl | later
    · refine Token.otherSource written begins fun raw same => ?_
      subst same
      exact not_mem_of_next taken
    · exact ih later

end Lexer

/-- The pieces that begin elements are tags, which give the elements one after the other. -/
theorem exists_tags {pieces : List Piece}
    (written : ∀ piece ∈ pieces, piece.token.Source piece.source)
    (sound : ∀ piece ∈ pieces, piece.token.Sound) :
    ∃ tags : List Tag,
      (pieces.filter (·.token.begins)).map Piece.source = tags.map Tag.text ∧
      (∀ tag ∈ tags, tag.Lenient) ∧
      List.Forall₂ (fun tag heading => tag.Gives heading.1 heading.2) tags
        (pieces.flatMap (·.token.headings)) := by
  induction pieces with
  | nil => exact ⟨[], rfl, by simp, .nil⟩
  | cons piece pieces ih =>
    rw [List.forall_mem_cons] at written sound
    obtain ⟨tags, texts, lenient, gives⟩ := ih written.2 sound.2
    cases begins : piece.token.begins with
    | true =>
      obtain ⟨tag, element, lenient', text_eq, gives', headings⟩ :=
        Token.exists_tag written.1 sound.1 begins
      refine ⟨tag :: tags, by simp [begins, texts, text_eq], ?_, ?_⟩
      · rw [List.forall_mem_cons]
        exact ⟨lenient', lenient⟩
      · rw [List.flatMap_cons, headings]
        exact .cons gives' gives
    | false =>
      refine ⟨tags, by simp [begins, texts], lenient, ?_⟩
      rwa [List.flatMap_cons, Token.headings_of_not_begins begins]

namespace Document

variable {text : String} {numbered : Bool} {document : Document}

theorem headings_of_parse (h : parse text numbered = .ok document) :
    document.root.descendants.map Element.heading = (tokens text).flatMap Token.headings := by
  obtain ⟨_, accepted⟩ := (exists_parse_iff numbered).1 ⟨document, h⟩
  obtain ⟨prolog, body, epilog, layout, _⟩ := accepted.single_root
  have outside {tokens : List Token} (untagged : ∀ token ∈ tokens, token.isTag = false) :
      tokens.flatMap Token.headings = [] :=
    List.flatMap_eq_nil_iff.2 fun token member =>
      Token.headings_of_not_begins (Token.begins_of_not_isTag (untagged token member))
  have events := congrArg (List.filterMap Event.heading?) (events_of_parse h)
  rw [Element.headings_events, Element.preorder_eraseLines, List.map_map,
    List.filterMap_flatMap, ← layout.body_eq] at events
  simp only [Function.comp_def, Element.heading_eraseLines] at events
  rw [layout.split, List.flatMap_append, List.flatMap_append, outside layout.prolog_untagged,
    outside layout.epilog_untagged, List.nil_append, List.append_nil, Element.descendants_eq]
  exact events

/-- A document is its marks and its pieces. Those that begin elements are tags with a name, with
attributes of different names and with white space before the first of them, and each is a tag of
the grammar exactly if there is white space before the other attributes too. The elements of the
tree in document order have the names and the attributes that the tags give. -/
theorem tags_of_parse (h : parse text numbered = .ok document) :
    marks text ++ (pieces text).flatMap Piece.source = text.toList ∧
      (∀ piece ∈ pieces text, piece.token.begins = false → OtherSource piece.source) ∧
      ∃ tags : List Tag,
        ((pieces text).filter (·.token.begins)).map Piece.source = tags.map Tag.text ∧
        (∀ tag ∈ tags, tag.Lenient ∧ (IsTag tag.text ↔ tag.Apart)) ∧
        List.Forall₂ (fun tag element => tag.Gives element.name element.attributes) tags
          document.root.descendants := by
  obtain ⟨whole, accepted⟩ := (exists_parse_iff numbered).1 ⟨document, h⟩
  have sound : ∀ piece ∈ pieces text, piece.token.Sound := by
    intro piece member
    refine accepted.sound _ ?_
    rw [← map_token_pieces]
    exact List.mem_map_of_mem member
  have written : ∀ piece ∈ pieces text, piece.token.Source piece.source :=
    fun piece member => Lexer.source_of_mem_pieces member
  obtain ⟨tags, texts, lenient, gives⟩ := exists_tags written sound
  have headings : (pieces text).flatMap (·.token.headings) =
      document.root.descendants.map Element.heading := by
    rw [headings_of_parse h, ← map_token_pieces, List.flatMap_map]
  rw [headings, List.forall₂_map_right_iff] at gives
  refine ⟨marks_append_pieces whole, fun piece member begins =>
    Lexer.otherSource_of_mem_pieces member begins, tags, texts, fun tag member => ?_, gives⟩
  exact ⟨lenient tag member, (lenient tag member).isTag_text_iff⟩

theorem tags_of_parse_brackets :
    ∃ document,
      parse "<a x='1&#x32;>' ><!--<b--><b z=\"\" w = '&lt;'/><c y=\"1\"z=\"2\"></c></a>" false =
        .ok document ∧
      document.root.descendants.map Element.heading =
        [("a", [("x", "12>")]), ("b", [("z", ""), ("w", "<")]), ("c", [("y", "1"), ("z", "2")])] ∧
      ∃ tags : List Tag,
        ["<a x='1&#x32;>' >", "<b z=\"\" w = '&lt;'/>", "<c y=\"1\"z=\"2\">"].map String.toList =
          tags.map Tag.text ∧
        (∀ tag ∈ tags, tag.Lenient ∧ (IsTag tag.text ↔ tag.Apart)) ∧
        List.Forall₂ (fun tag element => tag.Gives element.name element.attributes) tags
          document.root.descendants := by
  have read : parse "<a x='1&#x32;>' ><!--<b--><b z=\"\" w = '&lt;'/><c y=\"1\"z=\"2\"></c></a>"
      false = .ok (ofRoot ⟨"a", [("x", "12>")],
        [.comment "<b", .element ⟨"b", [("z", ""), ("w", "<")], [], none⟩,
          .element ⟨"c", [("y", "1"), ("z", "2")], [], none⟩], none⟩) := by decide +kernel
  have sources :
      ((pieces "<a x='1&#x32;>' ><!--<b--><b z=\"\" w = '&lt;'/><c y=\"1\"z=\"2\"></c></a>").filter
        (·.token.begins)).map Piece.source =
      ["<a x='1&#x32;>' >", "<b z=\"\" w = '&lt;'/>", "<c y=\"1\"z=\"2\">"].map String.toList := by
    decide +kernel
  obtain ⟨-, -, tags, texts, lenient, gives⟩ := tags_of_parse read
  rw [sources] at texts
  refine ⟨_, read, ?_, tags, texts, lenient, gives⟩
  rw [Element.descendants_eq]
  rfl

def adjoined : Tag :=
  ⟨['a'], [⟨[' '], ['x'], [], [], '"', ['1']⟩, ⟨[], ['y'], [], [], '"', ['2']⟩], [], true⟩

theorem lenient_adjoined : adjoined.Lenient where
  name := by decide
  attributes := by
    have value (c : Char) (h : isXmlChar c = true ∧ c ≠ '<' ∧ c ≠ '&' ∧ c ≠ '"') :
        ∃ meaning, ValueText '"' [c] meaning := ⟨[c], .plain h.1 h.2.1 h.2.2.1 h.2.2.2 .nil⟩
    unfold adjoined
    simp only [List.forall_mem_cons]
    refine ⟨⟨?_, by decide⟩, ⟨?_, by decide⟩, by simp⟩
    · exact ⟨by decide, by decide, by decide, .inl rfl, value '1' (by decide)⟩
    · exact ⟨by decide, by decide, by decide, .inl rfl, value '2' (by decide)⟩
  first := by simp [adjoined]
  distinct := by decide
  blanks := by decide

theorem tags_adjoined :
    ∃ document, parse "<a x=\"1\"y=\"2\"/>" false = .ok document ∧
      ∃ piece ∈ pieces "<a x=\"1\"y=\"2\"/>", piece.token.begins = true ∧ ¬IsTag piece.source := by
  have read : parse "<a x=\"1\"y=\"2\"/>" false =
      .ok (ofRoot ⟨"a", [("x", "1"), ("y", "2")], [], none⟩) := by decide +kernel
  have found : pieces "<a x=\"1\"y=\"2\"/>" =
      [⟨⟨0, .emptyTag adjoined.content⟩, adjoined.text⟩] := by decide +kernel
  refine ⟨_, read, ⟨⟨0, .emptyTag adjoined.content⟩, adjoined.text⟩, by simp [found], rfl, ?_⟩
  rw [lenient_adjoined.isTag_text_iff]
  simp [Tag.Apart, adjoined]

end Document
end Schematron.Xml
