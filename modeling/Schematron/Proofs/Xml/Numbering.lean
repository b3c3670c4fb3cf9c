import Schematron.Proofs.Xml.Event
import Schematron.Xml.Document

/-!
Lines are annotations. The builder is followed token by token, with and without them; its state
without lines moves as the state with lines does.
-/
namespace Schematron.Xml

theorem eraseLinesNodes_eq_map (nodes : List Node) :
    eraseLinesNodes nodes = nodes.map Node.eraseLines := by
  induction nodes with
  | nil => rfl
  | cons node rest ih => simp [eraseLinesNodes, ih]

@[simp] theorem Element.eraseLines_addChild (element : Element) (child : Node) :
    (element.addChild child).eraseLines = element.eraseLines.addChild child.eraseLines := by
  obtain ⟨name, attributes, children, line⟩ := element
  simp [Element.addChild, Element.eraseLines, eraseLinesNodes_eq_map]

@[simp] theorem Element.name_eraseLines (element : Element) :
    element.eraseLines.name = element.name := by
  cases element
  rfl

namespace Element

@[simp] theorem attributes_eraseLines (element : Element) :
    element.eraseLines.attributes = element.attributes := by
  cases element
  rfl

@[simp] theorem children_eraseLines (element : Element) :
    element.eraseLines.children = element.children.map Node.eraseLines := by
  cases element
  exact eraseLinesNodes_eq_map _

@[simp] theorem localName_eraseLines (element : Element) :
    element.eraseLines.localName = element.localName := by
  simp [localName]

@[simp] theorem attribute?_eraseLines (element : Element) (name : String) :
    element.eraseLines.attribute? name = element.attribute? name := by
  simp [attribute?]

@[simp] theorem eraseLines_setAttribute (element : Element) (name value : String) :
    (element.setAttribute name value).eraseLines = element.eraseLines.setAttribute name value := by
  cases element
  rfl

@[simp] theorem childElements_eraseLines (element : Element) :
    element.eraseLines.childElements = element.childElements.map Element.eraseLines := by
  rw [childElements, childElements, children_eraseLines]
  induction element.children with
  | nil => rfl
  | cons node rest ih =>
    cases node <;>
      simpa [elementsOf, Node.eraseLines, Node.element?, List.filterMap_cons] using ih

end Element

mutual

theorem Element.preorder_eraseLines : ∀ element : Element,
    element.eraseLines.preorder = element.preorder.map Element.eraseLines
  | ⟨name, attributes, children, line⟩ => by
    simp [Element.eraseLines, Element.preorder, preorderNodes_eraseLines children]

theorem preorderNodes_eraseLines : ∀ nodes : List Node,
    preorderNodes (eraseLinesNodes nodes) = (preorderNodes nodes).map Element.eraseLines
  | [] => rfl
  | .element inner :: rest => by
    simp [eraseLinesNodes, Node.eraseLines, preorderNodes, Node.preorder,
      inner.preorder_eraseLines, preorderNodes_eraseLines rest]
  | .text _ :: rest | .comment _ :: rest => by
    simp [eraseLinesNodes, Node.eraseLines, preorderNodes, Node.preorder,
      preorderNodes_eraseLines rest]

end

@[simp] theorem Element.descendants_eraseLines (element : Element) :
    element.eraseLines.descendants = element.descendants.map Element.eraseLines := by
  simp [Element.descendants, walk_eq_flatMap, Element.preorder_eraseLines]

theorem Element.eraseLines_ofTag (content : List Char) (line : Option Nat) :
    (Element.ofTag content line).map Element.eraseLines = Element.ofTag content none := by
  simp only [Element.ofTag, bind, Except.bind]
  cases (checkName (tagName content)).mapError Cause.violation with
  | error => rfl
  | ok =>
    dsimp only
    cases readAttributes [] ⟨Utf8.size (tagName content), content.drop (tagName content).length⟩ <;>
      rfl

namespace Event

def eraseLine : Event → Event
  | .opened name attributes _ => .opened name attributes none
  | event => event

@[simp] theorem soundMarkup_eraseLine {event : Event} :
    event.eraseLine.SoundMarkup ↔ event.SoundMarkup := by
  cases event <;> rfl

end Event

mutual

theorem Element.events_eraseLines : ∀ element : Element,
    element.eraseLines.events = element.events.map Event.eraseLine
  | ⟨name, attributes, children, line⟩ => by
    simp [Element.eraseLines, Element.events, Event.eraseLine, eventsOfNodes_eraseLines children]

theorem eventsOfNodes_eraseLines : ∀ nodes : List Node,
    eventsOfNodes (eraseLinesNodes nodes) = (eventsOfNodes nodes).map Event.eraseLine
  | [] => rfl
  | .element inner :: rest => by
    simp [eraseLinesNodes, Node.eraseLines, eventsOfNodes, Node.events,
      inner.events_eraseLines, eventsOfNodes_eraseLines rest]
  | .text content :: rest | .comment content :: rest => by
    simp [eraseLinesNodes, Node.eraseLines, eventsOfNodes, Node.events, Event.eraseLine,
      eventsOfNodes_eraseLines rest]

end

mutual

theorem Element.print_eraseLines : ∀ element : Element, element.eraseLines.print = element.print
  | ⟨name, attributes, [], line⟩ => rfl
  | ⟨name, attributes, node :: rest, line⟩ => by
    have same := printNodes_eraseLines (node :: rest)
    simp only [eraseLinesNodes, printNodes] at same
    simp [Element.eraseLines, eraseLinesNodes, Element.print, same]

theorem printNodes_eraseLines : ∀ nodes : List Node,
    printNodes (eraseLinesNodes nodes) = printNodes nodes
  | [] => rfl
  | .element inner :: rest => by
    simp [eraseLinesNodes, Node.eraseLines, printNodes, Node.print, inner.print_eraseLines,
      printNodes_eraseLines rest]
  | .text content :: rest | .comment content :: rest => by
    simp [eraseLinesNodes, Node.eraseLines, printNodes, Node.print, printNodes_eraseLines rest]

end

namespace Builder

def eraseLines (builder : Builder) : Builder :=
  { builder with
    openElements := builder.openElements.map Element.eraseLines
    root := builder.root.map Element.eraseLines }

theorem eraseLines_attach (element : Element) (builder : Builder) :
    (builder.attach element).map eraseLines = builder.eraseLines.attach element.eraseLines := by
  obtain ⟨openElements, root, started, doctypeSeen⟩ := builder
  cases openElements <;> cases root <;>
    simp [attach, eraseLines, Except.map, Node.eraseLines]

theorem eraseLines_take (numbered : Bool) (line : Nat) (builder : Builder) (token : Token) :
    (builder.take numbered line token).map eraseLines =
      builder.eraseLines.take false line token := by
  obtain ⟨openElements, root, started, doctypeSeen⟩ := builder
  cases token with
  | declaration content => cases started <;> rfl
  | doctype content =>
    simp only [take, eraseLines, Option.isSome_map, List.isEmpty_map]
    split <;> rfl
  | instruction content =>
    simp only [take, bind, Except.bind]
    cases checkInstruction content <;> rfl
  | startTag content =>
    have same := Element.eraseLines_ofTag content (if numbered then some line else none)
    simp only [take, bind, Except.bind, Bool.false_eq_true, if_false]
    rw [← same]
    cases Element.ofTag content (if numbered then some line else none) with
    | error => rfl
    | ok element => cases openElements <;> cases root <;> rfl
  | emptyTag content =>
    have same := Element.eraseLines_ofTag content (if numbered then some line else none)
    simp only [take, bind, Except.bind, Bool.false_eq_true, if_false]
    rw [← same]
    cases Element.ofTag content (if numbered then some line else none) with
    | error => rfl
    | ok element => exact eraseLines_attach element _
  | endTag name =>
    cases openElements with
    | nil => rfl
    | cons element outer => exact eraseLines_attach element _
  | text raw =>
    simp only [take, bind, Except.bind]
    cases checkText raw with
    | error => rfl
    | ok =>
      cases unescape raw with
      | error => rfl
      | ok text =>
        cases openElements with
        | nil => cases h : text.all Text.isBlank <;> simp only [mapError_ok, h] <;> rfl
        | cons parent outer =>
          exact congrArg Except.ok (by simp [eraseLines, Node.eraseLines])
  | cdata content =>
    simp only [take, bind, Except.bind]
    cases checkChars content with
    | error => rfl
    | ok =>
      cases openElements with
      | nil => rfl
      | cons parent outer =>
        exact congrArg Except.ok (by simp [eraseLines, Node.eraseLines])
  | comment content =>
    simp only [take, bind, Except.bind]
    cases checkComment content with
    | error => rfl
    | ok =>
      cases openElements with
      | nil => rfl
      | cons parent outer =>
        exact congrArg Except.ok (by simp [eraseLines, Node.eraseLines])

theorem eraseLines_step (numbered : Bool) (builder : Builder) (token : Nat × Token) :
    (step numbered builder token).map eraseLines = step false builder.eraseLines token := by
  have same := eraseLines_take numbered token.1 builder token.2
  unfold step
  rw [← same]
  cases builder.take numbered token.1 token.2 <;> rfl

theorem eraseLines_run (numbered : Bool) (builder : Builder) (tokens : List (Nat × Token)) :
    (tokens.foldlM (step numbered) builder).map eraseLines =
      tokens.foldlM (step false) builder.eraseLines := by
  induction tokens generalizing builder with
  | nil => rfl
  | cons token rest ih =>
    simp only [List.foldlM_cons, bind, Except.bind, ← eraseLines_step numbered]
    cases step numbered builder token with
    | error => rfl
    | ok next => exact ih next

theorem eraseLines_finish (builder : Builder) :
    builder.finish.map Element.eraseLines = builder.eraseLines.finish := by
  obtain ⟨openElements, root, started, doctypeSeen⟩ := builder
  cases openElements <;> cases root <;> simp [finish, eraseLines, Except.map]

end Builder

namespace Document

def eraseLines (document : Document) : Document :=
  { document with root := document.root.eraseLines }

theorem eraseLines_rootOfLexed (numbered : Bool) (bytes : List UInt8) (lexed : Lexed) :
    (rootOfLexed numbered bytes lexed).map Element.eraseLines = rootOfLexed false bytes lexed := by
  have run := Builder.eraseLines_run numbered Builder.empty
    (numberTokens (LineCounter.start bytes) lexed.tokens).1
  simp only [rootOfLexed, bind, Except.bind]
  rw [show Builder.empty.eraseLines = Builder.empty from rfl] at run
  rw [← run]
  cases (numberTokens (LineCounter.start bytes) lexed.tokens).1.foldlM (Builder.step numbered)
      Builder.empty with
  | error => rfl
  | ok builder =>
    cases lexed.ending with
    | failed => rfl
    | finished =>
      simp only [Except.map, ← Builder.eraseLines_finish]
      cases builder.finish <;> rfl

theorem eraseLines_ofText (text : List Char) (numbered : Bool) :
    (ofText text numbered).map eraseLines = ofText text false := by
  have same := eraseLines_rootOfLexed numbered (Utf8.encode (dropMark text)) (lex (dropMark text))
  simp only [ofText]
  rw [← same]
  cases rootOfLexed numbered (Utf8.encode (dropMark text)) (lex (dropMark text)) <;> rfl

theorem eraseLines_parse (text : String) (numbered : Bool) :
    (parse text numbered).map eraseLines = parse text false :=
  eraseLines_ofText text.toList numbered

theorem eraseLines_parseBytes (bytes : List UInt8) (numbered : Bool) :
    (parseBytes bytes numbered).map eraseLines = parseBytes bytes false := by
  unfold parseBytes
  cases Encoding.decodeDocument bytes with
  | error fault => rfl
  | ok text => exact eraseLines_ofText text numbered

end Document
end Schematron.Xml
