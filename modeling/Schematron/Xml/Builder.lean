import Schematron.Xml.ParseError
import Schematron.Xml.Tree

/-!
Building a tree from tokens. The builder holds the elements that are still open and the root once
it is complete; every token is checked when it comes, and the first fault ends the building.
-/
namespace Schematron.Xml

/-- The attributes of a tag from a place on, checked and with references resolved. Each attribute
is checked in full before the next one is looked for. -/
def readAttributes (seen : List AttributeKey) (cursor : TagCursor) :
    Except Cause (List (String × String)) :=
  match _h : cursor.next? seen with
  | .error fault => .error (.attributes fault)
  | .ok none => .ok []
  | .ok (some (raw, after)) => do
    (checkName raw.key.name).mapError .violation
    (checkAttributeValue raw.value).mapError .violation
    let value ← (unescape raw.value).mapError .reference
    let following ← readAttributes (raw.key :: seen) after
    return (String.ofList raw.key.name, String.ofList value) :: following
termination_by cursor.rest.length
decreasing_by exact TagCursor.length_next?_lt _h

def Element.ofTag (content : List Char) (line : Option Nat) : Except Cause Element := do
  let name := tagName content
  (checkName name).mapError .violation
  let attributes ← readAttributes [] ⟨Utf8.size name, content.drop name.length⟩
  return ⟨String.ofList name, attributes, [], line⟩

structure Builder where
  /-- The elements not yet ended, the innermost first. -/
  openElements : List Element
  root : Option Element
  started : Bool
  doctypeSeen : Bool

namespace Builder

def empty : Builder :=
  ⟨[], none, false, false⟩

/-- Puts a complete element under the innermost open one, or makes it the root. -/
def attach (element : Element) (builder : Builder) : Except Cause Builder :=
  match builder.openElements, builder.root with
  | parent :: outer, _ =>
    .ok { builder with openElements := parent.addChild (.element element) :: outer }
  | [], none => .ok { builder with root := some element }
  | [], some _ => .error .multipleRoots

/-- Takes in one token that starts on the given line; `numbered` tells whether elements keep it. -/
def take (numbered : Bool) (line : Nat) (builder : Builder) : Token → Except Cause Builder
  | .declaration _ =>
    if builder.started then .error .misplacedDeclaration else .ok builder
  | .doctype _ =>
    if builder.doctypeSeen ∨ builder.root.isSome ∨ ¬builder.openElements.isEmpty then
      .error .misplacedDoctype
    else .ok { builder with doctypeSeen := true }
  | .instruction content => do
    (checkInstruction content).mapError .violation
    return builder
  | .startTag content => do
    let element ← Element.ofTag content (if numbered then some line else none)
    if builder.openElements.isEmpty ∧ builder.root.isSome then throw .multipleRoots
    return { builder with openElements := element :: builder.openElements }
  | .emptyTag content => do
    let element ← Element.ofTag content (if numbered then some line else none)
    builder.attach element
  | .endTag _ =>
    match builder.openElements with
    | [] => .error .unexpectedEnd
    | element :: outer => attach element { builder with openElements := outer }
  | .text raw => do
    (checkText raw).mapError .violation
    let text ← (unescape raw).mapError .reference
    match builder.openElements with
    | parent :: outer =>
      return { builder with openElements := parent.addChild (.text (String.ofList text)) :: outer }
    | [] => if text.all Text.isBlank then return builder else throw .textOutsideRoot
  | .cdata content => do
    (checkChars content).mapError .violation
    match builder.openElements with
    | parent :: outer =>
      return { builder with
        openElements := parent.addChild (.text (String.ofList content)) :: outer }
    | [] => throw .cdataOutsideRoot
  | .comment content => do
    (checkComment content).mapError .violation
    match builder.openElements with
    | parent :: outer =>
      return { builder with
        openElements := parent.addChild (.comment (String.ofList content)) :: outer }
    | [] => return builder

/-- Takes in one token with its line; after it nothing is the first token any more. -/
def step (numbered : Bool) (builder : Builder) (numberedToken : Nat × Token) :
    Except ParseError Builder :=
  match builder.take numbered numberedToken.1 numberedToken.2 with
  | .ok next => .ok { next with started := true }
  | .error cause => .error ⟨some numberedToken.1, cause⟩

def finish (builder : Builder) : Except Cause Element :=
  match builder.openElements, builder.root with
  | element :: _, _ => .error (.unclosedElement element.name)
  | [], some root => .ok root
  | [], none => .error .noRoot

end Builder
end Schematron.Xml
