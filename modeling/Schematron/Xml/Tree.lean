/-!
Documents in memory: elements with attributes in written order, and text and comments between them.
Neighbouring texts stay apart and empty ones are kept.
-/
namespace Schematron.Xml

mutual

/-- An element; `line` is that of its start tag, where lines are kept. It has no bound, and a number
of 32 bits cannot hold it from line 2 ^ 32 on. -/
structure Element where
  name : String
  attributes : List (String × String)
  children : List Node
  line : Option Nat

inductive Node where
  | element (inner : Element)
  | text (content : String)
  | comment (content : String)

end

mutual

def Element.decEq : (first second : Element) → Decidable (first = second)
  | ⟨name, attributes, children, line⟩, ⟨name', attributes', children', line'⟩ =>
    if rest : name = name' ∧ attributes = attributes' ∧ line = line' then
      match decEqNodes children children' with
      | .isTrue same => .isTrue (by simp [rest, same])
      | .isFalse differ => .isFalse (by simp [differ])
    else .isFalse (by
      intro same
      cases same
      exact rest ⟨rfl, rfl, rfl⟩)

def Node.decEq : (first second : Node) → Decidable (first = second)
  | .element first, .element second =>
    match first.decEq second with
    | .isTrue same => .isTrue (by simp [same])
    | .isFalse differ => .isFalse (by simp [differ])
  | .text first, .text second =>
    if same : first = second then .isTrue (by simp [same]) else .isFalse (by simp [same])
  | .comment first, .comment second =>
    if same : first = second then .isTrue (by simp [same]) else .isFalse (by simp [same])
  | .element _, .text _ | .element _, .comment _ | .text _, .element _ | .text _, .comment _
  | .comment _, .element _ | .comment _, .text _ => .isFalse (by simp)

def decEqNodes : (first second : List Node) → Decidable (first = second)
  | [], [] => .isTrue rfl
  | [], _ :: _ | _ :: _, [] => .isFalse (by simp)
  | first :: firsts, second :: seconds =>
    match first.decEq second, decEqNodes firsts seconds with
    | .isTrue same, .isTrue rest => .isTrue (by simp [same, rest])
    | .isFalse differ, _ => .isFalse (by simp [differ])
    | _, .isFalse differ => .isFalse (by simp [differ])

end

instance : DecidableEq Element := Element.decEq
instance : DecidableEq Node := Node.decEq

def Node.element? : Node → Option Element
  | .element inner => some inner
  | _ => none

def elementsOf (nodes : List Node) : List Element :=
  nodes.filterMap Node.element?

mutual

def Element.count : Element → Nat
  | ⟨_, _, children, _⟩ => 1 + countNodes children

def Node.count : Node → Nat
  | .element inner => inner.count
  | .text _ | .comment _ => 0

def countNodes : List Node → Nat
  | [] => 0
  | node :: rest => node.count + countNodes rest

end

mutual

def Element.preorder : Element → List Element
  | ⟨name, attributes, children, line⟩ =>
    ⟨name, attributes, children, line⟩ :: preorderNodes children

def Node.preorder : Node → List Element
  | .element inner => inner.preorder
  | .text _ | .comment _ => []

def preorderNodes : List Node → List Element
  | [] => []
  | node :: rest => node.preorder ++ preorderNodes rest

end

mutual

def Element.text : Element → String
  | ⟨_, _, children, _⟩ => textOfNodes children

def Node.textContent : Node → String
  | .element inner => inner.text
  | .text content => content
  | .comment _ => ""

def textOfNodes : List Node → String
  | [] => ""
  | node :: rest => node.textContent ++ textOfNodes rest

end

mutual

def Element.eraseLines : Element → Element
  | ⟨name, attributes, children, _⟩ => ⟨name, attributes, eraseLinesNodes children, none⟩

def Node.eraseLines : Node → Node
  | .element inner => .element inner.eraseLines
  | .text content => .text content
  | .comment content => .comment content

def eraseLinesNodes : List Node → List Node
  | [] => []
  | node :: rest => node.eraseLines :: eraseLinesNodes rest

end

namespace Element

def named (name : String) : Element :=
  ⟨name, [], [], none⟩

/-- The name after its last colon. -/
def localName (element : Element) : String :=
  String.ofList (element.name.toList.reverse.takeWhile (· != ':')).reverse

/-- The name before its first colon, if it has one. -/
def prefixName? (element : Element) : Option String :=
  let name := element.name.toList
  if ':' ∈ name then some (String.ofList (name.takeWhile (· != ':'))) else none

def attribute? (element : Element) (name : String) : Option String :=
  element.attributes.lookup name

end Element

/-- The attributes with one value set: in its place if the name is there, else at the end. -/
def setIn (name value : String) : List (String × String) → List (String × String)
  | [] => [(name, value)]
  | (key, old) :: rest =>
    if key = name then (key, value) :: rest else (key, old) :: setIn name value rest

namespace Element

def setAttribute (element : Element) (name value : String) : Element :=
  { element with attributes := setIn name value element.attributes }

def addChild (element : Element) (child : Node) : Element :=
  { element with children := element.children ++ [child] }

def childElements (element : Element) : List Element :=
  elementsOf element.children

end Element

def countElements : List Element → Nat
  | [] => 0
  | element :: rest => element.count + countElements rest

@[simp] theorem countElements_cons (element : Element) (rest : List Element) :
    countElements (element :: rest) = element.count + countElements rest :=
  rfl

@[simp] theorem countElements_append (first second : List Element) :
    countElements (first ++ second) = countElements first + countElements second := by
  induction first with
  | nil => simp [countElements]
  | cons element rest ih => simp [ih, Nat.add_assoc]

theorem countElements_elementsOf (nodes : List Node) :
    countElements (elementsOf nodes) = countNodes nodes := by
  induction nodes with
  | nil => rfl
  | cons node rest ih =>
    cases node <;>
      simpa [countElements, elementsOf, Node.element?, countNodes, Node.count,
        List.filterMap_cons] using ih

theorem Element.count_eq (element : Element) :
    element.count = 1 + countElements element.childElements := by
  cases element with
  | mk name attributes children line =>
    simp [Element.count, Element.childElements, countElements_elementsOf]

/-- Walks through pending elements: the first is listed and its children come before the rest. -/
def walk : List Element → List Element
  | [] => []
  | element :: pending => element :: walk (element.childElements ++ pending)
termination_by pending => countElements pending
decreasing_by
  rw [countElements_append, countElements_cons, Element.count_eq element]
  omega

theorem preorderNodes_eq (nodes : List Node) :
    preorderNodes nodes = (elementsOf nodes).flatMap Element.preorder := by
  induction nodes with
  | nil => rfl
  | cons node rest ih =>
    cases node <;>
      simp [preorderNodes, Node.preorder, ih, elementsOf, Node.element?, List.filterMap_cons]

theorem Element.preorder_eq (element : Element) :
    element.preorder = element :: element.childElements.flatMap Element.preorder := by
  cases element with
  | mk name attributes children line =>
    simp [Element.preorder, Element.childElements, preorderNodes_eq]

theorem walk_eq_flatMap (pending : List Element) :
    walk pending = pending.flatMap Element.preorder := by
  fun_induction walk pending with
  | case1 => rfl
  | case2 element pending ih => simp [ih, Element.preorder_eq element]

namespace Element

def descendants (element : Element) : List Element :=
  walk [element]

def findFirst? (element : Element) (localName : String) : Option Element :=
  element.descendants.find? (·.localName == localName)

end Element
end Schematron.Xml
