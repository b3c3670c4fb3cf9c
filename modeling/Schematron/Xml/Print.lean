import Schematron.Xml.Reference
import Schematron.Xml.Tree

/-!
The written form of a tree, and its outline. The written form has no declaration and does not show
lines; an element without children is an empty-element tag.
-/
namespace Schematron.Xml

def printAttribute : String × String → List Char
  | (name, value) =>
    ' ' :: name.toList ++ '=' :: '"' :: escape value.toList ++ ['"']

mutual

def Element.print : Element → List Char
  | ⟨name, attributes, children, _⟩ =>
    '<' :: name.toList ++ attributes.flatMap printAttribute ++
      match children with
      | [] => ['/', '>']
      | node :: rest =>
        '>' :: node.print ++ printNodes rest ++ '<' :: '/' :: name.toList ++ ['>']

def Node.print : Node → List Char
  | .element inner => inner.print
  | .text content => escape content.toList
  | .comment content => ['<', '!', '-', '-'] ++ content.toList ++ ['-', '-', '>']

def printNodes : List Node → List Char
  | [] => []
  | node :: rest => node.print ++ printNodes rest

end

def Element.toXml (element : Element) : String :=
  String.ofList element.print

inductive Item
  | element (name : String) (attributes : List (String × String)) (line : Option Nat)
  | text (content : String)
  | comment (content : String)
  deriving DecidableEq, Repr

mutual

def Element.outline (depth : Nat) : Element → List (Nat × Item)
  | ⟨name, attributes, children, line⟩ =>
    (depth, .element name attributes line) :: outlineNodes (depth + 1) children

def Node.outline (depth : Nat) : Node → List (Nat × Item)
  | .element inner => inner.outline depth
  | .text content => [(depth, .text content)]
  | .comment content => [(depth, .comment content)]

def outlineNodes (depth : Nat) : List Node → List (Nat × Item)
  | [] => []
  | node :: rest => node.outline depth ++ outlineNodes depth rest

end

end Schematron.Xml
