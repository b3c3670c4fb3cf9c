import Schematron.Text.Blank
import Schematron.Text.Split

/-!
Where a reference leads. Resources live under one root and are named by the path from it; a
reference is walked segment by segment from the directory of the resource it stands in. A walk
that would leave the root, or ends at the root itself, leads nowhere, and so does a reference with
a scheme.
-/
namespace Schematron.Location

abbrev Segment := List Char

/-- Whether a reference starts with a scheme: letters, digits and `+ - .` before its first colon. -/
def hasScheme (reference : List Char) : Bool :=
  match Text.cutAt? [':'] reference with
  | some (scheme, _) =>
    !scheme.isEmpty && scheme.all fun c => c.isAlphanum || c == '+' || c == '-' || c == '.'
  | none => false

/-- One segment of a walk. The segments that lead to the present place are given last first. -/
def step (place : List Segment) (segment : Segment) : Option (List Segment) :=
  if segment = [] ∨ segment = ['.'] then some place
  else if segment = ['.', '.'] then
    match place with
    | [] => none
    | _ :: outer => some outer
  else some (segment :: place)

def segments (path : List Char) : List Segment :=
  (Text.splitOn '/' path).filter (· ≠ [])

def directoryOf (path : List Char) : List Segment :=
  (segments path).reverse.tail

def startOf (reference : List Char) (base : Option (List Char)) : List Segment :=
  if reference.head? = some '/' then []
  else match base with
    | some path => directoryOf path
    | none => []

def pathOf (place : List Segment) : List Char :=
  Text.joinWith '/' place.reverse

def resolveTrimmed? (reference : List Char) (base : Option (List Char)) : Option (List Char) :=
  if reference.isEmpty ∨ hasScheme reference ∨ reference.head? = some '\\' then none
  else
    match (Text.splitOn '/' reference).foldlM step (startOf reference base) with
    | none => none
    | some [] => none
    | some place => some (pathOf place)

/-- The path that a reference leads to, `base` being the path of the resource it stands in. -/
def resolve? (reference : String) (base : Option String) : Option String :=
  (resolveTrimmed? (Text.trim reference.toList) (base.map String.toList)).map String.ofList

end Schematron.Location
