import Schematron.Resource.Basic
import Schematron.Resource.FileTree
import Schematron.Resource.Location

/-!
Resources under a directory of a file tree. Links may lead anywhere in the tree, but what they lead
to is only served if it lies under the canonical root.
-/
namespace Schematron

structure Directory where
  tree : FileTree
  root : String

namespace Directory

/-- The root as it is shown: without the empty pieces and the dots at its two ends. -/
def rootName (directory : Directory) : String :=
  let idle (piece : String) : Bool := piece = "" ∨ piece = "."
  let pieces := ((pathPieces directory.root).dropWhile idle).reverse.dropWhile idle
  "/".intercalate pieces.reverse

/-- Where the root is. The empty path names no directory. -/
def rootPlace? (directory : Directory) : Option (List String) :=
  if directory.root = "" then none else directory.tree.canonical? (pathPieces directory.root)

/-- The content of the regular file that a path under the root leads to, if it lies there. -/
def get? (directory : Directory) (path : String) : Option (List UInt8) :=
  match directory.rootPlace?,
      directory.tree.canonical? (pathPieces directory.root ++ pathPieces path) with
  | some root, some place =>
    if root.isPrefixOf place then
      match directory.tree.find? place with
      | some (.file content) => some content
      | _ => none
    else none
  | _, _ => none

def resolve (directory : Directory) (reference : String) (base : Option String) :
    Except ResolveError Resource :=
  match Location.resolve? reference base with
  | none => .error (.notFound reference)
  | some path =>
    match directory.get? path with
    | some content => .ok ⟨path, .whole content⟩
    | none => .error (.notFound path)

end Directory
end Schematron
