import Schematron.Text.Split

/-!
A tree of files, directories and symbolic links, and the canonical path of a path in it: the one
without links, `.` and `..` that leads to the same entry. As in path resolution of a file system,
the directory above the top is the top, and one look-up follows at most forty links, so loops of
links lead nowhere.
-/
namespace Schematron

inductive FileEntry
  | file (content : List UInt8)
  | link (target : String)
  | directory (entries : List (String × FileEntry))

def pathPieces (path : String) : List String :=
  (Text.splitOn '/' path.toList).map String.ofList

structure FileTree where
  entries : List (String × FileEntry)

namespace FileEntry

def find? : FileEntry → List String → Option FileEntry
  | entry, [] => some entry
  | .directory entries, name :: rest =>
    match entries.lookup name with
    | some inner => inner.find? rest
    | none => none
  | _, _ :: _ => none

def setIn (name : String) (entry : FileEntry) :
    List (String × FileEntry) → List (String × FileEntry)
  | [] => [(name, entry)]
  | (key, old) :: rest =>
    if key = name then (key, entry) :: rest else (key, old) :: setIn name entry rest

def putIn (entry : FileEntry) : List String → List (String × FileEntry) → List (String × FileEntry)
  | [], entries => entries
  | [name], entries => setIn name entry entries
  | name :: rest, entries =>
    let inner := match entries.lookup name with
      | some (.directory inner) => inner
      | _ => []
    setIn name (.directory (putIn entry rest inner)) entries

end FileEntry

namespace FileTree

def empty : FileTree :=
  ⟨[]⟩

def find? (tree : FileTree) (names : List String) : Option FileEntry :=
  (FileEntry.directory tree.entries).find? names

def linkLimit : Nat := 40

/-- Where the target of a link in a directory is walked from: the top if it is absolute. -/
def targetStart (here : List String) (target : String) : List String :=
  if target.toList.head? = some '/' then [] else here

/-- Walks on from a canonical path. Every piece needs a directory to stand in; a link is replaced
by the pieces of its target. -/
def walk (tree : FileTree) (links : Nat) (here : List String) :
    List String → Option (List String)
  | [] => some here
  | piece :: rest =>
    match tree.find? here with
    | some (.directory entries) =>
      if piece = "" ∨ piece = "." then tree.walk links here rest
      else if piece = ".." then tree.walk links here.dropLast rest
      else
        match entries.lookup piece with
        | none => none
        | some (.link target) =>
          match links with
          | 0 => none
          | links + 1 =>
            tree.walk links (targetStart here target) (pathPieces target ++ rest)
        | some _ => tree.walk links (here ++ [piece]) rest
    | _ => none
termination_by pieces => (links, pieces.length)

def canonical? (tree : FileTree) (pieces : List String) : Option (List String) :=
  tree.walk linkLimit [] pieces

def put (tree : FileTree) (names : List String) (entry : FileEntry) : FileTree :=
  ⟨FileEntry.putIn entry names tree.entries⟩

/-- The tree with every directory on the way made, and the canonical path reached. -/
def makeDirectories (tree : FileTree) (here : List String) : List String → FileTree × List String
  | [] => (tree, here)
  | name :: rest =>
    match tree.canonical? (here ++ [name]) with
    | some place => tree.makeDirectories place rest
    | none => (tree.put (here ++ [name]) (.directory [])).makeDirectories (here ++ [name]) rest

def namesOf (path : String) : List String :=
  (pathPieces path).filter (· ≠ "")

def addDirectory (tree : FileTree) (path : String) : FileTree :=
  (tree.makeDirectories [] (namesOf path)).1

def addLink (tree : FileTree) (path target : String) : FileTree :=
  let names := namesOf path
  let (tree, here) := tree.makeDirectories [] names.dropLast
  match names.getLast? with
  | some name => tree.put (here ++ [name]) (.link target)
  | none => tree

/-- The canonical path of the file that a name in a directory stands for, which need not exist yet:
links are followed to where the last of them points. -/
def filePlace? (tree : FileTree) (links : Nat) (here : List String) (name : String) :
    Option (List String) :=
  match tree.find? (here ++ [name]) with
  | some (.link target) =>
    match links with
    | 0 => none
    | links + 1 =>
      let pieces := pathPieces target
      match tree.walk linkLimit (targetStart here target) pieces.dropLast, pieces.getLast? with
      | some place, some last => tree.filePlace? links place last
      | _, _ => none
  | _ => some (here ++ [name])

def addFile (tree : FileTree) (path : String) (content : List UInt8) : FileTree :=
  let names := namesOf path
  let (tree, here) := tree.makeDirectories [] names.dropLast
  match names.getLast? with
  | some name =>
    match tree.filePlace? linkLimit here name with
    | some place => tree.put place (.file content)
    | none => tree
  | none => tree

end FileTree
end Schematron
