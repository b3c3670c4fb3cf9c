import Schematron.Resource.Directory
import Schematron.Resource.Store

namespace Schematron

/-- Finds the resource that a reference leads to, given the path of the one it stands in. -/
abbrev Lookup := String → Option String → Except ResolveError Resource

def Lookup.breaking (lookup : Lookup) (systemIds : List String) (cause : String) : Lookup :=
  fun reference base => (lookup reference base).map fun resource =>
    if resource.systemId ∈ systemIds then
      { resource with stream := ⟨resource.stream.bytes, some cause⟩ }
    else resource

structure Resolver (σ : Type) where
  resolve : String → Option String → StateM σ (Except ResolveError Resource)
  /-- How deep resources may include each other; includes that nest deeper go round. -/
  nesting : Nat

namespace Resolver

def ofLookup {σ : Type} (lookup : Lookup) (nesting : Nat) : Resolver σ :=
  ⟨fun reference base => pure (lookup reference base), nesting⟩

def load {σ : Type} (resolver : Resolver σ) (reference : String) (base : Option String) :
    StateM σ (Except ResolveError (String × List UInt8)) := do
  match ← resolver.resolve reference base with
  | .error error => return .error error
  | .ok resource => return resource.readAll.map (resource.systemId, ·)

end Resolver

/-- No chain of includes between stored resources is longer than their number, unless it comes
back to one of them. -/
def Store.nesting (store : Store) : Nat :=
  store.entries.length

mutual

def FileEntry.fileCount : FileEntry → Nat
  | .file _ => 1
  | .link _ => 0
  | .directory entries => fileCountIn entries

def fileCountIn : List (String × FileEntry) → Nat
  | [] => 0
  | (_, entry) :: rest => entry.fileCount + fileCountIn rest

end

/-- Links give one file many paths, each link on the way at most one more. -/
def Directory.nesting (directory : Directory) : Nat :=
  (FileTree.linkLimit + 1) * fileCountIn directory.tree.entries

end Schematron
