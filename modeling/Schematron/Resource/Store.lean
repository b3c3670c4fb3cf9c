import Schematron.Resource.Basic
import Schematron.Resource.Location

namespace Schematron

/-- Paths with their contents; the first entry of a path counts. -/
structure Store where
  entries : List (String × List UInt8)
  deriving DecidableEq, Repr

namespace Store

def empty : Store :=
  ⟨[]⟩

def get? (store : Store) (path : String) : Option (List UInt8) :=
  store.entries.lookup path

def insert (store : Store) (path : String) (content : List UInt8) : Except ResolveError Store :=
  match Location.resolve? path none with
  | some key => .ok ⟨(key, content) :: store.entries⟩
  | none => .error (.invalidPath path)

def contains (store : Store) (path : String) : Bool :=
  match Location.resolve? path none with
  | some key => (store.get? key).isSome
  | none => false

def resolve (store : Store) (reference : String) (base : Option String) :
    Except ResolveError Resource :=
  match Location.resolve? reference base with
  | none => .error (.notFound reference)
  | some path =>
    match store.get? path with
    | some content => .ok ⟨path, .whole content⟩
    | none => .error (.notFound path)

theorem get?_insert {store next : Store} {path key : String} {content : List UInt8}
    (place : Location.resolve? path none = some key)
    (stored : store.insert path content = .ok next) (other : String) :
    next.get? other = if other = key then some content else store.get? other := by
  simp only [insert, place, Except.ok.injEq] at stored
  subst stored
  by_cases h : other = key
  · simp [get?, h]
  · have differs : (other == key) = false := by simpa using h
    simp [get?, List.lookup_cons, differs, h]

end Store
end Schematron
