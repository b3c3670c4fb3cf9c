import Schematron.Proofs.Outcome
import Schematron.Proofs.Resource.Location
import Schematron.Resource.Resolver

/-!
Lookups of contents that are kept under paths: those of stores and of directories. A reference is
found where it leads to a path with a content, and else it is missed under the path that it leads
to, or under its own text where it leads nowhere. So whatever is reached from resource to resource
lies under the root.
-/
namespace Schematron

namespace Lookup

def ofContents (get? : String → Option (List UInt8)) : Lookup := fun reference base =>
  match Location.resolve? reference base with
  | none => .error (.notFound reference)
  | some path =>
    match get? path with
    | some content => .ok ⟨path, .whole content⟩
    | none => .error (.notFound path)

variable {get? : String → Option (List UInt8)} {reference : String} {base : Option String}

theorem ofContents_eq_ok_iff {resource : Resource} :
    ofContents get? reference base = .ok resource ↔
      ∃ path content, Location.resolve? reference base = some path ∧ get? path = some content ∧
        resource = ⟨path, .whole content⟩ := by
  unfold ofContents
  cases Location.resolve? reference base with
  | none => simp
  | some path => cases found : get? path <;> simp [found, eq_comm]

theorem ofContents_eq_error_iff {error : ResolveError} :
    ofContents get? reference base = .error error ↔
      Location.resolve? reference base = none ∧ error = .notFound reference ∨
      ∃ path, Location.resolve? reference base = some path ∧ get? path = none ∧
        error = .notFound path := by
  unfold ofContents
  cases Location.resolve? reference base with
  | none => simp [eq_comm]
  | some path => cases found : get? path <;> simp [found, eq_comm]

/-- What is found lies where the reference leads, and where it leads nowhere nothing is found. -/
structure Rooted (lookup : Lookup) : Prop where
  found : ∀ {reference base resource}, lookup reference base = .ok resource →
    Location.resolve? reference base = some resource.systemId
  refused : ∀ {reference base}, Location.resolve? reference base = none →
    lookup reference base = .error (.notFound reference)

theorem rooted_ofContents (get? : String → Option (List UInt8)) : (ofContents get?).Rooted where
  found h := by
    obtain ⟨path, content, led, -, rfl⟩ := ofContents_eq_ok_iff.1 h
    exact led
  refused h := ofContents_eq_error_iff.2 (.inl ⟨h, rfl⟩)

theorem Rooted.breaking {lookup : Lookup} (rooted : lookup.Rooted) (systemIds : List String)
    (cause : String) : (lookup.breaking systemIds cause).Rooted where
  found h := by
    obtain ⟨resource, found, rfl⟩ := map_eq_ok_iff.1 h
    rw [rooted.found found]
    split <;> rfl
  refused h := by simp [Lookup.breaking, rooted.refused h, Except.map]

inductive Reaches (lookup : Lookup) : Option String → Prop
  | root : Reaches lookup none
  | follow {base : Option String} {reference : String} {resource : Resource} :
      Reaches lookup base → lookup reference base = .ok resource →
      Reaches lookup (some resource.systemId)

theorem Reaches.reached {lookup : Lookup} (h : lookup.Reaches base) (rooted : lookup.Rooted) :
    Location.Reached base := by
  induction h with
  | root => exact .root
  | follow _ found ih => exact ih.follow (rooted.found found)

end Lookup

theorem Store.resolve_eq (store : Store) : store.resolve = Lookup.ofContents store.get? :=
  rfl

theorem Directory.resolve_eq (directory : Directory) :
    directory.resolve = Lookup.ofContents directory.get? :=
  rfl

end Schematron
