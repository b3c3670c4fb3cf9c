import Mathlib.Data.List.Nodup

/-!
Lists of pairs under their keys. Where the keys differ from each other, a look-up finds what stands
in the list; leaving out repetitions keeps the first of equal keys.
-/
namespace Schematron

theorem lookup_iff_mem {β : Type} {entries : List (String × β)}
    (distinct : (entries.map Prod.fst).Nodup) {name : String} {entry : β} :
    entries.lookup name = some entry ↔ (name, entry) ∈ entries := by
  induction entries with
  | nil => simp
  | cons pair rest ih =>
    obtain ⟨key, first⟩ := pair
    rw [List.map_cons, List.nodup_cons] at distinct
    by_cases same : name = key
    · subst same
      have absent : (name, entry) ∉ rest := fun member =>
        distinct.1 (List.mem_map.2 ⟨_, member, rfl⟩)
      simp [absent, eq_comm]
    · have differs : (name == key) = false := by simpa using same
      simp [List.lookup_cons, differs, same, ih distinct.2]

theorem lookup_eq_none_iff_not_mem {β : Type} {entries : List (String × β)} {name : String} :
    entries.lookup name = none ↔ name ∉ entries.map Prod.fst := by
  simp only [List.lookup_eq_none_iff, bne_iff_ne, ne_comm, List.mem_map, not_exists, not_and]

theorem eraseDups_of_nodup {keys : List String} (distinct : keys.Nodup) :
    keys.eraseDups = keys := by
  induction keys with
  | nil => rfl
  | cons key rest ih =>
    obtain ⟨absent, distinct⟩ := List.nodup_cons.1 distinct
    have kept : rest.filter (fun other => !other == key) = rest := by
      refine List.filter_eq_self.2 fun other member => ?_
      have differs : other ≠ key := fun same => absent (same ▸ member)
      simp [differs]
    rw [List.eraseDups_cons, kept, ih distinct]

theorem eraseDups_concat (keys : List String) (key : String) :
    (keys ++ [key]).eraseDups =
      if key ∈ keys then keys.eraseDups else keys.eraseDups ++ [key] := by
  rw [List.eraseDups_append]
  split
  next known => simp [List.removeAll, known]
  next fresh => simp [List.removeAll, fresh, List.eraseDups_cons]

end Schematron
