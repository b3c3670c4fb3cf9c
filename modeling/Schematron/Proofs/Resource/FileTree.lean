import Schematron.Resource.FileTree

/-!
Where paths lead in a tree with symbolic links. A path is walked from one place without links to the
next, and the links followed on the way are counted; a step up from the top stays there.
-/
namespace Schematron

structure IsEntryName (piece : String) : Prop where
  ne_empty : piece ≠ ""
  ne_dot : piece ≠ "."
  ne_up : piece ≠ ".."

theorem isEntryName_of {piece : String} (busy : ¬(piece = "" ∨ piece = "."))
    (moves : ¬piece = "..") : IsEntryName piece :=
  ⟨fun h => busy (.inl h), fun h => busy (.inr h), moves⟩

def FileEntry.IsLink : FileEntry → Prop
  | .link _ => True
  | _ => False

namespace FileTree

variable {tree : FileTree}

def IsDirectory (tree : FileTree) (place : List String) : Prop :=
  ∃ entries, tree.find? place = some (.directory entries)

/-- Some pieces lead from one place to another, and so many links are followed on the way: a link
by walking its target from the directory that the link stands in. -/
inductive Leads (tree : FileTree) : Nat → List String → List String → List String → Prop
  | done {here : List String} : Leads tree 0 here [] here
  | stay {links : Nat} {here rest place : List String} {piece : String} :
      tree.IsDirectory here → piece = "" ∨ piece = "." → Leads tree links here rest place →
      Leads tree links here (piece :: rest) place
  | up {links : Nat} {here rest place : List String} :
      tree.IsDirectory here → Leads tree links here.dropLast rest place →
      Leads tree links here (".." :: rest) place
  | enter {links : Nat} {here rest place : List String} {name : String} {entry : FileEntry} :
      IsEntryName name → tree.find? (here ++ [name]) = some entry → ¬entry.IsLink →
      Leads tree links (here ++ [name]) rest place → Leads tree links here (name :: rest) place
  | follow {links : Nat} {here rest place : List String} {name target : String} :
      IsEntryName name → tree.find? (here ++ [name]) = some (.link target) →
      Leads tree links (targetStart here target) (pathPieces target ++ rest) place →
      Leads tree (links + 1) here (name :: rest) place

end FileTree

theorem FileEntry.find?_concat_iff {entry inner : FileEntry} {names : List String}
    {name : String} :
    entry.find? (names ++ [name]) = some inner ↔
      ∃ entries, entry.find? names = some (.directory entries) ∧
        entries.lookup name = some inner := by
  induction names generalizing entry with
  | nil =>
    cases entry with
    | directory entries =>
      cases found : entries.lookup name <;> simp [find?, found]
    | _ => simp [find?]
  | cons first rest ih =>
    cases entry with
    | directory entries =>
      simp only [List.cons_append, find?]
      cases entries.lookup first with
      | none => simp
      | some entry => exact ih
    | _ => simp [find?]

namespace FileTree

variable {tree : FileTree}

theorem find?_concat {here : List String} {name : String}
    {entries : List (String × FileEntry)} (stands : tree.find? here = some (.directory entries)) :
    tree.find? (here ++ [name]) = entries.lookup name := by
  ext entry
  rw [find?, FileEntry.find?_concat_iff, ← find?, stands]
  simp

theorem isDirectory_of_find?_concat {here : List String} {name : String} {entry : FileEntry}
    (h : tree.find? (here ++ [name]) = some entry) : tree.IsDirectory here := by
  obtain ⟨entries, stands, -⟩ := FileEntry.find?_concat_iff.1 h
  exact ⟨entries, stands⟩

theorem leads_nil_iff {links : Nat} {here place : List String} :
    tree.Leads links here [] place ↔ links = 0 ∧ here = place := by
  constructor
  · rintro ⟨⟩
    exact ⟨rfl, rfl⟩
  · rintro ⟨rfl, rfl⟩
    exact .done

theorem leads_stay_iff {links : Nat} {here rest place : List String} {piece : String}
    (idle : piece = "" ∨ piece = ".") :
    tree.Leads links here (piece :: rest) place ↔
      tree.IsDirectory here ∧ tree.Leads links here rest place := by
  constructor
  · intro h
    cases h with
    | stay stands _ h => exact ⟨stands, h⟩
    | up => simp at idle
    | enter name => exact absurd idle (by simp [name.ne_empty, name.ne_dot])
    | follow name => exact absurd idle (by simp [name.ne_empty, name.ne_dot])
  · exact fun ⟨stands, h⟩ => .stay stands idle h

theorem leads_up_iff {links : Nat} {here rest place : List String} :
    tree.Leads links here (".." :: rest) place ↔
      tree.IsDirectory here ∧ tree.Leads links here.dropLast rest place := by
  constructor
  · intro h
    cases h with
    | stay _ idle => simp at idle
    | up stands h => exact ⟨stands, h⟩
    | enter name => exact absurd rfl name.ne_up
    | follow name => exact absurd rfl name.ne_up
  · exact fun ⟨stands, h⟩ => .up stands h

theorem leads_name_iff {links : Nat} {here rest place : List String} {name : String}
    (h : IsEntryName name) :
    tree.Leads links here (name :: rest) place ↔
      (∃ entry, tree.find? (here ++ [name]) = some entry ∧ ¬entry.IsLink ∧
        tree.Leads links (here ++ [name]) rest place) ∨
      ∃ target fewer, tree.find? (here ++ [name]) = some (.link target) ∧ links = fewer + 1 ∧
        tree.Leads fewer (targetStart here target) (pathPieces target ++ rest) place := by
  constructor
  · intro leads
    cases leads with
    | stay _ idle => exact absurd idle (by simp [h.ne_empty, h.ne_dot])
    | up => exact absurd rfl h.ne_up
    | enter _ found plain leads => exact .inl ⟨_, found, plain, leads⟩
    | follow _ found leads => exact .inr ⟨_, _, found, rfl, leads⟩
  · rintro (⟨entry, found, plain, leads⟩ | ⟨target, fewer, found, rfl, leads⟩)
    · exact .enter h found plain leads
    · exact .follow h found leads

theorem leads_entry_iff {links : Nat} {here rest place : List String} {name : String}
    {entry : FileEntry} (h : IsEntryName name) (found : tree.find? (here ++ [name]) = some entry)
    (plain : ¬entry.IsLink) :
    tree.Leads links here (name :: rest) place ↔ tree.Leads links (here ++ [name]) rest place := by
  rw [leads_name_iff h, found]
  constructor
  · rintro (⟨_, -, -, leads⟩ | ⟨target, _, ⟨⟩, -⟩)
    · exact leads
    · exact absurd trivial plain
  · exact fun leads => .inl ⟨entry, rfl, plain, leads⟩

theorem leads_link_iff {links : Nat} {here rest place : List String} {name target : String}
    (h : IsEntryName name) (found : tree.find? (here ++ [name]) = some (.link target)) :
    tree.Leads links here (name :: rest) place ↔ ∃ fewer, links = fewer + 1 ∧
      tree.Leads fewer (targetStart here target) (pathPieces target ++ rest) place := by
  rw [leads_name_iff h, found]
  constructor
  · rintro (⟨_, ⟨⟩, plain, -⟩ | ⟨_, fewer, ⟨⟩, rfl, leads⟩)
    · exact absurd trivial plain
    · exact ⟨fewer, rfl, leads⟩
  · exact fun ⟨fewer, more, leads⟩ => .inr ⟨target, fewer, rfl, more, leads⟩

theorem Leads.isDirectory {links : Nat} {here rest place : List String} {piece : String}
    (h : tree.Leads links here (piece :: rest) place) : tree.IsDirectory here := by
  cases h with
  | stay stands => exact stands
  | up stands => exact stands
  | enter _ found => exact isDirectory_of_find?_concat found
  | follow _ found => exact isDirectory_of_find?_concat found

theorem Leads.unique {links links' : Nat} {here pieces place place' : List String}
    (h : tree.Leads links here pieces place) (h' : tree.Leads links' here pieces place') :
    links = links' ∧ place = place' := by
  induction h generalizing links' with
  | done =>
    obtain ⟨rfl, rfl⟩ := leads_nil_iff.1 h'
    exact ⟨rfl, rfl⟩
  | stay _ idle _ ih => exact ih ((leads_stay_iff idle).1 h').2
  | up _ _ ih => exact ih (leads_up_iff.1 h').2
  | enter name found plain _ ih => exact ih ((leads_entry_iff name found plain).1 h')
  | follow name found _ ih =>
    obtain ⟨_, rfl, later⟩ := (leads_link_iff name found).1 h'
    obtain ⟨rfl, rfl⟩ := ih later
    exact ⟨rfl, rfl⟩

/-- A walk arrives where its pieces lead, if it may follow as many links. -/
theorem walk_eq_some_iff {links : Nat} {here pieces place : List String} :
    tree.walk links here pieces = some place ↔ ∃ n ≤ links, tree.Leads n here pieces place := by
  -- By induction on the walk, which uses up a piece or a link at every step.
  fun_induction tree.walk links here pieces with
  | case1 links here =>
    simp only [leads_nil_iff, Option.some.injEq]
    exact ⟨fun same => ⟨0, Nat.zero_le _, rfl, same⟩, fun ⟨_, _, _, same⟩ => same⟩
  | case2 links here piece rest entries stands idle ih =>
    have directory : tree.IsDirectory here := ⟨entries, stands⟩
    simp only [ih, leads_stay_iff idle, directory, true_and]
  | case3 links here rest entries stands _ ih =>
    have directory : tree.IsDirectory here := ⟨entries, stands⟩
    simp only [ih, leads_up_iff, directory, true_and]
  | case4 links here piece rest entries stands busy moves missing =>
    have name := isEntryName_of busy moves
    rw [← find?_concat stands] at missing
    simp [leads_name_iff name, missing]
  | case5 here piece rest entries stands busy moves target found =>
    have name := isEntryName_of busy moves
    rw [← find?_concat stands] at found
    simp [leads_link_iff name found]
  | case6 here piece rest entries stands busy moves target found links ih =>
    have name := isEntryName_of busy moves
    rw [← find?_concat stands] at found
    simp only [ih, leads_link_iff name found]
    constructor
    · rintro ⟨n, within, leads⟩
      exact ⟨n + 1, by omega, n, rfl, leads⟩
    · rintro ⟨_, within, n, rfl, leads⟩
      exact ⟨n, by omega, leads⟩
  | case7 links here piece rest entries stands busy moves entry plain found ih =>
    have name := isEntryName_of busy moves
    rw [← find?_concat stands] at found
    have plain : ¬entry.IsLink := fun h => by
      cases entry with
      | link target => exact plain target rfl
      | _ => exact h
    simp only [ih, leads_entry_iff name found plain]
  | case8 links here piece rest blocked =>
    have never : ∀ n, ¬tree.Leads n here (piece :: rest) place := fun n leads =>
      let ⟨entries, stands⟩ := leads.isDirectory
      blocked entries stands
    simp [never]

def LeadsWithin (tree : FileTree) (limit : Nat) (pieces place : List String) : Prop :=
  ∃ links ≤ limit, tree.Leads links [] pieces place

theorem canonical?_eq_some_iff {pieces place : List String} :
    tree.canonical? pieces = some place ↔ tree.LeadsWithin linkLimit pieces place :=
  walk_eq_some_iff

end FileTree
end Schematron
