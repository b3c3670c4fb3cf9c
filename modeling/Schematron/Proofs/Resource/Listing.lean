import Schematron.Proofs.Keys
import Schematron.Proofs.Resource.Directory

/-!
Directories as stores. Where no links lie below the root, a directory is known by the paths of its
files: a walk along names goes down entry by entry and cannot be led away.
-/
namespace Schematron

namespace FileEntry

/-- An entry without links at or below it; the names in a directory are names and differ. -/
inductive Plain : FileEntry → Prop
  | file {content : List UInt8} : Plain (.file content)
  | directory {entries : List (String × FileEntry)} :
      (entries.map Prod.fst).Nodup → (∀ pair ∈ entries, Location.IsName pair.1.toList) →
      (∀ pair ∈ entries, Plain pair.2) → Plain (.directory entries)

mutual

def files : FileEntry → List (List String × List UInt8)
  | .file content => [([], content)]
  | .link _ => []
  | .directory entries => filesIn entries

def filesIn : List (String × FileEntry) → List (List String × List UInt8)
  | [] => []
  | (name, entry) :: rest =>
    entry.files.map (fun file => (name :: file.1, file.2)) ++ filesIn rest

end

theorem find?_append {entry : FileEntry} {front rest : List String} :
    entry.find? (front ++ rest) = (entry.find? front).bind (·.find? rest) := by
  induction front generalizing entry with
  | nil => simp [find?]
  | cons name front ih =>
    cases entry with
    | directory entries =>
      simp only [List.cons_append, find?]
      cases entries.lookup name with
      | none => rfl
      | some inner => exact ih
    | _ => simp [find?]

theorem Plain.find? {entry inner : FileEntry} (plain : entry.Plain) {names : List String}
    (found : entry.find? names = some inner) :
    inner.Plain ∧ ∀ name ∈ names, Location.IsName name.toList := by
  induction names generalizing entry with
  | nil =>
    cases found
    exact ⟨plain, by simp⟩
  | cons name rest ih =>
    cases plain with
    | file => simp [FileEntry.find?] at found
    | @directory entries distinct named plain =>
      simp only [FileEntry.find?] at found
      cases entered : entries.lookup name with
      | none => simp [entered] at found
      | some entry =>
        have member := (lookup_iff_mem distinct).1 entered
        rw [entered] at found
        obtain ⟨ends, names⟩ := ih (plain _ member) found
        exact ⟨ends, List.forall_mem_cons.2 ⟨named _ member, names⟩⟩

theorem Plain.not_isLink {entry : FileEntry} (plain : entry.Plain) : ¬entry.IsLink := by
  cases plain <;> exact id

theorem mem_filesIn_iff {entries : List (String × FileEntry)} {names : List String}
    {content : List UInt8} :
    (names, content) ∈ filesIn entries ↔
      ∃ name entry rest, (name, entry) ∈ entries ∧ names = name :: rest ∧
        (rest, content) ∈ entry.files := by
  induction entries with
  | nil => simp [filesIn]
  | cons pair others ih =>
    simp only [filesIn, List.mem_append, ih, List.mem_map, Prod.mk.injEq, Prod.exists]
    constructor
    · rintro (⟨rest, _, listed, rfl, rfl⟩ | ⟨name, entry, rest, member, rfl, listed⟩)
      · exact ⟨pair.1, pair.2, rest, List.mem_cons_self, rfl, listed⟩
      · exact ⟨name, entry, rest, List.mem_cons_of_mem _ member, rfl, listed⟩
    · rintro ⟨name, entry, rest, member, rfl, listed⟩
      rcases List.mem_cons.1 member with rfl | member
      · exact .inl ⟨rest, content, listed, rfl, rfl⟩
      · exact .inr ⟨name, entry, rest, member, rfl, listed⟩

theorem Plain.mem_files_iff {entry : FileEntry} (plain : entry.Plain) {names : List String}
    {content : List UInt8} :
    (names, content) ∈ entry.files ↔ entry.find? names = some (.file content) := by
  induction plain generalizing names with
  | file => cases names <;> simp [files, FileEntry.find?, eq_comm]
  | @directory entries distinct _ _ ih =>
    rw [files, mem_filesIn_iff]
    cases names with
    | nil => simp [FileEntry.find?]
    | cons name rest =>
      simp only [FileEntry.find?, List.cons.injEq]
      constructor
      · rintro ⟨_, entry, _, member, ⟨rfl, rfl⟩, listed⟩
        rw [(lookup_iff_mem distinct).2 member]
        exact (ih _ member).1 listed
      · intro found
        cases entered : entries.lookup name with
        | none => simp [entered] at found
        | some entry =>
          have member := (lookup_iff_mem distinct).1 entered
          rw [entered] at found
          exact ⟨name, entry, rest, member, ⟨rfl, rfl⟩, (ih _ member).2 found⟩

end FileEntry

def pathOfNames (names : List String) : String :=
  String.ofList (Text.joinWith '/' (names.map String.toList))

theorem pathOfNames_pathPieces (path : String) : pathOfNames (pathPieces path) = path := by
  simp [pathOfNames, pathPieces, Function.comp_def, Text.joinWith_splitOn]

theorem pathPieces_pathOfNames {names : List String} (some_name : names ≠ [])
    (named : ∀ name ∈ names, Location.IsName name.toList) :
    pathPieces (pathOfNames names) = names := by
  have whole : ∀ piece ∈ names.map String.toList, '/' ∉ piece := by
    simpa using fun name member => (named name member).whole
  rw [pathPieces, pathOfNames, String.toList_ofList,
    Text.splitOn_joinWith (by simpa using some_name) whole]
  simp [Function.comp_def]

theorem isEntryName_of_isName {name : String} (h : Location.IsName name.toList) :
    IsEntryName name where
  ne_empty := by
    rintro rfl
    exact h.ne_nil rfl
  ne_dot := by
    rintro rfl
    exact h.ne_dot rfl
  ne_up := by
    rintro rfl
    exact h.ne_up rfl

theorem Location.IsPath.names {path : String} (h : Location.IsPath path) :
    ∀ name ∈ pathPieces path, Location.IsName name.toList := by
  intro name member
  obtain ⟨segment, split, rfl⟩ := List.mem_map.1 member
  rw [String.toList_ofList]
  exact h segment split

/-- The store holds every file below the entry, under the path of its names, and nothing else. -/
def Store.Lists (store : Store) (entry : FileEntry) : Prop :=
  ∀ path content, store.get? path = some content ↔
    ∃ names, path = pathOfNames names ∧ entry.find? names = some (.file content)

def Store.ofFiles (entry : FileEntry) : Store :=
  ⟨entry.files.map fun file => (pathOfNames file.1, file.2)⟩

theorem Store.Lists.get?_eq {store : Store} {entries : List (String × FileEntry)}
    (listed : store.Lists (.directory entries)) (plain : (FileEntry.directory entries).Plain)
    {path : String} {content : List UInt8} :
    store.get? path = some content ↔
      (FileEntry.directory entries).find? (pathPieces path) = some (.file content) := by
  rw [listed]
  constructor
  · rintro ⟨names, rfl, found⟩
    have some_name : names ≠ [] := by
      rintro rfl
      cases found
    rwa [pathPieces_pathOfNames some_name (plain.find? found).2]
  · intro found
    exact ⟨pathPieces path, (pathOfNames_pathPieces path).symm, found⟩

theorem Store.lists_ofFiles {entries : List (String × FileEntry)}
    (plain : (FileEntry.directory entries).Plain) :
    (Store.ofFiles (.directory entries)).Lists (.directory entries) := by
  intro path content
  have stored : ∀ content, (path, content) ∈ (Store.ofFiles (.directory entries)).entries ↔
      ∃ names, path = pathOfNames names ∧
        (FileEntry.directory entries).find? names = some (.file content) := by
    intro content
    simp only [Store.ofFiles, List.mem_map, Prod.exists, Prod.mk.injEq, plain.mem_files_iff]
    constructor
    · rintro ⟨names, _, found, rfl, rfl⟩
      exact ⟨names, rfl, found⟩
    · rintro ⟨names, rfl, found⟩
      exact ⟨names, content, found, rfl, rfl⟩
  have names_of : ∀ names content,
      (FileEntry.directory entries).find? names = some (.file content) →
      path = pathOfNames names → names = pathPieces path := by
    rintro names content found rfl
    have some_name : names ≠ [] := by
      rintro rfl
      cases found
    exact (pathPieces_pathOfNames some_name (plain.find? found).2).symm
  rw [← stored, Store.get?]
  constructor
  · intro found
    obtain ⟨before, after, split, -⟩ := List.lookup_eq_some_iff.1 found
    rw [split]
    exact List.mem_append_right _ List.mem_cons_self
  · intro member
    cases found : (Store.ofFiles (.directory entries)).entries.lookup path with
    | none => simpa using List.lookup_eq_none_iff.1 found _ member
    | some other =>
      -- Names that are joined to one path are the same, so they lead to one content.
      obtain ⟨before, after, split, -⟩ := List.lookup_eq_some_iff.1 found
      have member' : (path, other) ∈ (Store.ofFiles (.directory entries)).entries := by
        rw [split]
        exact List.mem_append_right _ List.mem_cons_self
      obtain ⟨names, along, leads⟩ := (stored _).1 member
      obtain ⟨names', along', leads'⟩ := (stored _).1 member'
      rw [names_of _ _ leads along] at leads
      rw [names_of _ _ leads' along', leads] at leads'
      cases leads'
      rfl

namespace FileTree

variable {tree : FileTree}

theorem find?_append {place names : List String} {entry : FileEntry}
    (stands : tree.find? place = some entry) : tree.find? (place ++ names) = entry.find? names := by
  rw [find?] at stands ⊢
  rw [FileEntry.find?_append, stands, Option.bind_some]

theorem Leads.append_iff {links : Nat} {here front middle : List String}
    (h : tree.Leads links here front middle) {all : Nat} {rest goal : List String} :
    tree.Leads all here (front ++ rest) goal ↔
      ∃ more, all = links + more ∧ tree.Leads more middle rest goal := by
  induction h generalizing all with
  | done => simp
  | stay stands idle _ ih =>
    rw [List.cons_append, leads_stay_iff idle, ih]
    exact and_iff_right stands
  | up stands _ ih =>
    rw [List.cons_append, leads_up_iff, ih]
    exact and_iff_right stands
  | enter name found plain _ ih => rw [List.cons_append, leads_entry_iff name found plain, ih]
  | follow name found _ ih =>
    rw [List.cons_append, leads_link_iff name found]
    simp only [← List.append_assoc, ih]
    constructor
    · rintro ⟨_, rfl, more, rfl, leads⟩
      exact ⟨more, by omega, leads⟩
    · rintro ⟨more, rfl, leads⟩
      exact ⟨_, by omega, more, rfl, leads⟩

/-- Below a plain entry names lead down and nowhere else, and no links are met. -/
theorem leads_plain_iff {here pieces goal : List String} {entry : FileEntry} {links : Nat}
    (stands : tree.find? here = some entry) (plain : entry.Plain)
    (named : ∀ name ∈ pieces, Location.IsName name.toList) :
    tree.Leads links here pieces goal ↔
      links = 0 ∧ goal = here ++ pieces ∧ (entry.find? pieces).isSome = true := by
  -- By induction on the names, the entry that is stood in changing with every one of them.
  induction pieces generalizing here entry with
  | nil => simp [leads_nil_iff, FileEntry.find?, eq_comm]
  | cons name rest ih =>
    obtain ⟨name_ok, named⟩ := List.forall_mem_cons.1 named
    have name_ok := isEntryName_of_isName name_ok
    have next : tree.find? (here ++ [name]) = entry.find? [name] := find?_append stands
    have later : entry.find? (name :: rest) = (entry.find? [name]).bind (·.find? rest) := by
      rw [← FileEntry.find?_append, List.singleton_append]
    rw [later]
    cases found : entry.find? [name] with
    | none => simp [leads_name_iff name_ok, next, found]
    | some inner =>
      have inner_plain := (plain.find? found).1
      rw [leads_entry_iff name_ok (next.trans found) inner_plain.not_isLink,
        ih (next.trans found) inner_plain named]
      simp

end FileTree

namespace Directory

variable {directory : Directory} {place : List String} {entries : List (String × FileEntry)}

theorem get?_eq_some_iff_find? {path : String} {content : List UInt8}
    (root : directory.RootAt FileTree.linkLimit place)
    (stands : directory.tree.find? place = some (.directory entries))
    (plain : (FileEntry.directory entries).Plain) (whole : Location.IsPath path) :
    directory.get? path = some content ↔
      (FileEntry.directory entries).find? (pathPieces path) = some (.file content) := by
  obtain ⟨named, links, within, leads⟩ := root
  have onward := @leads.append_iff
  rw [get?_eq_some_iff, Holds]
  constructor
  · rintro ⟨_, goal, ⟨-, _, -, leads'⟩, ⟨_, -, further⟩, -, found⟩
    -- The root leads to one place only, so what follows is a walk from there.
    obtain ⟨-, rfl⟩ := leads.unique leads'
    obtain ⟨_, -, further⟩ := onward.1 further
    obtain ⟨-, rfl, -⟩ := (FileTree.leads_plain_iff stands plain whole.names).1 further
    rwa [FileTree.find?_append stands] at found
  · intro found
    refine ⟨place, place ++ pathPieces path, ⟨named, links, within, leads⟩, ⟨links, within, ?_⟩,
      List.prefix_append _ _, (FileTree.find?_append stands).trans found⟩
    refine onward.2 ⟨0, rfl, ?_⟩
    exact (FileTree.leads_plain_iff stands plain whole.names).2 ⟨rfl, rfl, by simp [found]⟩

/-- A directory without links below it answers as a store that lists its files, from every base
whose directory is told by names; that is so for all that references lead to from the root on. -/
theorem resolve_eq_of_lists {store : Store}
    (root : directory.RootAt FileTree.linkLimit place)
    (stands : directory.tree.find? place = some (.directory entries))
    (plain : (FileEntry.directory entries).Plain) (listed : store.Lists (.directory entries)) :
    (∀ reference base, Location.Settled base →
      directory.resolve reference base = store.resolve reference base) ∧
    ∀ base, Location.Reached base → Location.Settled base := by
  refine ⟨fun reference base settled => ?_, fun base reached => ?_⟩
  · rw [Directory.resolve_eq, Store.resolve_eq, Lookup.ofContents, Lookup.ofContents]
    cases led : Location.resolve? reference base with
    | none => rfl
    | some path =>
      have whole := settled.isPath led
      have same : directory.get? path = store.get? path := by
        ext content
        rw [get?_eq_some_iff_find? root stands plain whole, listed.get?_eq plain]
      dsimp only
      rw [same]
  · exact Location.settled_of_isPath reached.isPath

def sheltered : Directory where
  tree := ⟨[("r", .directory [("q", .file [0x54]), ("d", .directory [("f", .file [0x46])])]),
    ("l", .link "r")]⟩
  root := "l"

def shelteredEntries : List (String × FileEntry) :=
  [("q", .file [0x54]), ("d", .directory [("f", .file [0x46])])]

theorem leads_sheltered {pieces goal : List String}
    (onward : sheltered.tree.Leads 0 ["r"] pieces goal) :
    sheltered.tree.LeadsWithin FileTree.linkLimit (pathPieces sheltered.root ++ pieces) goal := by
  have first : pathPieces sheltered.root = ["l"] := by decide
  have target : pathPieces "r" = ["r"] := by decide
  rw [first]
  refine ⟨1, by decide, .follow (isEntryName_of (by decide) (by decide)) rfl ?_⟩
  rw [target]
  exact .enter (isEntryName_of (by decide) (by decide)) rfl id onward

theorem rootAt_sheltered : sheltered.RootAt FileTree.linkLimit ["r"] :=
  ⟨by decide, by simpa using leads_sheltered .done⟩

theorem plain_sheltered : (FileEntry.directory shelteredEntries).Plain := by
  have named : ∀ name ∈ ["q", "d", "f"], Location.IsName name.toList := by
    simpa using ⟨⟨by decide, by decide, by decide, by decide⟩,
      ⟨by decide, by decide, by decide, by decide⟩, ⟨by decide, by decide, by decide, by decide⟩⟩
  simp only [List.forall_mem_cons] at named
  refine .directory (by decide) ?_ ?_
  · simpa [shelteredEntries] using ⟨named.1, named.2.1⟩
  · have inner : (FileEntry.directory [("f", .file [0x46])]).Plain :=
      .directory (by decide) (by simpa using named.2.2.1) (by simpa using .file)
    simpa [shelteredEntries] using ⟨.file, inner⟩

theorem sheltered_resolves_as_listed :
    (∀ reference base, Location.Settled base →
      sheltered.resolve reference base =
        (Store.ofFiles (.directory shelteredEntries)).resolve reference base) ∧
    ∀ base, Location.Reached base → Location.Settled base :=
  resolve_eq_of_lists rootAt_sheltered rfl plain_sheltered
    (Store.lists_ofFiles plain_sheltered)

theorem resolve_differs_unsettled :
    ¬∀ (directory : Directory) (place : List String) (entries : List (String × FileEntry))
      (store : Store) (reference : String) (base : Option String),
      directory.RootAt FileTree.linkLimit place →
      directory.tree.find? place = some (.directory entries) →
      (FileEntry.directory entries).Plain → store.Lists (.directory entries) →
      (base = none ∨ ∃ reference' base', Location.resolve? reference' base' = base) →
      directory.resolve reference base = store.resolve reference base := by
  intro all
  have same := all sheltered ["r"] shelteredEntries (Store.ofFiles (.directory shelteredEntries))
    "q" (some "./x") rootAt_sheltered rfl plain_sheltered
    (Store.lists_ofFiles plain_sheltered) (.inr ⟨"x", some "./z", by decide⟩)
  have pieces : pathPieces "./q" = [".", "q"] := by decide
  have served : sheltered.get? "./q" = some [0x54] := by
    refine get?_eq_some_iff.2 ⟨["r"], ["r", "q"], rootAt_sheltered, ?_,
      by simp, rfl⟩
    rw [pieces]
    refine leads_sheltered (.stay ⟨shelteredEntries, rfl⟩ (.inr rfl) ?_)
    exact .enter (isEntryName_of (by decide) (by decide)) rfl id .done
  have missed : (Store.ofFiles (.directory shelteredEntries)).get? "./q" = none := by decide
  have led : Location.resolve? "q" (some "./x") = some "./q" := by decide
  rw [Directory.resolve_eq, Store.resolve_eq,
    Lookup.ofContents_eq_ok_iff.2 ⟨_, _, led, served, rfl⟩,
    Lookup.ofContents_eq_error_iff.2 (.inr ⟨_, led, missed, rfl⟩)] at same
  cases same

end Directory
end Schematron
