import Schematron.Proofs.Resource.FileTree
import Schematron.Proofs.Resource.Lookup

/-!
A directory serves a file exactly if the canonical place of the file lies under that of the root.
Both look-ups follow forty links at most, so a chain of more links leads to a file that is not
served.
-/
namespace Schematron.Directory

/-- The root is a path, and it leads to a place with no more links than the limit. -/
def RootAt (directory : Directory) (limit : Nat) (root : List String) : Prop :=
  directory.root ≠ "" ∧ directory.tree.LeadsWithin limit (pathPieces directory.root) root

theorem rootPlace?_eq_some_iff {directory : Directory} {root : List String} :
    directory.rootPlace? = some root ↔ directory.RootAt FileTree.linkLimit root := by
  rw [rootPlace?, RootAt, ← FileTree.canonical?_eq_some_iff]
  by_cases unnamed : directory.root = "" <;> simp [unnamed]

/-- The content of a file under the root: both the root and the path lead to where they really are,
with no more links than the limit each, and the file is under the root there. -/
def Holds (directory : Directory) (limit : Nat) (path : String) (content : List UInt8) : Prop :=
  ∃ root place, directory.RootAt limit root ∧
    directory.tree.LeadsWithin limit (pathPieces directory.root ++ pathPieces path) place ∧
    root <+: place ∧ directory.tree.find? place = some (.file content)

theorem get?_eq_some_iff {directory : Directory} {path : String} {content : List UInt8} :
    directory.get? path = some content ↔ directory.Holds FileTree.linkLimit path content := by
  simp only [Holds, ← FileTree.canonical?_eq_some_iff, ← rootPlace?_eq_some_iff]
  unfold get?
  constructor
  · intro h
    split at h
    next root place root_leads leads =>
      split at h
      next under =>
        split at h
        next found =>
          cases h
          exact ⟨root, place, root_leads, leads, List.isPrefixOf_iff_prefix.1 under, found⟩
        next => cases h
      next => cases h
    next => cases h
  · rintro ⟨root, place, root_leads, leads, under, found⟩
    simp [root_leads, leads, under, found]

/-- A reference is found exactly where the directory holds a file for it. -/
theorem resolve_eq_iff (directory : Directory) (reference : String) (base : Option String) :
    (∀ resource, directory.resolve reference base = .ok resource ↔
      ∃ path content, Location.resolve? reference base = some path ∧
        directory.Holds FileTree.linkLimit path content ∧ resource = ⟨path, .whole content⟩) ∧
    ∀ error, directory.resolve reference base = .error error ↔
      (Location.resolve? reference base = none ∧ error = .notFound reference) ∨
      ∃ path, Location.resolve? reference base = some path ∧
        (¬∃ content, directory.Holds FileTree.linkLimit path content) ∧ error = .notFound path := by
  rw [resolve_eq]
  refine ⟨fun resource => ?_, fun error => ?_⟩
  · simp only [Lookup.ofContents_eq_ok_iff, get?_eq_some_iff]
  · simp only [Lookup.ofContents_eq_error_iff, Option.eq_none_iff_forall_ne_some, ne_eq,
      get?_eq_some_iff, not_exists]

example : (Directory.mk ⟨[("r", .directory [("f", .file [0x54])])]⟩ "/r").resolve "f"
    (some "../../r/x") = .ok ⟨"../../r/f", .whole [0x54]⟩ := by
  cbv

example : (Directory.mk ⟨[("f", .file [0x54])]⟩ "").resolve "f" none =
    .error (.notFound "f") := by
  cbv

def turning : Directory where
  tree := ⟨[("r", .directory [("f", .file [0x54]), ("s", .link ".")])]⟩
  root := "r"

theorem leads_turning (turns : Nat) :
    turning.tree.Leads turns ["r"] (List.replicate turns "s" ++ ["f"]) ["r", "f"] := by
  induction turns with
  | zero => exact .enter (isEntryName_of (by decide) (by decide)) rfl id .done
  | succ turns ih =>
    have link : turning.tree.find? (["r"] ++ ["s"]) = some (.link ".") := rfl
    have pieces : pathPieces "." = ["."] := by decide
    rw [List.replicate_succ, List.cons_append,
      FileTree.leads_link_iff (isEntryName_of (by decide) (by decide)) link]
    refine ⟨turns, rfl, ?_⟩
    rw [pieces]
    exact .stay ⟨_, rfl⟩ (.inr rfl) ih

theorem leads_turning_iff {links : Nat} {pieces place : List String} :
    turning.tree.Leads links [] ("r" :: pieces) place ↔
      turning.tree.Leads links ["r"] pieces place :=
  FileTree.leads_entry_iff (isEntryName_of (by decide) (by decide)) rfl id

theorem resolve_misses_many_links :
    ¬∀ (directory : Directory) (reference : String) (base : Option String) (resource : Resource),
      directory.resolve reference base = .ok resource ↔
        ∃ path content limit, Location.resolve? reference base = some path ∧
          directory.Holds limit path content ∧ resource = ⟨path, .whole content⟩ := by
  intro all
  let path := "/".intercalate (List.replicate 41 "s" ++ ["f"])
  have led : Location.resolve? path none = some path := by decide +kernel
  have root_pieces : pathPieces turning.root = ["r"] := by decide
  have pieces : pathPieces path = List.replicate 41 "s" ++ ["f"] := by decide +kernel
  have holds : turning.Holds 41 path [0x54] := by
    refine ⟨["r"], ["r", "f"], ⟨by decide, 0, Nat.zero_le _, ?_⟩, ⟨41, Nat.le_refl _, ?_⟩,
      by simp, rfl⟩
    · rw [root_pieces, leads_turning_iff]
      exact .done
    · rw [root_pieces, pieces]
      exact leads_turning_iff.2 (leads_turning 41)
  have served := (all turning path none ⟨path, .whole [0x54]⟩).2 ⟨path, _, _, led, holds, rfl⟩
  rw [resolve, led] at served
  cases found : turning.get? path with
  | none => simp [found] at served
  | some content =>
    obtain ⟨_, _, -, ⟨links, within, leads⟩, -⟩ := get?_eq_some_iff.1 found
    rw [root_pieces, pieces] at leads
    -- The path leads to the file in one way, with one link more than the look-up follows.
    have same := (leads_turning_iff.1 leads).unique (leads_turning 41)
    simp [same.1, FileTree.linkLimit] at within

end Schematron.Directory
