import Mathlib.Data.List.Induction
import Schematron.Proofs.Resource.Lookup

/-!
Many references lead to one path, so what counts of an insertion is where it leads. One that leads
nowhere is refused and leaves no trace.
-/
namespace Schematron.Store

/-- The store after one more insertion, made in place or as the next store of a chain. What is
refused leaves the store as it is. -/
def keep (store : Store) (insertion : String × List UInt8) : Store :=
  match store.insert insertion.1 insertion.2 with
  | .ok next => next
  | .error _ => store

def after (history : List (String × List UInt8)) : Store :=
  history.foldl keep empty

def LeadsTo (path : String) (insertion : String × List UInt8) : Prop :=
  Location.resolve? insertion.1 none = some path

def LastStored (history : List (String × List UInt8)) (path : String) (content : List UInt8) :
    Prop :=
  ∃ before spelling later, history = before ++ (spelling, content) :: later ∧
    LeadsTo path (spelling, content) ∧ ∀ insertion ∈ later, ¬LeadsTo path insertion

variable {store next : Store} {history : List (String × List UInt8)} {path : String}
  {content : List UInt8} {insertion : String × List UInt8}

instance : Decidable (LeadsTo path insertion) :=
  inferInstanceAs (Decidable (_ = _))

theorem insert_eq_ok_iff :
    store.insert path content = .ok next ↔
      Location.resolve? path none ≠ none ∧ next = store.keep (path, content) := by
  unfold keep insert
  cases Location.resolve? path none <;> simp [eq_comm]

theorem insert_eq_error_iff {error : ResolveError} :
    store.insert path content = .error error ↔
      Location.resolve? path none = none ∧ error = .invalidPath path := by
  unfold insert
  cases Location.resolve? path none <;> simp [eq_comm]

theorem keep_of_refused (refused : Location.resolve? insertion.1 none = none) :
    store.keep insertion = store := by
  simp [keep, insert, refused]

/-- The path that is led to has the new content, and the others keep theirs. -/
theorem get?_keep :
    (store.keep insertion).get? path =
      if LeadsTo path insertion then some insertion.2 else store.get? path := by
  cases led : Location.resolve? insertion.1 none with
  | none => simp [keep_of_refused led, LeadsTo, led]
  | some key =>
    obtain ⟨next, stored⟩ : ∃ next, store.insert insertion.1 insertion.2 = .ok next := by
      simp [insert, led]
    have same := (insert_eq_ok_iff.1 stored).2
    rw [← same, get?_insert led stored]
    simp [LeadsTo, led, eq_comm]

@[simp] theorem after_concat :
    after (history ++ [insertion]) = (after history).keep insertion := by
  simp [after]

theorem not_lastStored_nil : ¬LastStored [] path content := by
  simp [LastStored]

theorem lastStored_concat_iff :
    LastStored (history ++ [insertion]) path content ↔
      if LeadsTo path insertion then insertion.2 = content
      else LastStored history path content := by
  constructor
  · rintro ⟨before, spelling, later, split, leads, rest⟩
    cases later using List.reverseRecOn with
    | nil =>
      obtain ⟨-, rfl⟩ := List.append_singleton_inj.1 split
      rw [if_pos leads]
    | append_singleton later last =>
      rw [← List.cons_append, ← List.append_assoc, List.append_singleton_inj] at split
      obtain ⟨rfl, rfl⟩ := split
      rw [List.forall_mem_append, List.forall_mem_singleton] at rest
      rw [if_neg rest.2]
      exact ⟨before, spelling, later, rfl, leads, rest.1⟩
  · intro h
    split at h
    next leads =>
      subst h
      exact ⟨history, insertion.1, [], rfl, leads, by simp⟩
    next passes =>
      obtain ⟨before, spelling, later, rfl, leads, rest⟩ := h
      refine ⟨before, spelling, later ++ [insertion], by simp, leads, ?_⟩
      exact List.forall_mem_append.2 ⟨rest, List.forall_mem_singleton.2 passes⟩

/-- A path holds what was last stored under it. -/
theorem get?_after_eq_some_iff :
    (after history).get? path = some content ↔ LastStored history path content := by
  induction history using List.reverseRecOn with
  | nil => exact iff_of_false (by simp [after, empty, get?]) not_lastStored_nil
  | append_singleton history insertion ih =>
    rw [after_concat, get?_keep, lastStored_concat_iff]
    split
    · rw [Option.some.injEq]
    · exact ih

theorem get?_after_eq_none_iff :
    (after history).get? path = none ↔ ∀ insertion ∈ history, ¬LeadsTo path insertion := by
  induction history using List.reverseRecOn with
  | nil => simp [after, empty, get?]
  | append_singleton history insertion ih =>
    rw [after_concat, get?_keep, List.forall_mem_append, List.forall_mem_singleton]
    split
    next leads => simp [leads]
    next passes => simpa [passes] using ih

theorem after_of_refused {before later : List (String × List UInt8)}
    (refused : Location.resolve? path none = none) :
    after (before ++ (path, content) :: later) = after (before ++ later) := by
  have skipped : (after before).keep (path, content) = after before := keep_of_refused refused
  rw [after, List.foldl_append, List.foldl_cons, ← after, skipped, after, after,
    List.foldl_append]

theorem contains_iff :
    store.contains path = true ↔ ∃ resource, store.resolve path none = .ok resource := by
  rw [resolve_eq]
  simp only [Lookup.ofContents_eq_ok_iff]
  unfold contains
  cases Location.resolve? path none with
  | none => simp
  | some key => simp [Option.isSome_iff_exists]

/-- After any insertions, with every reference and every base: a reference is found where it leads
to a path, with the content of the last insertion that leads there; it is missed under the path that
it leads to if no insertion leads there, and under its own text if it leads nowhere. An insertion
goes through, as the last one of the history, exactly if it leads somewhere; else it is refused with
its path as given, and what follows is as if it had not been tried. -/
theorem resolve_after (history : List (String × List UInt8)) :
    (∀ reference base resource, (after history).resolve reference base = .ok resource ↔
      ∃ path content, Location.resolve? reference base = some path ∧
        LastStored history path content ∧ resource = ⟨path, .whole content⟩) ∧
    (∀ reference base error, (after history).resolve reference base = .error error ↔
      Location.resolve? reference base = none ∧ error = .notFound reference ∨
      ∃ path, Location.resolve? reference base = some path ∧
        (∀ insertion ∈ history, ¬LeadsTo path insertion) ∧ error = .notFound path) ∧
    (∀ path content next, (after history).insert path content = .ok next ↔
      Location.resolve? path none ≠ none ∧ next = after (history ++ [(path, content)])) ∧
    (∀ path content error, (after history).insert path content = .error error ↔
      Location.resolve? path none = none ∧ error = .invalidPath path) ∧
    (∀ path content later, Location.resolve? path none = none →
      after (history ++ (path, content) :: later) = after (history ++ later)) ∧
    ∀ path, (after history).contains path = true ↔
      ∃ resource, (after history).resolve path none = .ok resource := by
  refine ⟨fun reference base resource => ?_, fun reference base error => ?_, ?_, ?_, ?_, ?_⟩
  · rw [resolve_eq]
    simp only [Lookup.ofContents_eq_ok_iff, get?_after_eq_some_iff]
  · rw [resolve_eq]
    simp only [Lookup.ofContents_eq_error_iff, get?_after_eq_none_iff]
  · intro path content next
    rw [insert_eq_ok_iff, after_concat]
  · exact fun path content error => insert_eq_error_iff
  · exact fun path content later => after_of_refused
  · exact fun path => contains_iff

def spellings : List (String × List UInt8) :=
  [("lib/a.xsl", [1]), ("../b.xsl", [2]), (" ./lib//x/../a.xsl ", [3]), ("/b.xsl", [4])]

theorem resolve_after_spellings :
    (after spellings).resolve "../lib/a.xsl" (some "doc/rules.sch") =
        .ok ⟨"lib/a.xsl", .whole [3]⟩ ∧
      (after spellings).resolve "a.xsl" none = .error (.notFound "a.xsl") ∧
      (after spellings).resolve "../../b.xsl" (some "lib/a.xsl") =
        .error (.notFound "../../b.xsl") ∧
      Location.resolve? "../b.xsl" none = none ∧
      after ([("lib/a.xsl", [1])] ++ ("../b.xsl", [2]) :: spellings.drop 2) =
        after ([("lib/a.xsl", [1])] ++ spellings.drop 2) := by
  obtain ⟨found, missed, -⟩ := resolve_after spellings
  have refused : Location.resolve? "../b.xsl" none = none := rfl
  refine ⟨(found _ _ _).2 ⟨"lib/a.xsl", [3], rfl, ?_, rfl⟩,
    (missed _ _ _).2 (.inr ⟨"a.xsl", rfl, by decide, rfl⟩),
    (missed _ _ _).2 (.inl ⟨rfl, rfl⟩), refused,
    (resolve_after [("lib/a.xsl", [1])]).2.2.2.2.1 _ _ _ refused⟩
  exact ⟨[("lib/a.xsl", [1]), ("../b.xsl", [2])], " ./lib//x/../a.xsl ", [("/b.xsl", [4])], rfl,
    by decide, by decide⟩

end Schematron.Store
