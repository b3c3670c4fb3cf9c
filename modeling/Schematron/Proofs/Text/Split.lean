import Schematron.Text.Split

/-!
Where a text is cut. A run of characters of one kind ends at the first character of another kind,
and a mark cuts where it first stands. Splitting at a mark undoes joining with it.
-/
namespace Schematron.Text

variable {α : Type}

theorem span_iff {p : α → Bool} {text run rest : List α} :
    text.takeWhile p = run ∧ text.dropWhile p = rest ↔
      text = run ++ rest ∧ (∀ x ∈ run, p x = true) ∧ ∀ x ∈ rest.head?, p x = false := by
  constructor
  · rintro ⟨rfl, rfl⟩
    refine ⟨List.takeWhile_append_dropWhile.symm, fun x h => ?_, fun x h => ?_⟩
    · exact List.all_eq_true.1 List.all_takeWhile x h
    · have stop := List.head?_dropWhile_not p text
      rw [Option.mem_def.1 h] at stop
      simpa using stop
  · rintro ⟨rfl, all, stop⟩
    rw [List.takeWhile_append_of_pos all, List.dropWhile_append_of_pos all]
    cases rest with
    | nil => simp
    | cons x rest =>
      have : p x = false := stop x rfl
      simp [this]

theorem eq_of_append_run {p : α → Bool} {run run' rest rest' : List α}
    (inside : ∀ x ∈ run, p x = true) (stop : ∀ x ∈ rest.head?, p x = false)
    (inside' : ∀ x ∈ run', p x = true) (stop' : ∀ x ∈ rest'.head?, p x = false)
    (same : run ++ rest = run' ++ rest') : run = run' ∧ rest = rest' := by
  obtain ⟨taken, left⟩ := span_iff.2 ⟨Eq.refl (run ++ rest), inside, stop⟩
  obtain ⟨taken', left'⟩ := span_iff.2 ⟨same, inside', stop'⟩
  exact ⟨taken.symm.trans taken', left.symm.trans left'⟩

variable [DecidableEq α]

theorem eq_append_of_cutAt? {mark text before after : List α}
    (h : cutAt? mark text = some (before, after)) : text = before ++ mark ++ after := by
  induction text generalizing before with
  | nil =>
    simp only [cutAt?] at h
    split at h <;> simp_all
  | cons x rest ih =>
    simp only [cutAt?] at h
    split at h
    next found hf =>
      simp only [Option.some.injEq, Prod.mk.injEq] at h
      obtain ⟨rfl, rfl⟩ := h
      simpa using dropStart?_eq_some_iff.1 hf
    next =>
      simp only [Option.map_eq_some_iff, Prod.exists, Prod.mk.injEq] at h
      obtain ⟨b, a, hba, rfl, rfl⟩ := h
      simp [ih hba]

theorem occursIn_iff {mark text : List α} :
    occursIn mark text = true ↔ ∃ before after, text = before ++ mark ++ after := by
  constructor
  · intro h
    obtain ⟨⟨before, after⟩, found⟩ := Option.isSome_iff_exists.1 h
    exact ⟨before, after, eq_append_of_cutAt? found⟩
  · rintro ⟨before, after, rfl⟩
    induction before with
    | nil =>
      have start : dropStart? mark (mark ++ after) = some after := dropStart?_eq_some_iff.2 rfl
      cases h : mark ++ after <;> simp_all [occursIn, cutAt?]
    | cons x before ih =>
      simp only [occursIn, List.cons_append, cutAt?] at ih ⊢
      split
      · rfl
      · rwa [Option.isSome_map]

theorem occursIn_eq_false_of_not_mem {x : α} {mark text : List α} (h : x ∈ mark)
    (absent : x ∉ text) : occursIn mark text = false := by
  refine Bool.eq_false_iff.2 fun occurs => absent ?_
  obtain ⟨before, after, rfl⟩ := occursIn_iff.1 occurs
  simp [h]

theorem length_le_of_cutAt? {mark text before after front back : List α}
    (h : cutAt? mark text = some (before, after)) (occurs : text = front ++ mark ++ back) :
    before.length ≤ front.length := by
  induction text generalizing before front with
  | nil =>
    have split := eq_append_of_cutAt? h
    simp_all
  | cons x rest ih =>
    cases front with
    | nil =>
      have starts : dropStart? mark (x :: rest) = some back :=
        dropStart?_eq_some_iff.2 (by simpa using occurs)
      simp only [cutAt?, starts, Option.some.injEq, Prod.mk.injEq] at h
      simp [← h.1]
    | cons y front =>
      simp only [cutAt?] at h
      split at h
      next =>
        simp only [Option.some.injEq, Prod.mk.injEq] at h
        simp [← h.1]
      next =>
        simp only [Option.map_eq_some_iff, Prod.exists, Prod.mk.injEq] at h
        obtain ⟨before, after, found, rfl, rfl⟩ := h
        simp only [List.cons_append, List.cons.injEq] at occurs
        simpa using ih found occurs.2

/-- A mark cuts where it first stands: it does not stand earlier, not even with its end where the
mark itself begins. -/
theorem cutAt?_eq_some_iff {start text before after : List α} {last : α} :
    cutAt? (start ++ [last]) text = some (before, after) ↔
      text = before ++ (start ++ [last]) ++ after ∧
        occursIn (start ++ [last]) (before ++ start) = false := by
  constructor
  · intro h
    have split := eq_append_of_cutAt? h
    refine ⟨split, Bool.eq_false_iff.2 fun occurs => ?_⟩
    obtain ⟨front, back, earlier⟩ := occursIn_iff.1 occurs
    have again : text = front ++ (start ++ [last]) ++ (back ++ last :: after) := by
      rw [split, ← List.append_assoc before, earlier]
      simp
    have bound := length_le_of_cutAt? h again
    have lengths := congrArg List.length earlier
    simp only [List.length_append, List.length_singleton] at lengths
    omega
  · rintro ⟨rfl, first⟩
    have occurs : occursIn (start ++ [last]) (before ++ (start ++ [last]) ++ after) = true :=
      occursIn_iff.2 ⟨before, after, rfl⟩
    obtain ⟨⟨front, back⟩, found⟩ := Option.isSome_iff_exists.1 occurs
    have split := eq_append_of_cutAt? found
    have reach : before.length ≤ front.length := by
      refine Nat.le_of_not_lt fun earlier => ?_
      obtain ⟨rest, same⟩ : front ++ (start ++ [last]) <+: before ++ start := by
        have starts : before ++ start <+: before ++ (start ++ [last]) ++ after :=
          ⟨last :: after, by simp⟩
        refine List.prefix_of_prefix_length_le ⟨back, split.symm⟩ starts ?_
        simp only [List.length_append, List.length_singleton]
        omega
      rw [occursIn_iff.2 ⟨front, rest, same.symm⟩] at first
      contradiction
    rw [List.append_assoc, List.append_assoc front] at split
    obtain ⟨rfl, rest⟩ :=
      List.append_inj split (Nat.le_antisymm reach (length_le_of_cutAt? found rfl))
    obtain rfl := List.append_cancel_left rest
    exact found

theorem cutAt?_singleton_iff {x : α} {text before after : List α} :
    cutAt? [x] text = some (before, after) ↔ text = before ++ x :: after ∧ x ∉ before := by
  induction text generalizing before with
  | nil => simp [cutAt?]
  | cons y rest ih =>
    by_cases same : x = y
    · subst same
      cases before <;> simp +contextual [cutAt?, dropStart?, eq_comm]
    · cases before with
      | nil => simp [cutAt?, dropStart?, same, Ne.symm same]
      | cons z before =>
        simp only [cutAt?, dropStart?, same, if_false, Option.map_eq_some_iff, Prod.exists,
          Prod.mk.injEq, List.cons.injEq, List.cons_append, List.mem_cons, not_or]
        constructor
        · rintro ⟨b, a, found, ⟨rfl, rfl⟩, rfl⟩
          obtain ⟨rfl, absent⟩ := ih.1 found
          exact ⟨⟨rfl, rfl⟩, same, absent⟩
        · rintro ⟨⟨rfl, rfl⟩, -, absent⟩
          exact ⟨_, _, ih.2 ⟨rfl, absent⟩, ⟨rfl, rfl⟩, rfl⟩

theorem eq_of_append_mark {mark : α} {front front' rest rest' : List α} (absent : mark ∉ front)
    (absent' : mark ∉ front') (same : front ++ mark :: rest = front' ++ mark :: rest') :
    front = front' ∧ rest = rest' := by
  have cut : cutAt? [mark] (front ++ mark :: rest) = some (front, rest) :=
    cutAt?_singleton_iff.2 ⟨rfl, absent⟩
  rw [same, cutAt?_singleton_iff.2 ⟨rfl, absent'⟩] at cut
  cases cut
  exact ⟨rfl, rfl⟩

theorem not_mem_of_mem_splitOn {separator : α} {text piece : List α}
    (h : piece ∈ splitOn separator text) : separator ∉ piece := by
  induction text generalizing piece with
  | nil => simp_all [splitOn]
  | cons x rest ih =>
    simp only [splitOn] at h
    split at h
    next =>
      rcases List.mem_cons.1 h with rfl | h
      · simp
      · exact ih h
    next differs =>
      cases pieces : splitOn separator rest with
      | nil => exact absurd pieces (splitOn_ne_nil separator rest)
      | cons first others =>
        simp only [pieces, List.mem_cons] at h ih
        rcases h with rfl | h
        · simp [Ne.symm differs, ih (.inl rfl)]
        · exact ih (.inr h)

theorem splitOn_of_not_mem {separator : α} {text : List α} (h : separator ∉ text) :
    splitOn separator text = [text] := by
  induction text with
  | nil => rfl
  | cons x rest ih =>
    simp only [List.mem_cons, not_or] at h
    simp [splitOn, Ne.symm h.1, ih h.2]

theorem splitOn_append {separator : α} {piece : List α} (h : separator ∉ piece) (rest : List α) :
    splitOn separator (piece ++ separator :: rest) = piece :: splitOn separator rest := by
  induction piece with
  | nil => simp [splitOn]
  | cons x piece ih =>
    simp only [List.mem_cons, not_or] at h
    simp [splitOn, Ne.symm h.1, ih h.2]

theorem splitOn_joinWith {separator : α} {pieces : List (List α)} (some_piece : pieces ≠ [])
    (free : ∀ piece ∈ pieces, separator ∉ piece) :
    splitOn separator (joinWith separator pieces) = pieces := by
  induction pieces with
  | nil => exact absurd rfl some_piece
  | cons piece rest ih =>
    simp only [List.forall_mem_cons] at free
    cases rest with
    | nil => exact splitOn_of_not_mem free.1
    | cons next rest =>
      rw [joinWith, splitOn_append free.1, ih (by simp) free.2]
      simp

end Schematron.Text
