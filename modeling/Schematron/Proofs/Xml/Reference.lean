import Schematron.Proofs.Outcome
import Schematron.Proofs.Text.Split
import Schematron.Xml.Reference

/-!
Resolving references, said without positions and a reference under way: a text is made of plain
characters and of references with their names between `&` and `;`.
-/
namespace Schematron.Xml

inductive Resolves : List Char → List Char → Prop
  | nil : Resolves [] []
  | plain {c : Char} {raw resolved : List Char} :
      c ≠ '&' → Resolves raw resolved → Resolves (c :: raw) (c :: resolved)
  | reference {name raw resolved : List Char} {c : Char} :
      '&' ∉ name → ';' ∉ name → resolveReference 0 name = .ok c → Resolves raw resolved →
        Resolves ('&' :: (name ++ ';' :: raw)) (c :: resolved)

theorem resolveReference_ok_iff {position : Nat} {name : List Char} {c : Char} :
    resolveReference position name = .ok c ↔ resolveReference 0 name = .ok c := by
  unfold resolveReference
  split
  · rfl
  · rfl
  · cases predefinedEntity? name <;> simp

theorem resolves_of_unescapeFrom (stop : Nat) (raw : List Char) :
    (∀ position resolved, unescapeFrom stop none position raw = .ok resolved →
      Resolves raw resolved) ∧
    ∀ reference position resolved,
      unescapeFrom stop (some reference) position raw = .ok resolved →
        ∃ name rest c following, raw = name ++ ';' :: rest ∧ '&' ∉ name ∧ ';' ∉ name ∧
          resolveReference 0 (reference.reversed.reverse ++ name) = .ok c ∧
          Resolves rest following ∧ c :: following = resolved := by
  induction raw with
  | nil =>
    constructor
    · intro position resolved h
      cases h
      exact .nil
    · intro reference position resolved h
      contradiction
  | cons c raw ih =>
    constructor
    · intro position resolved h
      simp only [unescapeFrom] at h
      split at h
      next amp =>
        subst amp
        obtain ⟨name, rest, c, following, rfl, amp, semicolon, found, resolves, rfl⟩ := ih.2 _ _ _ h
        exact .reference amp semicolon found resolves
      next plain =>
        obtain ⟨following, rest_read, rfl⟩ := map_eq_ok_iff.1 h
        exact .plain plain (ih.1 _ _ rest_read)
    · intro reference position resolved h
      simp only [unescapeFrom] at h
      split at h
      next semicolon =>
        subst semicolon
        split at h
        · contradiction
        next d found =>
          obtain ⟨following, rest_read, rfl⟩ := map_eq_ok_iff.1 h
          exact ⟨[], raw, d, following, rfl, by simp, by simp,
            resolveReference_ok_iff.1 (by simpa using found), ih.1 _ _ rest_read, rfl⟩
      next semicolon =>
        split at h
        · contradiction
        next amp =>
          obtain ⟨name, rest, d, following, rfl, amp', semicolon', found, resolves, rfl⟩ :=
            ih.2 _ _ _ h
          refine ⟨c :: name, rest, d, following, rfl, ?_, ?_, by simpa using found, resolves, rfl⟩
          · simpa [eq_comm] using ⟨amp, amp'⟩
          · simpa [eq_comm] using ⟨semicolon, semicolon'⟩

theorem unescapeFrom_name (stop : Nat) {name : List Char} (amp : '&' ∉ name)
    (semicolon : ';' ∉ name) (rest : List Char) (reference : OpenReference) (position : Nat) :
    ∃ position', unescapeFrom stop (some reference) position (name ++ ';' :: rest) =
      unescapeFrom stop (some ⟨reference.start, name.reverse ++ reference.reversed⟩) position'
        (';' :: rest) := by
  induction name generalizing reference position with
  | nil => exact ⟨position, rfl⟩
  | cons c name ih =>
    rw [List.mem_cons, not_or] at amp semicolon
    obtain ⟨position', same⟩ := ih amp.2 semicolon.2
      ⟨reference.start, c :: reference.reversed⟩ (position + c.utf8Size)
    refine ⟨position', ?_⟩
    simp [unescapeFrom, Ne.symm amp.1, Ne.symm semicolon.1, same]

theorem unescape_eq_ok_iff {raw resolved : List Char} :
    unescape raw = .ok resolved ↔ Resolves raw resolved := by
  refine ⟨(resolves_of_unescapeFrom _ raw).1 0 resolved, fun h => ?_⟩
  unfold unescape
  generalize Utf8.size raw = stop
  generalize 0 = position
  induction h generalizing position with
  | nil => rfl
  | @plain c raw resolved plain _ ih => simp [unescapeFrom, plain, ih, Except.map]
  | @reference name raw resolved c amp semicolon found _ ih =>
    obtain ⟨position', same⟩ :=
      unescapeFrom_name stop amp semicolon raw ⟨position, []⟩ (position + 1)
    have found' : resolveReference (position + 1) name = .ok c := resolveReference_ok_iff.2 found
    simp [unescapeFrom, same, found', ih, Except.map]

theorem Resolves.append {first second resolved resolved' : List Char} (h : Resolves first resolved)
    (h' : Resolves second resolved') : Resolves (first ++ second) (resolved ++ resolved') := by
  induction h with
  | nil => exact h'
  | plain plain _ ih => exact .plain plain ih
  | reference amp semicolon found _ ih =>
    rw [List.cons_append, List.append_assoc, List.cons_append]
    exact .reference amp semicolon found ih

theorem resolves_of_not_mem {raw : List Char} (plain : '&' ∉ raw) : Resolves raw raw := by
  induction raw with
  | nil => exact .nil
  | cons c raw ih =>
    rw [List.mem_cons, not_or] at plain
    exact .plain (Ne.symm plain.1) (ih plain.2)

theorem Resolves.unique {raw resolved resolved' : List Char} (h : Resolves raw resolved)
    (h' : Resolves raw resolved') : resolved = resolved' :=
  ok_unique (unescape_eq_ok_iff.2 h) (unescape_eq_ok_iff.2 h')

def references : List Char → List (List Char)
  | [] => []
  | c :: rest =>
    if c = '&' then rest.takeWhile (· != ';') :: references rest else references rest

theorem references_append_plain {first : List Char} (h : '&' ∉ first) (second : List Char) :
    references (first ++ second) = references second := by
  induction first with
  | nil => rfl
  | cons c first ih =>
    rw [List.mem_cons, not_or] at h
    simp [references, Ne.symm h.1, ih h.2]

theorem references_reference {name : List Char} (amp : '&' ∉ name) (semicolon : ';' ∉ name)
    (rest : List Char) : references ('&' :: (name ++ ';' :: rest)) = name :: references rest := by
  have inside : ∀ c ∈ name, (c != ';') = true := by
    intro c member
    rw [bne_iff_ne]
    rintro rfl
    exact semicolon member
  have run : (name ++ ';' :: rest).takeWhile (· != ';') = name :=
    (Text.span_iff.2 ⟨rfl, inside, by simp⟩).1
  have later : references (';' :: rest) = references rest := by simp [references]
  rw [references, if_pos rfl, run, references_append_plain amp, later]

theorem Resolves.references_append {raw resolved : List Char} (h : Resolves raw resolved)
    (rest : List Char) : references (raw ++ rest) = references raw ++ references rest := by
  induction h with
  | nil => rfl
  | plain plain _ ih => simp [references, plain, ih]
  | reference amp semicolon _ _ ih =>
    simp [references_reference amp semicolon, ih]

end Schematron.Xml
