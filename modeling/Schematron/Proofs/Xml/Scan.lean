import Mathlib.Data.List.Induction
import Schematron.Xml.Scan

/-!
Where a construct of markup closes, said without reading character by character: at the first `>`
whose state closes, states being those after all characters before. Every construct is described
by what its content looks like at that place.
-/
namespace Schematron.Xml
namespace Automaton

variable {State : Type} {automaton : Automaton State} {state : State}

def after (automaton : Automaton State) (state : State) (text : List Char) : State :=
  text.foldl automaton.next state

@[simp] theorem after_nil : automaton.after state [] = state :=
  rfl

@[simp] theorem after_cons (c : Char) (text : List Char) :
    automaton.after state (c :: text) = automaton.after (automaton.next state c) text :=
  rfl

@[simp] theorem after_append (first second : List Char) :
    automaton.after state (first ++ second) =
      automaton.after (automaton.after state first) second :=
  List.foldl_append

theorem scan_eq_some_iff {text body rest : List Char} :
    automaton.scan state text = some (body, rest) ↔
      text = body ++ '>' :: rest ∧ automaton.closes (automaton.after state body) = true ∧
        ∀ front back, body = front ++ '>' :: back →
          automaton.closes (automaton.after state front) = false := by
  induction text generalizing state body with
  | nil => simp [scan]
  | cons c text ih =>
    cases body with
    | nil =>
      simp only [scan]
      split <;> simp_all
    | cons d body =>
      simp only [scan]
      split
      next closed =>
        simp only [Option.some.injEq, Prod.mk.injEq, reduceCtorEq, false_and, false_iff, not_and]
        rintro same - early
        obtain ⟨rfl, -⟩ := List.cons.inj same
        have unended := early [] body (by simp [closed.1])
        simp [closed.2] at unended
      next closed =>
        simp only [Option.map_eq_some_iff, Prod.exists, Prod.mk.injEq, List.cons.injEq,
          List.cons_append]
        constructor
        · rintro ⟨body, rest, found, ⟨rfl, rfl⟩, rfl⟩
          obtain ⟨rfl, closes, early⟩ := ih.1 found
          refine ⟨⟨rfl, rfl⟩, closes, fun front back split => ?_⟩
          cases front with
          | nil => simp_all
          | cons e front =>
            obtain ⟨rfl, inner⟩ := List.cons.inj split
            exact early front back inner
        · rintro ⟨⟨rfl, rfl⟩, closes, early⟩
          refine ⟨body, rest, ih.2 ⟨rfl, closes, fun front back split => ?_⟩, ⟨rfl, rfl⟩, rfl⟩
          exact early (c :: front) back (by rw [split, List.cons_append])

theorem scan_of_not_mem {body : List Char} (absent : '>' ∉ body)
    (closes : automaton.closes (automaton.after state body) = true) (rest : List Char) :
    automaton.scan state (body ++ '>' :: rest) = some (body, rest) := by
  refine scan_eq_some_iff.2 ⟨rfl, closes, fun front back split => ?_⟩
  exact absurd (by simp [split]) absent

end Automaton

@[simp] theorem tagAutomaton_closes_none : tagAutomaton.closes none = true :=
  rfl

theorem tagAutomaton_after_unquoted {text : List Char} (h : ∀ c ∈ text, c ≠ '"' ∧ c ≠ '\'') :
    tagAutomaton.after none text = none := by
  induction text with
  | nil => rfl
  | cons c text ih =>
    rw [List.forall_mem_cons] at h
    rw [Automaton.after_cons, show tagAutomaton.next none c = none by simp [tagAutomaton, h.1]]
    exact ih h.2

theorem tagAutomaton_after_quoted {quote : Char} {text : List Char} (h : quote ∉ text) :
    tagAutomaton.after (some quote) text = some quote := by
  induction text with
  | nil => rfl
  | cons c text ih =>
    rw [List.mem_cons, not_or] at h
    rw [Automaton.after_cons, show tagAutomaton.next (some quote) c = some quote by
      simp [tagAutomaton, Ne.symm h.1]]
    exact ih h.2

def trailing (mark : Char) (text : List Char) : Nat :=
  text.foldl (fun count c => if c = mark then count + 1 else 0) 0

theorem trailing_append_singleton (mark c : Char) (text : List Char) :
    trailing mark (text ++ [c]) = if c = mark then trailing mark text + 1 else 0 := by
  simp [trailing]

theorem trailing_pos_iff {mark : Char} {text : List Char} :
    0 < trailing mark text ↔ ∃ front, text = front ++ [mark] := by
  cases text using List.reverseRecOn with
  | nil => simp [trailing]
  | append_singleton front c =>
    rw [trailing_append_singleton]
    split <;> simp_all [eq_comm]

theorem two_le_trailing_iff {mark : Char} {text : List Char} :
    2 ≤ trailing mark text ↔ ∃ front, text = front ++ [mark, mark] := by
  cases text using List.reverseRecOn with
  | nil => simp [trailing]
  | append_singleton front c =>
    have last : ∀ inner, front ++ [c] = inner ++ [mark, mark] ↔
        front = inner ++ [mark] ∧ c = mark := by
      intro inner
      rw [List.append_cons inner]
      exact List.append_singleton_inj
    simp only [last, exists_and_right, ← trailing_pos_iff]
    rw [trailing_append_singleton]
    split <;> simp [*]
    omega

theorem cdataAutomaton_after (text : List Char) :
    cdataAutomaton.after 0 text = trailing ']' text :=
  rfl

theorem commentAutomaton_after (text : List Char) :
    commentAutomaton.after ⟨0, 0⟩ text = ⟨text.length, trailing '-' text⟩ := by
  induction text using List.reverseRecOn with
  | nil => rfl
  | append_singleton front c ih =>
    rw [Automaton.after_append, ih, trailing_append_singleton]
    simp [commentAutomaton]

theorem commentAutomaton_closes_iff {text : List Char} :
    commentAutomaton.closes (commentAutomaton.after ⟨0, 0⟩ text) = true ↔
      4 ≤ text.length ∧ ∃ front, text = front ++ ['-', '-'] := by
  rw [commentAutomaton_after, ← two_le_trailing_iff]
  simp [commentAutomaton]

theorem cdataAutomaton_closes_iff {text : List Char} :
    cdataAutomaton.closes (cdataAutomaton.after 0 text) = true ↔
      ∃ front, text = front ++ [']', ']'] := by
  rw [cdataAutomaton_after, ← two_le_trailing_iff]
  simp [cdataAutomaton]

theorem instructionAutomaton_closes_iff {text : List Char} :
    instructionAutomaton.closes (instructionAutomaton.after true text) = true ↔
      text = [] ∨ ∃ front, text = front ++ ['?'] := by
  cases text using List.reverseRecOn with
  | nil => simp [instructionAutomaton]
  | append_singleton front c =>
    rw [Automaton.after_append]
    simp [instructionAutomaton]

end Schematron.Xml
