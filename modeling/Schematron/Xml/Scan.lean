/-!
For each construct of markup an automaton reads the text after the opening character by character
and tells which `>` closes it.
-/
namespace Schematron.Xml

/-- Reads a construct: `closes` tells whether a `>` in this state closes it. -/
structure Automaton (State : Type) where
  closes : State → Bool
  next : State → Char → State

def Automaton.scan {State : Type} (automaton : Automaton State) :
    State → List Char → Option (List Char × List Char)
  | _, [] => none
  | state, c :: rest =>
    if c = '>' ∧ automaton.closes state then some ([], rest)
    else (automaton.scan (automaton.next state c) rest).map fun (body, after) => (c :: body, after)

/-- A tag closes outside quotes; the state is the quote it is in. -/
def tagAutomaton : Automaton (Option Char) where
  closes quote := quote.isNone
  next
    | none, c => if c = '"' ∨ c = '\'' then some c else none
    | some quote, c => if c = quote then none else some quote

/-- A processing instruction closes after a question mark; the state tells whether the last
character was one. -/
def instructionAutomaton : Automaton Bool where
  closes questioned := questioned
  next _ c := c == '?'

structure CommentState where
  length : Nat
  hyphens : Nat
  deriving DecidableEq, Repr

/-- A comment closes after two hyphens, which may not overlap with the two that open it. -/
def commentAutomaton : Automaton CommentState where
  closes state := 4 ≤ state.length && 2 ≤ state.hyphens
  next state c := ⟨state.length + 1, if c = '-' then state.hyphens + 1 else 0⟩

/-- A CDATA section closes after two brackets; the state counts those at the end. -/
def cdataAutomaton : Automaton Nat where
  closes brackets := 2 ≤ brackets
  next brackets c := if c = ']' then brackets + 1 else 0

/-- A document type declaration closes when every `<` in it is matched; the state counts the open
ones. Quotes and comments in it are not looked at. -/
def doctypeAutomaton : Automaton Nat where
  closes opened := opened == 0
  next opened c := if c = '<' then opened + 1 else if c = '>' then opened - 1 else opened

namespace Automaton

variable {State : Type} {automaton : Automaton State} {state : State}

theorem eq_of_scan {text body after : List Char}
    (h : automaton.scan state text = some (body, after)) : text = body ++ '>' :: after := by
  induction text generalizing state body with
  | nil => simp [scan] at h
  | cons c rest ih =>
    simp only [scan] at h
    split at h
    · simp_all
    · simp only [Option.map_eq_some_iff, Prod.exists, Prod.mk.injEq] at h
      obtain ⟨b, a, hba, rfl, rfl⟩ := h
      simp [ih hba]

theorem length_scan_lt {text body after : List Char}
    (h : automaton.scan state text = some (body, after)) : after.length < text.length := by
  rw [eq_of_scan h]
  simp
  omega

theorem scan_append {text body after : List Char} (more : List Char)
    (h : automaton.scan state text = some (body, after)) :
    automaton.scan state (text ++ more) = some (body, after ++ more) := by
  induction text generalizing state body with
  | nil => simp [scan] at h
  | cons c rest ih =>
    simp only [scan, List.cons_append] at h ⊢
    split at h
    next closed => simp_all
    next closed =>
      simp only [Option.map_eq_some_iff, Prod.exists, Prod.mk.injEq] at h
      obtain ⟨b, a, hba, rfl, rfl⟩ := h
      simp [closed, ih hba]

end Automaton
end Schematron.Xml
