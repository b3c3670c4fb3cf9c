namespace Schematron.Text

variable {α : Type} [DecidableEq α]

/-- The pieces between the separators; there is always one more piece than separators. -/
def splitOn (separator : α) : List α → List (List α)
  | [] => [[]]
  | x :: rest =>
    if x = separator then [] :: splitOn separator rest
    else match splitOn separator rest with
      | [] => [[x]]
      | piece :: pieces => (x :: piece) :: pieces

def joinWith (separator : α) : List (List α) → List α
  | [] => []
  | [piece] => piece
  | piece :: pieces => piece ++ separator :: joinWith separator pieces

def dropStart? (start : List α) (text : List α) : Option (List α) :=
  match start, text with
  | [], text => some text
  | _ :: _, [] => none
  | s :: start, t :: text => if s = t then dropStart? start text else none

/-- The text before and after the first occurrence of `mark`, if there is one. -/
def cutAt? (mark : List α) : List α → Option (List α × List α)
  | [] => if mark.isEmpty then some ([], []) else none
  | x :: rest =>
    match dropStart? mark (x :: rest) with
    | some after => some ([], after)
    | none => (cutAt? mark rest).map fun (before, after) => (x :: before, after)

def occursIn (mark text : List α) : Bool :=
  (cutAt? mark text).isSome

theorem splitOn_ne_nil (separator : α) (text : List α) : splitOn separator text ≠ [] := by
  cases text with
  | nil => simp [splitOn]
  | cons x rest => simp only [splitOn]; split <;> (try split) <;> simp

theorem joinWith_splitOn (separator : α) (text : List α) :
    joinWith separator (splitOn separator text) = text := by
  induction text with
  | nil => rfl
  | cons x rest ih =>
    have hne := splitOn_ne_nil separator rest
    simp only [splitOn]
    split
    next h =>
      subst h
      cases hs : splitOn x rest with
      | nil => exact absurd hs hne
      | cons piece pieces => rw [hs] at ih; simp [joinWith, ih]
    next h =>
      cases hs : splitOn separator rest with
      | nil => exact absurd hs hne
      | cons piece pieces =>
        rw [hs] at ih
        cases pieces <;> simp_all [joinWith]

theorem dropStart?_eq_some_iff {start text rest : List α} :
    dropStart? start text = some rest ↔ text = start ++ rest := by
  induction start generalizing text with
  | nil => simp [dropStart?]
  | cons s start ih =>
    cases text with
    | nil => simp [dropStart?]
    | cons t text =>
      simp only [dropStart?]
      split
      next h => subst h; simp [ih]
      next h => simp [Ne.symm h]

end Schematron.Text
