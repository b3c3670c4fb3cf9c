import Schematron.Json.Reader

/-!
Skipping a JSON value that nobody asked for. Its form alone is checked: strings without joining
surrogates, numbers without range, nesting without limit.
-/
namespace Schematron.Json

def skipEscape (text : List Char) : Except Fault (List Char) :=
  match text with
  | [] => .error (behind .endInString [])
  | 'u' :: rest => (hexEscape rest).map (·.2)
  | c :: rest =>
    if (shortEscape? c).isSome then .ok rest else .error (beforeNext .invalidEscape (c :: rest))

theorem length_skipEscape_lt {text rest : List Char} (h : skipEscape text = .ok rest) :
    rest.length < text.length := by
  unfold skipEscape at h
  split at h
  · contradiction
  next more =>
    cases hx : hexEscape more with
    | error fault => simp [hx, Except.map] at h
    | ok read =>
      simp only [hx, Except.map, Except.ok.injEq] at h
      subst h
      have : read.2.length < more.length := length_hexEscape_lt hx
      simp only [List.length_cons]
      omega
  · split at h
    · simp only [Except.ok.injEq] at h
      subst h
      simp
    · contradiction

def skipString (text : List Char) : Except Fault (List Char) :=
  match text with
  | [] => .error (behind .endInString [])
  | c :: rest =>
    if c = '"' then .ok rest
    else if c = '\\' then
      match _h : skipEscape rest with
      | .error fault => .error fault
      | .ok rest => skipString rest
    else if c.toNat < 0x20 then .error (behind .controlCharacter (c :: rest))
    else skipString rest
termination_by text.length
decreasing_by
  · have := length_skipEscape_lt _h
    simp only [List.length_cons]
    omega
  · simp

def skipExponent (text : List Char) : Except Fault (List Char) :=
  let digits := match text.drop 1 with
    | '+' :: rest => rest
    | '-' :: rest => rest
    | rest => rest
  match digits with
  | [] => .error (behind .invalidNumber [])
  | c :: rest =>
    if c.isDigit then .ok (rest.dropWhile Char.isDigit)
    else .error (beforeNext .invalidNumber (c :: rest))

def skipFraction (text : List Char) : Except Fault (List Char) :=
  match text with
  | '.' :: rest =>
    let after := rest.dropWhile Char.isDigit
    if after.length = rest.length then .error (beforeNext .invalidNumber rest)
    else
      match after with
      | 'e' :: _ => skipExponent after
      | 'E' :: _ => skipExponent after
      | _ => .ok after
  | 'e' :: _ => skipExponent text
  | 'E' :: _ => skipExponent text
  | _ => .ok text

def skipNumber (text : List Char) : Except Fault (List Char) :=
  match text with
  | [] => .error (behind .invalidNumber [])
  | c :: rest =>
    if c = '0' then
      match rest with
      | d :: _ =>
        if d.isDigit then .error (beforeNext .invalidNumber rest) else skipFraction rest
      | [] => .ok []
    else if c.isDigit then skipFraction (rest.dropWhile Char.isDigit)
    else .error (beforeNext .invalidNumber (c :: rest))

theorem length_skipExponent_le {text rest : List Char} (h : skipExponent text = .ok rest) :
    rest.length ≤ text.length := by
  unfold skipExponent at h
  dsimp only at h
  split at h
  · contradiction
  next c more hd =>
    split at h
    · simp only [Except.ok.injEq] at h
      subst h
      have h1 := (List.dropWhile_sublist (l := more) Char.isDigit).length_le
      have h2 : (text.drop 1).length ≤ text.length := by simp
      split at hd <;> simp_all <;> omega
    · contradiction

theorem length_skipFraction_le {text rest : List Char} (h : skipFraction text = .ok rest) :
    rest.length ≤ text.length := by
  unfold skipFraction at h
  split at h
  next more =>
    have h1 := (List.dropWhile_sublist (l := more) Char.isDigit).length_le
    dsimp only at h
    split at h
    · contradiction
    · split at h
      · have := length_skipExponent_le h
        simp_all
        omega
      · have := length_skipExponent_le h
        simp_all
        omega
      · simp only [Except.ok.injEq] at h
        subst h
        simp only [List.length_cons]
        omega
  · exact length_skipExponent_le h
  · exact length_skipExponent_le h
  · simp only [Except.ok.injEq] at h
    subst h
    exact Nat.le_refl _

theorem length_skipNumber_lt {text rest : List Char} (h : skipNumber text = .ok rest) :
    rest.length < text.length := by
  unfold skipNumber at h
  split at h
  · contradiction
  next c more =>
    split at h
    · split at h
      · split at h
        · contradiction
        · exact Nat.lt_succ_of_le (length_skipFraction_le h)
      · simp only [Except.ok.injEq] at h
        subst h
        simp
    · split at h
      · have := length_skipFraction_le h
        have h1 := (List.dropWhile_sublist (l := more) Char.isDigit).length_le
        simp only [List.length_cons]
        omega
      · contradiction

inductive Frame
  | list
  | object
  deriving DecidableEq, Repr

def Frame.closing : Frame → Char
  | .list => ']'
  | .object => '\x7d'

def Frame.unfinished : Frame → Problem
  | .list => .endInList
  | .object => .endInObject

def Frame.unclosed : Frame → Problem
  | .list => .expectedListEnd
  | .object => .expectedObjectEnd

def skipColon (text : List Char) : Except Fault (List Char) :=
  match skipBlanks text with
  | [] => .error (beforeNext .endInObject [])
  | c :: rest => if c = ':' then .ok rest else .error (beforeNext .expectedColon (c :: rest))

theorem length_skipColon_lt {text rest : List Char} (h : skipColon text = .ok rest) :
    rest.length < text.length := by
  have hb := length_skipBlanks_le text
  unfold skipColon at h
  split at h
  · contradiction
  next hs =>
    rw [hs, List.length_cons] at hb
    split at h
    · simp only [Except.ok.injEq] at h
      subst h
      omega
    · contradiction

def skipKey (text : List Char) : Except Fault (List Char) :=
  match skipBlanks text with
  | [] => .error (beforeNext .endInObject [])
  | c :: rest =>
    if c = '"' then
      match skipString rest with
      | .error fault => .error fault
      | .ok rest => skipColon rest
    else .error (beforeNext .keyNotString (c :: rest))

def skipStart (text : List Char) : Except Fault (Option Frame × List Char) :=
  match skipBlanks text with
  | [] => .error (beforeNext .endInValue [])
  | c :: rest =>
    if c = 'n' then (literal ['u', 'l', 'l'] rest).map (none, ·)
    else if c = 't' then (literal ['r', 'u', 'e'] rest).map (none, ·)
    else if c = 'f' then (literal ['a', 'l', 's', 'e'] rest).map (none, ·)
    else if c = '-' then (skipNumber rest).map (none, ·)
    else if c.isDigit then (skipNumber (c :: rest)).map (none, ·)
    else if c = '"' then (skipString rest).map (none, ·)
    else if c = '[' then .ok (some .list, rest)
    else if c = '\x7b' then .ok (some .object, rest)
    else .error (beforeNext .expectedValue (c :: rest))

def Frame.skipToValue (frame : Frame) (text : List Char) : Except Fault (List Char) :=
  match frame with
  | .list => .ok text
  | .object => skipKey text

/-- What follows the items of the frames that end at the front, innermost first, up to where the
next value is due in a frame that goes on. Without frames nothing is due. `fresh` tells that the
innermost frame was just opened, so that no comma is needed. -/
def skipEnds (fresh : Bool) (frames : List Frame) (text : List Char) :
    Except Fault (List Frame × List Char) :=
  match frames with
  | [] => .ok ([], text)
  | frame :: outer =>
    match skipBlanks text with
    | [] => .error (beforeNext frame.unfinished [])
    | c :: rest =>
      if c = frame.closing then skipEnds false outer rest
      else if fresh then (frame.skipToValue (c :: rest)).map (frame :: outer, ·)
      else if c = ',' then (frame.skipToValue rest).map (frame :: outer, ·)
      else .error (beforeNext frame.unclosed (c :: rest))

theorem length_skipString_lt {text rest : List Char} (h : skipString text = .ok rest) :
    rest.length < text.length := by
  fun_induction skipString text with
  | case1 | case3 | case5 => contradiction
  | case2 => simp_all
  | case4 _ _ hx _ ih =>
    have := ih h
    have := length_skipEscape_lt hx
    simp only [List.length_cons]
    omega
  | case6 _ _ _ _ _ ih =>
    have := ih h
    simp only [List.length_cons]
    omega

theorem length_skipKey_lt {text rest : List Char} (h : skipKey text = .ok rest) :
    rest.length < text.length := by
  have hb := length_skipBlanks_le text
  unfold skipKey at h
  split at h
  · contradiction
  next hs =>
    rw [hs] at hb
    split at h
    · split at h
      · contradiction
      next hk =>
        have := length_skipString_lt hk
        have := length_skipColon_lt h
        simp only [List.length_cons] at hb
        omega
    · contradiction

theorem Frame.length_skipToValue_le {frame : Frame} {text rest : List Char}
    (h : frame.skipToValue text = .ok rest) : rest.length ≤ text.length := by
  cases frame with
  | list => simp_all [skipToValue]
  | object => exact Nat.le_of_lt (length_skipKey_lt h)

theorem length_skipStart_lt {text rest : List Char} {opened : Option Frame}
    (h : skipStart text = .ok (opened, rest)) : rest.length < text.length := by
  have hb := length_skipBlanks_le text
  unfold skipStart at h
  split at h
  · contradiction
  next c more hs =>
    rw [hs, List.length_cons] at hb
    split at h
    · have := length_literal_le (map_pair_eq_ok h)
      omega
    split at h
    · have := length_literal_le (map_pair_eq_ok h)
      omega
    split at h
    · have := length_literal_le (map_pair_eq_ok h)
      omega
    split at h
    · have := length_skipNumber_lt (map_pair_eq_ok h)
      omega
    split at h
    · have := length_skipNumber_lt (map_pair_eq_ok h)
      simp only [List.length_cons] at this
      omega
    split at h
    · have := length_skipString_lt (map_pair_eq_ok h)
      omega
    split at h
    · simp only [Except.ok.injEq, Prod.mk.injEq] at h
      obtain ⟨-, rfl⟩ := h
      omega
    split at h
    · simp only [Except.ok.injEq, Prod.mk.injEq] at h
      obtain ⟨-, rfl⟩ := h
      omega
    · contradiction

theorem length_skipEnds_le {fresh : Bool} {frames left : List Frame} {text rest : List Char}
    (h : skipEnds fresh frames text = .ok (left, rest)) : rest.length ≤ text.length := by
  induction frames generalizing fresh text with
  | nil => simp_all [skipEnds]
  | cons frame outer ih =>
    have hb := length_skipBlanks_le text
    unfold skipEnds at h
    split at h
    · contradiction
    next c more hs =>
      rw [hs, List.length_cons] at hb
      split at h
      · have := ih h
        omega
      split at h
      · have := Frame.length_skipToValue_le (map_pair_eq_ok h)
        simp only [List.length_cons] at this
        omega
      split at h
      · have := Frame.length_skipToValue_le (map_pair_eq_ok h)
        omega
      · contradiction

/-- What follows the value that is due at the front and the frames around it. -/
def skipWithin (frames : List Frame) (text : List Char) : Except Fault (List Char) :=
  match _start : skipStart text with
  | .error fault => .error fault
  | .ok (opened, inside) =>
    match _ends : skipEnds opened.isSome (opened.toList ++ frames) inside with
    | .error fault => .error fault
    | .ok ([], rest) => .ok rest
    | .ok (frame :: outer, rest) => skipWithin (frame :: outer) rest
termination_by text.length
decreasing_by
  have := length_skipStart_lt _start
  have := length_skipEnds_le _ends
  omega

def skipValue (text : List Char) : Except Fault (List Char) :=
  skipWithin [] text

theorem length_skipWithin_lt {frames : List Frame} {text rest : List Char}
    (h : skipWithin frames text = .ok rest) : rest.length < text.length := by
  fun_induction skipWithin frames text with
  | case1 | case2 => contradiction
  | case3 _ _ _ _ hs _ he =>
    have := length_skipStart_lt hs
    have := length_skipEnds_le he
    simp only [Except.ok.injEq] at h
    subst h
    omega
  | case4 _ _ _ _ hs _ _ _ he ih =>
    have := length_skipStart_lt hs
    have := length_skipEnds_le he
    have := ih h
    omega

end Schematron.Json
