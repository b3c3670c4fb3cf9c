import Schematron.Json.Number

/-!
Values of a kind that is asked for. A value of another kind is read as far as it is a scalar, so
that the fault can show it; lists and objects stay unread.
-/
namespace Schematron.Json

def readFound (text : List Char) : Read Found :=
  match text with
  | [] => .error (beforeNext .expectedValue [])
  | c :: rest =>
    if c = 'n' then (literal ['u', 'l', 'l'] rest).map (.null, ·)
    else if c = 't' then (literal ['r', 'u', 'e'] rest).map (.boolean true, ·)
    else if c = 'f' then (literal ['a', 'l', 's', 'e'] rest).map (.boolean false, ·)
    else if c = '-' then (readNumber true rest).map fun (number, rest) => (number.found, rest)
    else if c.isDigit then
      (readNumber false (c :: rest)).map fun (number, rest) => (number.found, rest)
    else if c = '"' then (string rest).map fun (content, rest) => (.string content, rest)
    else if c = '[' then .ok (.sequence, c :: rest)
    else if c = '\x7b' then .ok (.map, c :: rest)
    else .error (beforeNext .expectedValue (c :: rest))

def mistyped (expected : String) (text : List Char) : Fault :=
  match readFound text with
  | .ok (found, rest) => behind (.invalidType found expected) rest
  | .error fault => fault

def boolean (text : List Char) : Read Bool :=
  match skipBlanks text with
  | [] => .error (beforeNext .endInValue [])
  | c :: rest =>
    if c = 't' then (literal ['r', 'u', 'e'] rest).map (true, ·)
    else if c = 'f' then (literal ['a', 'l', 's', 'e'] rest).map (false, ·)
    else .error (mistyped "a boolean" (c :: rest))

theorem length_boolean_lt {text rest : List Char} {value : Bool}
    (h : boolean text = .ok (value, rest)) : rest.length < text.length := by
  have hb := length_skipBlanks_le text
  unfold boolean at h
  split at h
  · contradiction
  next hs =>
    rw [hs, List.length_cons] at hb
    split at h
    · have := length_literal_le (map_pair_eq_ok h)
      omega
    split at h
    · have := length_literal_le (map_pair_eq_ok h)
      omega
    · contradiction

def unit (text : List Char) : Except Fault (List Char) :=
  match skipBlanks text with
  | [] => .error (beforeNext .endInValue [])
  | c :: rest =>
    if c = 'n' then literal ['u', 'l', 'l'] rest
    else .error (mistyped "unit" (c :: rest))

def complete {α : Type} (result : Read α) : Except Fault α :=
  match result with
  | .error fault => .error fault
  | .ok (value, rest) =>
    match skipBlanks rest with
    | [] => .ok value
    | rest => .error (beforeNext .trailingCharacters rest)

end Schematron.Json
