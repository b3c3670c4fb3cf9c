import Schematron.Configuration
import Schematron.Json.Skip
import Schematron.Json.Typed

/-!
Reading a configuration from JSON: an object, whose other members are skipped, or a list of at
most one item. What is left out takes its standard value.
-/
namespace Schematron.Configuration

open Json

def endList (text : List Char) : Except Fault (List Char) :=
  match skipBlanks text with
  | [] => .error (beforeNext .endInList [])
  | c :: rest =>
    if c = ']' then .ok rest
    else if c = ',' then
      match skipBlanks rest with
      | ']' :: after => .error (beforeNext .trailingComma (']' :: after))
      | after => .error (beforeNext .trailingCharacters after)
    else .error (beforeNext .trailingCharacters (c :: rest))

def readItems (text : List Char) : Read Configuration :=
  match skipBlanks text with
  | [] => .error (beforeNext .endInList [])
  | c :: rest =>
    if c = ']' then .ok (standard, rest)
    else
      match boolean (c :: rest) with
      | .error fault => .error fault
      | .ok (value, rest) => (endList rest).map (⟨value⟩, ·)

/-- The fault of a second member of one name, behind its key and, if it ends there, its object. -/
def duplicateKey (rest : List Char) : Fault :=
  match skipBlanks rest with
  | '\x7d' :: after => behind (.duplicateField lineNumberingKey) after
  | after => behind (.duplicateField lineNumberingKey) after

/-- What follows a member whose opening quote has been read, and the value of the line numbering
as it is known then. -/
def readMember (known : Option Bool) (text : List Char) : Read (Option Bool) :=
  match string text with
  | .error fault => .error fault
  | .ok (key, rest) =>
    if String.ofList key = lineNumberingKey then
      if known.isSome then .error (duplicateKey rest)
      else
        match skipColon rest with
        | .error fault => .error fault
        | .ok rest => (boolean rest).map fun (value, rest) => (some value, rest)
    else
      match skipColon rest with
      | .error fault => .error fault
      | .ok rest => (skipValue rest).map (known, ·)

/-- What stands before the next member: nothing for the first one, else a comma. Answers with the
text behind the opening quote of its key, or behind the end of the object. -/
def nextMember (first : Bool) (text : List Char) : Read Bool :=
  match skipBlanks text with
  | [] => .error (beforeNext .endInObject [])
  | c :: rest =>
    if c = '\x7d' then .ok (false, rest)
    else if first then
      if c = '"' then .ok (true, rest) else .error (beforeNext .keyNotString (c :: rest))
    else if c = ',' then
      match skipBlanks rest with
      | [] => .error (beforeNext .endInValue [])
      | d :: rest =>
        if d = '"' then .ok (true, rest)
        else if d = '\x7d' then .error (beforeNext .trailingComma (d :: rest))
        else .error (beforeNext .keyNotString (d :: rest))
    else .error (beforeNext .expectedObjectEnd (c :: rest))

theorem length_readMember_lt {known next : Option Bool} {text rest : List Char}
    (h : readMember known text = .ok (next, rest)) : rest.length < text.length := by
  unfold readMember at h
  split at h
  · contradiction
  next hk =>
    have := length_string_lt hk
    split at h
    · split at h
      · contradiction
      split at h
      · contradiction
      next hc =>
        have := length_skipColon_lt hc
        obtain ⟨_, read, same⟩ := exists_of_map_eq_ok h
        simp only [Prod.mk.injEq] at same
        obtain ⟨-, rfl⟩ := same
        have := length_boolean_lt read
        omega
    · split at h
      · contradiction
      next hc =>
        have := length_skipColon_lt hc
        have := length_skipWithin_lt (map_pair_eq_ok h)
        omega

theorem length_nextMember_lt {first more : Bool} {text rest : List Char}
    (h : nextMember first text = .ok (more, rest)) : rest.length < text.length := by
  have hb := length_skipBlanks_le text
  unfold nextMember at h
  split at h
  · contradiction
  next c after hs =>
    have hb' := length_skipBlanks_le after
    rw [hs, List.length_cons] at hb
    grind

/-- The members of an object, `known` being the line numbering as the members before tell it. -/
def readMembers (first : Bool) (known : Option Bool) (text : List Char) : Read Configuration :=
  match _next : nextMember first text with
  | .error fault => .error fault
  | .ok (false, rest) => .ok (⟨known.getD standard.sourceLineNumbering⟩, rest)
  | .ok (true, member) =>
    match _member : readMember known member with
    | .error fault => .error fault
    | .ok (known, rest) => readMembers false known rest
termination_by text.length
decreasing_by
  have := length_nextMember_lt _next
  have := length_readMember_lt _member
  omega

def read (text : List Char) : Read Configuration :=
  match skipBlanks text with
  | [] => .error (beforeNext .endInValue [])
  | c :: rest =>
    if c = '[' then readItems rest
    else if c = '\x7b' then readMembers true none rest
    else .error (mistyped "struct CompilerConfiguration" (c :: rest))

def ofJson (json : String) : Except Fault Configuration :=
  complete (read json.toList)

end Schematron.Configuration
