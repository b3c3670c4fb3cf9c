import Schematron.Json.Fault
import Schematron.Text.Blank
import Schematron.Text.Digits

/-!
Reading JSON text from the front: blanks, literals and strings. Every reader answers with what it
has read and the text left, or with a fault.
-/
namespace Schematron.Json

abbrev Read (α : Type) := Except Fault (α × List Char)

def skipBlanks (text : List Char) : List Char :=
  text.dropWhile Text.isXmlBlank

def literal : List Char → List Char → Except Fault (List Char)
  | [], text => .ok text
  | _ :: _, [] => .error (behind .endInValue [])
  | expected :: more, c :: rest =>
    if c = expected then literal more rest else .error (beforeNext .expectedLiteral (c :: rest))

theorem exists_of_map_eq_ok {α β ε : Type} {f : α → β} {result : Except ε α} {b : β}
    (h : result.map f = .ok b) : ∃ a, result = .ok a ∧ f a = b := by
  cases result <;> simp_all [Except.map]

theorem map_pair_eq_ok {α β ε : Type} {result : Except ε β} {a a' : α} {b : β}
    (h : result.map (a, ·) = .ok (a', b)) : result = .ok b := by
  cases result <;> simp_all [Except.map]

theorem length_skipBlanks_le (text : List Char) : (skipBlanks text).length ≤ text.length :=
  (List.dropWhile_sublist (l := text) Text.isXmlBlank).length_le

theorem length_literal_le {expected text rest : List Char} (h : literal expected text = .ok rest) :
    rest.length ≤ text.length := by
  induction expected generalizing text with
  | nil => simp_all [literal]
  | cons e more ih =>
    cases text with
    | nil => simp [literal] at h
    | cons c text =>
      simp only [literal] at h
      split at h
      · have := ih h
        simp only [List.length_cons]
        omega
      · contradiction

/-- Four hexadecimal digits. Four bytes are consumed before they are looked at. -/
def hexEscape (text : List Char) : Read Nat :=
  if Utf8.size (text.take 4) < 4 then .error (behind .endInString [])
  else
    match text with
    | a :: b :: c :: d :: rest =>
      match Text.digitValue? 16 a, Text.digitValue? 16 b, Text.digitValue? 16 c,
          Text.digitValue? 16 d with
      | some a, some b, some c, some d => .ok (((a * 16 + b) * 16 + c) * 16 + d, rest)
      | _, _, _, _ => .error ⟨.invalidEscape, text, 4⟩
    | _ => .error ⟨.invalidEscape, text, 4⟩

def shortEscape? (c : Char) : Option Char :=
  if c = '"' ∨ c = '\\' ∨ c = '/' then some c
  else if c = 'b' then some '\x08'
  else if c = 'f' then some '\x0c'
  else if c = 'n' then some '\n'
  else if c = 'r' then some '\r'
  else if c = 't' then some '\t'
  else none

def isLowSurrogate (unit : Nat) : Bool :=
  0xDC00 ≤ unit && unit ≤ 0xDFFF

def isHighSurrogate (unit : Nat) : Bool :=
  0xD800 ≤ unit && unit ≤ 0xDBFF

/-- The escape of the low surrogate that must follow a high one. -/
def lowSurrogate (text : List Char) : Read Nat :=
  match text with
  | [] => .error (behind .endInString [])
  | '\\' :: [] => .error (behind .endInString [])
  | '\\' :: 'u' :: rest =>
    match hexEscape rest with
    | .error fault => .error fault
    | .ok (unit, rest) =>
      if isLowSurrogate unit then .ok (unit, rest) else .error (behind .loneSurrogate rest)
  | '\\' :: rest => .error (beforeNext .unfinishedSurrogate rest)
  | rest => .error (beforeNext .unfinishedSurrogate rest)

def escape (text : List Char) : Read Char :=
  match text with
  | [] => .error (behind .endInString [])
  | 'u' :: rest =>
    match hexEscape rest with
    | .error fault => .error fault
    | .ok (unit, rest) =>
      if isLowSurrogate unit then .error (behind .loneSurrogate rest)
      else if isHighSurrogate unit then
        match lowSurrogate rest with
        | .error fault => .error fault
        | .ok (low, rest) =>
          .ok (Char.ofNat (0x10000 + (unit - 0xD800) * 0x400 + (low - 0xDC00)), rest)
      else .ok (Char.ofNat unit, rest)
  | c :: rest =>
    match shortEscape? c with
    | some read => .ok (read, rest)
    | none => .error (beforeNext .invalidEscape (c :: rest))

theorem length_hexEscape_lt {text rest : List Char} {unit : Nat}
    (h : hexEscape text = .ok (unit, rest)) : rest.length < text.length := by
  unfold hexEscape at h
  split at h
  · contradiction
  · split at h
    · split at h
      · simp only [Except.ok.injEq, Prod.mk.injEq] at h
        obtain ⟨-, rfl⟩ := h
        simp only [List.length_cons]
        omega
      · contradiction
    · contradiction

theorem length_lowSurrogate_lt {text rest : List Char} {unit : Nat}
    (h : lowSurrogate text = .ok (unit, rest)) : rest.length < text.length := by
  unfold lowSurrogate at h
  split at h <;> try contradiction
  split at h
  · contradiction
  next hx =>
    split at h
    · simp only [Except.ok.injEq, Prod.mk.injEq] at h
      obtain ⟨-, rfl⟩ := h
      have := length_hexEscape_lt hx
      simp only [List.length_cons]
      omega
    · contradiction

theorem length_escape_lt {text rest : List Char} {c : Char} (h : escape text = .ok (c, rest)) :
    rest.length < text.length := by
  unfold escape at h
  split at h
  · contradiction
  · split at h
    · contradiction
    next hx =>
      have := length_hexEscape_lt hx
      split at h
      · contradiction
      · split at h
        · split at h
          · contradiction
          next hl =>
            simp only [Except.ok.injEq, Prod.mk.injEq] at h
            obtain ⟨-, rfl⟩ := h
            have := length_lowSurrogate_lt hl
            simp only [List.length_cons]
            omega
        · simp only [Except.ok.injEq, Prod.mk.injEq] at h
          obtain ⟨-, rfl⟩ := h
          simp only [List.length_cons]
          omega
  · split at h
    · simp only [Except.ok.injEq, Prod.mk.injEq] at h
      obtain ⟨-, rfl⟩ := h
      simp
    · contradiction

def string (text : List Char) : Read (List Char) :=
  match text with
  | [] => .error (behind .endInString [])
  | c :: rest =>
    if c = '"' then .ok ([], rest)
    else if c = '\\' then
      match _h : escape rest with
      | .error fault => .error fault
      | .ok (read, rest) => (string rest).map fun (more, rest) => (read :: more, rest)
    else if c.toNat < 0x20 then .error (beforeNext .controlCharacter (c :: rest))
    else (string rest).map fun (more, rest) => (c :: more, rest)
termination_by text.length
decreasing_by
  · have := length_escape_lt _h
    simp only [List.length_cons]
    omega
  · simp

theorem length_string_lt {text rest content : List Char} (h : string text = .ok (content, rest)) :
    rest.length < text.length := by
  fun_induction string text generalizing content with
  | case1 | case3 | case5 => contradiction
  | case2 => simp_all
  | case4 _ _ _ hx _ ih =>
    obtain ⟨_, read, same⟩ := exists_of_map_eq_ok h
    simp only [Prod.mk.injEq] at same
    obtain ⟨-, rfl⟩ := same
    have := ih read
    have := length_escape_lt hx
    simp only [List.length_cons]
    omega
  | case6 _ _ _ _ _ ih =>
    obtain ⟨_, read, same⟩ := exists_of_map_eq_ok h
    simp only [Prod.mk.injEq] at same
    obtain ⟨-, rfl⟩ := same
    have := ih read
    simp only [List.length_cons]
    omega

end Schematron.Json
