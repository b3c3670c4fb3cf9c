import Schematron.Encoding.Utf8
import Schematron.Text.Digits
import Schematron.Text.Quoted

/-!
Character and entity references in text and attribute values. Writing escapes the five characters
that have a predefined entity; reading resolves those entities and numeric references.
-/
namespace Schematron.Xml

def escapeChar (c : Char) : List Char :=
  if c = '<' then ['&', 'l', 't', ';']
  else if c = '>' then ['&', 'g', 't', ';']
  else if c = '&' then ['&', 'a', 'm', 'p', ';']
  else if c = '\'' then ['&', 'a', 'p', 'o', 's', ';']
  else if c = '"' then ['&', 'q', 'u', 'o', 't', ';']
  else [c]

def escape (text : List Char) : List Char :=
  text.flatMap escapeChar

/-- Why a reference cannot be resolved. Positions count bytes from the start of the text. -/
inductive ReferenceFault
  | unterminated (start stop : Nat)
  | unknownEntity (start stop : Nat) (name : List Char)
  | signed
  | numeral (fault : Text.NumeralFault)
  | null
  | notACharacter (value : Nat)
  deriving DecidableEq, Repr

def ReferenceFault.message : ReferenceFault → String
  | .unterminated start stop =>
    s!"Error while escaping character at range {start}..{stop}: Cannot find ';' after '&'"
  | .unknownEntity start stop name =>
    s!"at {start}..{stop}: unrecognized entity `" ++ String.ofList name ++ "`"
  | .signed => "invalid character reference: unexpected number sign"
  | .numeral fault => "invalid character reference: " ++ fault.message
  | .null => "invalid character reference: 0x0 character is not permitted in XML"
  | .notACharacter value => s!"invalid character reference: `{value}` is not a valid codepoint"

def charOfPoint (value : Nat) : Except ReferenceFault Char :=
  if value = 0 then .error .null
  else if value.isValidChar then .ok (Char.ofNat value)
  else .error (.notACharacter value)

def readReferenceNumber (base : Nat) (digits : List Char) : Except ReferenceFault Nat :=
  if digits.head? = some '+' ∨ digits.head? = some '-' then .error .signed
  else (Text.readNumeral32 base digits).mapError .numeral

def predefinedEntity? (name : List Char) : Option Char :=
  if name = ['l', 't'] then some '<'
  else if name = ['g', 't'] then some '>'
  else if name = ['a', 'm', 'p'] then some '&'
  else if name = ['a', 'p', 'o', 's'] then some '\''
  else if name = ['q', 'u', 'o', 't'] then some '"'
  else none

def resolveReference (position : Nat) (name : List Char) : Except ReferenceFault Char :=
  match name with
  | '#' :: 'x' :: digits => readReferenceNumber 16 digits >>= charOfPoint
  | '#' :: digits => readReferenceNumber 10 digits >>= charOfPoint
  | _ =>
    match predefinedEntity? name with
    | some c => .ok c
    | none => .error (.unknownEntity position (position + Utf8.size name) name)

/-- A reference under way: the position of its ampersand and its name so far, last character
first. -/
structure OpenReference where
  start : Nat
  reversed : List Char

/-- Resolves the references of a text from a byte position on. `stop` is the length of the whole
text, where a reference that is never closed ends. -/
def unescapeFrom (stop : Nat) :
    Option OpenReference → Nat → List Char → Except ReferenceFault (List Char)
  | none, _, [] => .ok []
  | some reference, _, [] => .error (.unterminated reference.start stop)
  | none, position, c :: rest =>
    if c = '&' then unescapeFrom stop (some ⟨position, []⟩) (position + 1) rest
    else (unescapeFrom stop none (position + c.utf8Size) rest).map (c :: ·)
  | some reference, position, c :: rest =>
    if c = ';' then
      match resolveReference (reference.start + 1) reference.reversed.reverse with
      | .error fault => .error fault
      | .ok resolved => (unescapeFrom stop none (position + 1) rest).map (resolved :: ·)
    else if c = '&' then .error (.unterminated reference.start stop)
    else
      unescapeFrom stop (some ⟨reference.start, c :: reference.reversed⟩)
        (position + c.utf8Size) rest

def unescape (text : List Char) : Except ReferenceFault (List Char) :=
  unescapeFrom (Utf8.size text) none 0 text

theorem unescapeFrom_escapeChar (stop position : Nat) (c : Char) (rest : List Char) :
    ∃ next, unescapeFrom stop none position (escapeChar c ++ rest) =
      (unescapeFrom stop none next rest).map (c :: ·) := by
  unfold escapeChar
  repeat' split
  all_goals
    try subst_vars
    simp [unescapeFrom, resolveReference, predefinedEntity?, *]
    exact ⟨_, rfl⟩

theorem unescapeFrom_escape (stop position : Nat) (text : List Char) :
    unescapeFrom stop none position (escape text) = .ok text := by
  unfold escape
  induction text generalizing position with
  | nil => rfl
  | cons c rest ih =>
    obtain ⟨next, h⟩ :=
      unescapeFrom_escapeChar stop position c (rest.flatMap escapeChar)
    simp [h, ih, Except.map]

theorem unescape_escape (text : List Char) : unescape (escape text) = .ok text :=
  unescapeFrom_escape _ _ text

end Schematron.Xml
