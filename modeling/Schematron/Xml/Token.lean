import Schematron.Encoding.Utf8
import Schematron.Text.Blank
import Schematron.Text.Split
import Schematron.Xml.Scan

/-!
The lexer is lenient: it looks for the ends of constructs and matches end tags with start tags, and
leaves names, characters and attributes to be checked on the tokens.
-/
namespace Schematron.Xml

inductive Token
  | text (raw : List Char)
  | cdata (content : List Char)
  | comment (content : List Char)
  | instruction (content : List Char)
  | declaration (content : List Char)
  | doctype (content : List Char)
  /-- What stands between the angle brackets of a start tag. -/
  | startTag (content : List Char)
  /-- What stands between the angle brackets of an empty-element tag, without its final slash. -/
  | emptyTag (content : List Char)
  | endTag (name : List Char)
  deriving DecidableEq, Repr

inductive MarkupFault
  | unknownMarkup
  | unclosedInstruction
  | unclosedComment
  | unclosedDoctype
  | unclosedCdata
  | unclosedTag
  | unopenedEnd (name : List Char)
  | mismatchedEnd (expected found : List Char)
  | namelessDoctype
  deriving DecidableEq, Repr

def MarkupFault.message : MarkupFault → String
  | .unknownMarkup => "syntax error: unknown or missed symbol in markup"
  | .unclosedInstruction =>
    "syntax error: processing instruction or xml declaration not closed: `?>` not found before " ++
      "end of input"
  | .unclosedComment => "syntax error: comment not closed: `-->` not found before end of input"
  | .unclosedDoctype => "syntax error: DOCTYPE not closed: `>` not found before end of input"
  | .unclosedCdata => "syntax error: CDATA not closed: `]]>` not found before end of input"
  | .unclosedTag => "syntax error: tag not closed: `>` not found before end of input"
  | .unopenedEnd name =>
    "ill-formed document: close tag `</" ++ String.ofList name ++ ">` does not match any open tag"
  | .mismatchedEnd expected found =>
    "ill-formed document: expected `</" ++ String.ofList expected ++ ">`, but `</" ++
      String.ofList found ++ ">` was found"
  | .namelessDoctype =>
    "ill-formed document: `<!DOCTYPE>` declaration does not contain a name of a document type"

def tagName (content : List Char) : List Char :=
  content.takeWhile (!Text.isXmlBlank ·)

/-- The name of an end tag: its content without trailing blanks, unless there is nothing else. -/
def endTagName (content : List Char) : List Char :=
  let name := (content.reverse.dropWhile Text.isXmlBlank).reverse
  if name.isEmpty then content else name

def Token.ofTag (content : List Char) : Token :=
  if content.getLast? = some '/' then .emptyTag content.dropLast else .startTag content

/-- A processing instruction, or the XML declaration where the target is `xml`. `body` follows the
opening question mark and still holds the closing one. -/
def Token.ofInstruction (body : List Char) : Except MarkupFault Token :=
  if body.isEmpty then .error .unclosedInstruction
  else
    let content := body.dropLast
    match Text.dropStart? ['x', 'm', 'l'] content with
    | some [] => .ok (.declaration content)
    | some (c :: _) =>
      .ok (if Text.isXmlBlank c then .declaration content else .instruction content)
    | none => .ok (.instruction content)

def Token.ofComment (body : List Char) : Except MarkupFault Token :=
  match Text.dropStart? ['-', '-'] body with
  | some content => .ok (.comment content.dropLast.dropLast)
  | none => .error .unclosedComment

def Token.ofCdata (body : List Char) : Except MarkupFault Token :=
  match Text.dropStart? ['[', 'C', 'D', 'A', 'T', 'A', '['] body with
  | some content => .ok (.cdata content.dropLast.dropLast)
  | none => .error .unclosedCdata

/-- A document type declaration, its keyword in any case, from what stands between its
exclamation mark and its last angle bracket. -/
def Token.ofDoctype (body : List Char) : Except MarkupFault Token :=
  if (body.take 7).map Char.toUpper = ['D', 'O', 'C', 'T', 'Y', 'P', 'E'] then
    match (body.drop 7).dropWhile Text.isXmlBlank with
    | [] => .error .namelessDoctype
    | content => .ok (.doctype content)
  else .error .unclosedDoctype

inductive Opening
  | cdata
  | comment
  | doctype
  | instruction
  | endTag
  | tag
  deriving DecidableEq, Repr

/-- The kind of markup that the text after `<` opens, and the text its scan starts with. -/
def Opening.ofText : List Char → Except MarkupFault (Opening × List Char)
  | [] => .error .unclosedTag
  | '!' :: '[' :: rest => .ok (.cdata, '[' :: rest)
  | '!' :: '-' :: rest => .ok (.comment, '-' :: rest)
  | '!' :: 'D' :: rest => .ok (.doctype, 'D' :: rest)
  | '!' :: 'd' :: rest => .ok (.doctype, 'd' :: rest)
  | '!' :: _ => .error .unknownMarkup
  | '?' :: rest => .ok (.instruction, rest)
  | '/' :: rest => .ok (.endTag, rest)
  | rest => .ok (.tag, rest)

namespace Opening

def scan : Opening → List Char → Option (List Char × List Char)
  | .cdata, text => cdataAutomaton.scan 0 text
  | .comment, text => commentAutomaton.scan ⟨0, 0⟩ text
  | .doctype, text => doctypeAutomaton.scan 0 text
  | .instruction, text => instructionAutomaton.scan true text
  | .endTag, text => tagAutomaton.scan none text
  | .tag, text => tagAutomaton.scan none text

def build : Opening → List Char → Except MarkupFault Token
  | .cdata, body => Token.ofCdata body
  | .comment, body => Token.ofComment body
  | .doctype, body => Token.ofDoctype body
  | .instruction, body => Token.ofInstruction body
  | .endTag, body => .ok (.endTag (endTagName body))
  | .tag, body => .ok (.ofTag body)

def unclosed : Opening → MarkupFault
  | .cdata => .unclosedCdata
  | .comment => .unclosedComment
  | .doctype => .unclosedDoctype
  | .instruction => .unclosedInstruction
  | .endTag => .unclosedTag
  | .tag => .unclosedTag

theorem length_scan_lt {opening : Opening} {text body after : List Char}
    (h : opening.scan text = some (body, after)) : after.length < text.length := by
  cases opening <;> exact Automaton.length_scan_lt h

theorem length_ofText_le {opening : Opening} {rest text : List Char}
    (h : ofText rest = .ok (opening, text)) : text.length ≤ rest.length := by
  unfold ofText at h
  split at h <;> cases h <;> simp

end Opening

/-- The state of reading: the bytes read so far, the names of the open tags, the innermost first,
and what is left. -/
structure Lexer where
  position : Nat
  openNames : List (List Char)
  rest : List Char
  deriving DecidableEq, Repr

inductive Lexer.Step
  | finished
  | token (token : Token) (next : Lexer)
  /-- The position is where reading stopped. -/
  | failed (fault : MarkupFault) (position : Nat)
  deriving DecidableEq, Repr

namespace Lexer

/-- A token enters or leaves the open tags; an end tag has to name the innermost of them. -/
def openNamesAfter (openNames : List (List Char)) :
    Token → Except MarkupFault (List (List Char))
  | .startTag content => .ok (tagName content :: openNames)
  | .endTag name =>
    match openNames with
    | [] => .error (.unopenedEnd name)
    | expected :: outer =>
      if name = expected then .ok outer else .error (.mismatchedEnd expected name)
  | _ => .ok openNames

/-- Reads the markup after a `<`, which `position` has already counted. -/
def nextMarkup (position : Nat) (openNames : List (List Char)) (rest : List Char) : Step :=
  match Opening.ofText rest with
  | .error fault => .failed fault position
  | .ok (opening, text) =>
    match opening.scan text with
    | none => .failed opening.unclosed (position + Utf8.size rest)
    | some (body, after) =>
      let stop := position + (Utf8.size rest - Utf8.size after)
      match opening.build body with
      | .error fault => .failed fault stop
      | .ok token =>
        match openNamesAfter openNames token with
        | .error fault => .failed fault stop
        | .ok openNames => .token token ⟨stop, openNames, after⟩

/-- Reads the next token: text up to the next `<`, or the markup that a `<` opens. -/
def next (lexer : Lexer) : Step :=
  match lexer.rest with
  | [] => .finished
  | c :: rest =>
    if c = '<' then nextMarkup (lexer.position + 1) lexer.openNames rest
    else
      let raw := c :: rest.takeWhile (· != '<')
      .token (.text raw)
        ⟨lexer.position + Utf8.size raw, lexer.openNames, rest.dropWhile (· != '<')⟩

theorem length_next_lt {lexer after : Lexer} {token : Token}
    (h : lexer.next = .token token after) : after.rest.length < lexer.rest.length := by
  unfold next at h
  split at h
  · contradiction
  next c rest hr =>
    rw [hr]
    split at h
    · unfold nextMarkup at h
      split at h
      · contradiction
      next ho =>
        split at h
        · contradiction
        next hs =>
          dsimp only at h
          split at h
          · contradiction
          · split at h
            · contradiction
            · simp only [Step.token.injEq] at h
              obtain ⟨-, rfl⟩ := h
              have := Opening.length_scan_lt hs
              have := Opening.length_ofText_le ho
              simp only [List.length_cons]
              omega
    · simp only [Step.token.injEq] at h
      obtain ⟨-, rfl⟩ := h
      have := (List.dropWhile_sublist (l := rest) (· != '<')).length_le
      simpa using Nat.lt_succ_of_le this

end Lexer

structure Located where
  offset : Nat
  token : Token
  deriving DecidableEq, Repr

inductive Ending
  | finished (offset : Nat)
  | failed (fault : MarkupFault) (offset : Nat)
  deriving DecidableEq, Repr

structure Lexed where
  tokens : List Located
  ending : Ending
  deriving DecidableEq, Repr

def Lexer.run (lexer : Lexer) : Lexed :=
  match _h : lexer.next with
  | .finished => ⟨[], .finished lexer.position⟩
  | .failed fault offset => ⟨[], .failed fault offset⟩
  | .token token next =>
    let following := next.run
    ⟨⟨lexer.position, token⟩ :: following.tokens, following.ending⟩
termination_by lexer.rest.length
decreasing_by exact Lexer.length_next_lt _h

/-- The lexer before a text. A byte order mark at its start is skipped and not counted. -/
def Lexer.start (text : List Char) : Lexer :=
  match text with
  | '\ufeff' :: rest => ⟨0, [], rest⟩
  | rest => ⟨0, [], rest⟩

def lex (text : List Char) : Lexed :=
  (Lexer.start text).run

end Schematron.Xml
