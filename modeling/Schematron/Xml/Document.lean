import Schematron.Xml.Builder
import Schematron.Xml.Line
import Schematron.Xml.Print

/-!
Documents: a root element and the system id it was loaded from. Reading lexes the text, gives every
token its line and builds the tree; a fault of the lexer counts after the faults of the tokens
before it.
-/
namespace Schematron.Xml

structure Document where
  /-- The system id the document was loaded from; references in it are relative to it. -/
  baseUri : Option String
  root : Element
  deriving DecidableEq

def numberTokens : LineCounter → List Located → List (Nat × Token) × LineCounter
  | counter, [] => ([], counter)
  | counter, located :: rest =>
    let (line, counter) := counter.lineAt located.offset
    let (numbered, counter) := numberTokens counter rest
    ((line, located.token) :: numbered, counter)

namespace Document

def ofRoot (root : Element) : Document :=
  ⟨none, root⟩

def withBase (document : Document) (baseUri : String) : Document :=
  { document with baseUri := some baseUri }

def toXml (document : Document) : String :=
  document.root.toXml

def findFirst? (document : Document) (localName : String) : Option Element :=
  document.root.findFirst? localName

def rootOfLexed (numbered : Bool) (bytes : List UInt8) (lexed : Lexed) :
    Except ParseError Element := do
  let (tokens, counter) := numberTokens (LineCounter.start bytes) lexed.tokens
  let builder ← tokens.foldlM (Builder.step numbered) Builder.empty
  match lexed.ending with
  | .failed fault offset => throw ⟨some (counter.lineAt offset).1, .markup fault⟩
  | .finished _ =>
    builder.finish.mapError fun cause => ⟨some (counter.lineAt bytes.length).1, cause⟩

def dropMark (text : List Char) : List Char :=
  match text with
  | '\ufeff' :: rest => rest
  | rest => rest

/-- Reads a complete document; `numbered` tells whether elements keep their lines. -/
def ofText (text : List Char) (numbered : Bool) : Except ParseError Document :=
  let text := dropMark text
  (rootOfLexed numbered (Utf8.encode text) (lex text)).map ofRoot

def parse (text : String) (numbered : Bool) : Except ParseError Document :=
  ofText text.toList numbered

def parseBytes (bytes : List UInt8) (numbered : Bool) : Except ParseError Document :=
  match Encoding.decodeDocument bytes with
  | .ok text => ofText text numbered
  | .error fault => .error ⟨none, .encoding fault⟩

end Document
end Schematron.Xml
