import Schematron.Encoding.Utf8
import Schematron.Json.ShortestDecimal
import Schematron.Text.Quoted

/-!
Faults of JSON text. A reader reports where it stood: the text it had not consumed and how many
bytes it looked at beyond. From that and the whole text come the line and the column.
-/
namespace Schematron.Json

inductive Found
  | null
  | boolean (value : Bool)
  | integer (value : Int)
  | float (bits : UInt64)
  | string (text : List Char)
  | sequence
  | map
  deriving DecidableEq, Repr

def Found.describe : Found → String
  | .null => "null"
  | .boolean value => if value then "boolean `true`" else "boolean `false`"
  | .integer value => "integer `" ++ toString value ++ "`"
  | .float bits => "floating point `" ++ floatSpelling bits ++ "`"
  | .string text => "string " ++ Text.quoted text
  | .sequence => "sequence"
  | .map => "map"

inductive Problem
  | endInList
  | endInObject
  | endInString
  | endInValue
  | expectedColon
  | expectedListEnd
  | expectedObjectEnd
  | expectedValue
  | expectedLiteral
  | keyNotString
  | trailingComma
  | trailingCharacters
  | invalidNumber
  | numberOutOfRange
  | invalidEscape
  | loneSurrogate
  | unfinishedSurrogate
  | controlCharacter
  | invalidType (found : Found) (expected : String)
  | duplicateField (name : String)
  | unknownVariant (found : List Char) (known : List String)
  deriving DecidableEq, Repr

inductive Category
  | unfinished
  | malformed
  | mistyped
  deriving DecidableEq, Repr

namespace Problem

def category : Problem → Category
  | .endInList | .endInObject | .endInString | .endInValue => .unfinished
  | .invalidType .. | .duplicateField _ | .unknownVariant .. => .mistyped
  | _ => .malformed

def namesText (names : List String) : String :=
  ", ".intercalate (names.map fun name => "`" ++ name ++ "`")

def message : Problem → String
  | .endInList => "EOF while parsing a list"
  | .endInObject => "EOF while parsing an object"
  | .endInString => "EOF while parsing a string"
  | .endInValue => "EOF while parsing a value"
  | .expectedColon => "expected `:`"
  | .expectedListEnd => "expected `,` or `]`"
  | .expectedObjectEnd => "expected `,` or `\x7d`"
  | .expectedValue => "expected value"
  | .expectedLiteral => "expected ident"
  | .keyNotString => "key must be a string"
  | .trailingComma => "trailing comma"
  | .trailingCharacters => "trailing characters"
  | .invalidNumber => "invalid number"
  | .numberOutOfRange => "number out of range"
  | .invalidEscape => "invalid escape"
  | .loneSurrogate => "lone leading surrogate in hex escape"
  | .unfinishedSurrogate => "unexpected end of hex escape"
  | .controlCharacter => "control character (\\u0000-\\u001F) found while parsing a string"
  | .invalidType found expected => "invalid type: " ++ found.describe ++ ", expected " ++ expected
  | .duplicateField name => "duplicate field `" ++ name ++ "`"
  | .unknownVariant found known =>
    "unknown variant `" ++ String.ofList found ++ "`, expected one of " ++ namesText known

end Problem

/-- A problem, the text not consumed when it was found, and the bytes looked at beyond. -/
structure Fault where
  problem : Problem
  rest : List Char
  ahead : Nat
  deriving DecidableEq, Repr

def behind (problem : Problem) (rest : List Char) : Fault :=
  ⟨problem, rest, 0⟩

def beforeNext (problem : Problem) (rest : List Char) : Fault :=
  ⟨problem, rest, 1⟩

def lineColumn (bytes : List UInt8) : Nat × Nat :=
  (1 + bytes.count 0x0A, (bytes.reverse.takeWhile (· != 0x0A)).length)

namespace Fault

def offset (fault : Fault) (text : List Char) : Nat :=
  min (Utf8.size text) (Utf8.size text - Utf8.size fault.rest + fault.ahead)

def message (fault : Fault) (text : List Char) : String :=
  let (line, column) := lineColumn ((Utf8.encode text).take (fault.offset text))
  fault.problem.message ++ s!" at line {line} column {column}"

end Fault
end Schematron.Json
