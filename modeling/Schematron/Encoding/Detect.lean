import Schematron.Encoding.Label
import Schematron.Text.Split

/-!
The encoding of a document that arrives as bytes. A byte order mark decides first, then the
pattern of `<?` in UTF-16, then the encoding that the XML declaration names; without any of them
the document is UTF-8.
-/
namespace Schematron

inductive EncodingFault
  /-- The declaration names UTF-16, but bytes of UTF-16 would have been seen as such. -/
  | notUtf16 (label : List Char)
  | unsupported (label : List Char)
  | malformed (encoding : Encoding)
  deriving DecidableEq, Repr

def EncodingFault.message : EncodingFault → String
  | .notUtf16 label =>
    "encoding " ++ String.ofList label ++ " declared but the input is not UTF-16"
  | .unsupported label => "unsupported encoding " ++ String.ofList label
  | .malformed encoding => "input is not valid " ++ encoding.name

namespace Encoding

def declarationLimit : Nat := 1024

def declarationStart : List UInt8 := [0x3C, 0x3F, 0x78, 0x6D, 0x6C]

def declarationEnd : List UInt8 := [0x3F, 0x3E]

/-- The quoted value after the first `encoding` of a declaration and an equals sign. -/
def declaredValue? (declaration : List Char) : Option (List Char) :=
  match Text.cutAt? "encoding".toList declaration with
  | none => none
  | some (_, rest) =>
    match Text.trimStart rest with
    | '=' :: rest =>
      match Text.trimStart rest with
      | quote :: value =>
        if quote = '"' ∨ quote = '\'' then (Text.cutAt? [quote] value).map (·.1) else none
      | [] => none
    | _ => none

def declaredLabel? (bytes : List UInt8) : Option (List Char) :=
  match Text.dropStart? declarationStart (bytes.take declarationLimit) with
  | none => none
  | some rest =>
    match Text.cutAt? declarationEnd rest with
    | none => none
    | some (declaration, _) => declaredValue? (Utf8.lossy declaration)

def ofDeclaredLabel (label : List Char) : Except EncodingFault Encoding :=
  match ofLabel? label with
  | some (.utf16 _) => .error (.notUtf16 label)
  | some .replacement => .error (.unsupported label)
  | some encoding => .ok encoding
  | none => .error (.unsupported label)

def ofMark? : List UInt8 → Option (Encoding × List UInt8)
  | 0xEF :: 0xBB :: 0xBF :: body => some (.utf8, body)
  | 0xFE :: 0xFF :: body => some (.utf16 .big, body)
  | 0xFF :: 0xFE :: body => some (.utf16 .little, body)
  | _ => none

def ofPattern? : List UInt8 → Option ByteOrder
  | 0x3C :: 0x00 :: 0x3F :: 0x00 :: _ => some .little
  | 0x00 :: 0x3C :: 0x00 :: 0x3F :: _ => some .big
  | _ => none

/-- The encoding of a document and the bytes that it applies to. -/
def detect (bytes : List UInt8) : Except EncodingFault (Encoding × List UInt8) :=
  match ofMark? bytes with
  | some found => .ok found
  | none =>
    match ofPattern? bytes with
    | some order => .ok (.utf16 order, bytes)
    | none =>
      match declaredLabel? bytes with
      | none => .ok (.utf8, bytes)
      | some label => (ofDeclaredLabel label).map (·, bytes)

/-- The text of a document, without its byte order mark. -/
def decodeDocument (bytes : List UInt8) : Except EncodingFault (List Char) :=
  match detect bytes with
  | .error fault => .error fault
  | .ok (encoding, body) =>
    match encoding.decode body with
    | some text => .ok text
    | none => .error (.malformed encoding)

end Encoding
end Schematron
