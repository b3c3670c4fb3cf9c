import Schematron.Proofs.Encoding.Utf16
import Schematron.Xml.Document

/-!
Documents that say by their first bytes that they are Unicode. A byte order mark settles the
encoding before the declaration is looked at, and `<?` in UTF-16 does so without one.
-/
namespace Schematron

inductive UnicodeForm
  | utf8
  | utf16 (order : ByteOrder)
  deriving DecidableEq, Repr

namespace UnicodeForm

def mark : UnicodeForm → List UInt8
  | .utf8 => [0xEF, 0xBB, 0xBF]
  | .utf16 .little => [0xFF, 0xFE]
  | .utf16 .big => [0xFE, 0xFF]

def encode : UnicodeForm → List Char → List UInt8
  | .utf8, text => Utf8.encode text
  | .utf16 order, text => Utf16.encode order text

def encoding : UnicodeForm → Encoding
  | .utf8 => .utf8
  | .utf16 order => .utf16 order

theorem decode_eq_some_iff {form : UnicodeForm} {body : List UInt8} {text : List Char} :
    form.encoding.decode body = some text ↔ body = form.encode text := by
  cases form with
  | utf8 => exact Utf8.decode_eq_some_iff
  | utf16 order => exact Utf16.decode_eq_some_iff

end UnicodeForm

namespace Encoding

theorem detect_mark_append (form : UnicodeForm) (body : List UInt8) :
    detect (form.mark ++ body) = .ok (form.encoding, body) := by
  cases form with
  | utf8 => rfl
  | utf16 order => cases order <;> rfl

theorem detect_encode_declaration (order : ByteOrder) (rest : List Char) :
    detect (Utf16.encode order ('<' :: '?' :: rest)) =
      .ok (.utf16 order, Utf16.encode order ('<' :: '?' :: rest)) := by
  cases order <;> rfl

theorem decodeDocument_mark_append_eq_ok_iff {form : UnicodeForm} {body : List UInt8}
    {text : List Char} :
    decodeDocument (form.mark ++ body) = .ok text ↔ body = form.encode text := by
  rw [← UnicodeForm.decode_eq_some_iff, decodeDocument, detect_mark_append]
  dsimp only
  cases form.encoding.decode body <;> simp

theorem decodeDocument_mark_append_eq_error {form : UnicodeForm} {body : List UInt8}
    (other : ∀ text, body ≠ form.encode text) :
    decodeDocument (form.mark ++ body) = .error (.malformed form.encoding) := by
  have refused : form.encoding.decode body = none := by
    rw [Option.eq_none_iff_forall_ne_some]
    intro text read
    exact other text (UnicodeForm.decode_eq_some_iff.1 read)
  rw [decodeDocument, detect_mark_append]
  simp only [refused]

theorem decodeDocument_encode_declaration (order : ByteOrder) (rest : List Char) :
    decodeDocument (Utf16.encode order ('<' :: '?' :: rest)) = .ok ('<' :: '?' :: rest) := by
  rw [decodeDocument, detect_encode_declaration]
  simp only [decode, Utf16.decode_encode]

end Encoding

namespace Xml.Document

theorem parseBytes_of_decodeDocument {bytes : List UInt8} {text : String} {numbered : Bool}
    (decoded : Encoding.decodeDocument bytes = .ok text.toList) :
    parseBytes bytes numbered = parse text numbered := by
  rw [parseBytes, decoded]
  rfl

/-- The form a text is encoded in makes no difference to what is read, whatever encoding the text
itself declares; and a marked document that encodes no text is refused as a whole. -/
theorem parseBytes_independent_of_form :
    (∀ (form : UnicodeForm) (text : String) (numbered : Bool),
      parseBytes (form.mark ++ form.encode text.toList) numbered = parse text numbered) ∧
    (∀ (order : ByteOrder) (rest : String) (numbered : Bool),
      parseBytes (Utf16.encode order ("<?" ++ rest).toList) numbered =
        parse ("<?" ++ rest) numbered) ∧
    (∀ (form : UnicodeForm) (body : List UInt8),
      (∀ text, Encoding.decodeDocument (form.mark ++ body) = .ok text ↔ body = form.encode text) ∧
      ((∃ text, body = form.encode text) ∨
        Encoding.decodeDocument (form.mark ++ body) = .error (.malformed form.encoding) ∧
        ∀ numbered, parseBytes (form.mark ++ body) numbered =
          .error ⟨none, .encoding (.malformed form.encoding)⟩)) := by
  refine ⟨?marked, ?declared, ?converse⟩
  case marked =>
    intro form text numbered
    apply parseBytes_of_decodeDocument
    exact Encoding.decodeDocument_mark_append_eq_ok_iff.2 rfl
  case declared =>
    intro order rest numbered
    apply parseBytes_of_decodeDocument
    rw [String.toList_append]
    exact Encoding.decodeDocument_encode_declaration order rest.toList
  case converse =>
    intro form body
    refine ⟨fun text => Encoding.decodeDocument_mark_append_eq_ok_iff, ?_⟩
    by_cases encoded : ∃ text, body = form.encode text
    · exact .inl encoded
    · have refused := Encoding.decodeDocument_mark_append_eq_error (not_exists.1 encoded)
      refine .inr ⟨refused, fun numbered => ?_⟩
      rw [parseBytes, refused]

end Xml.Document
end Schematron
