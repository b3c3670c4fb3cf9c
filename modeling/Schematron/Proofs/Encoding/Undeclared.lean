import Schematron.Proofs.Encoding.Declared
import Schematron.Proofs.Outcome

/-!
The search for a label asks for `<?xml` and not for the white space after it, so an instruction
whose target is longer than `xml` is searched too. A document without a declaration may therefore be
read in another encoding than UTF-8.
-/
namespace Schematron.Encoding

def blankBytes : List UInt8 := [0x20, 0x09, 0x0D, 0x0A]

/-- The input begins with a declaration: white space follows `<?xml`. -/
def BeginsDeclaration (bytes : List UInt8) : Prop :=
  ∃ blank ∈ blankBytes, declarationStart ++ [blank] <+: bytes

/-- The input begins with an instruction whose target goes on after `xml`, and what follows names a
label as a declaration would. -/
def Mimics (bytes : List UInt8) (label : List Char) : Prop :=
  ∃ content, Encloses bytes content ∧ (∀ first ∈ content.head?, first ∉ blankBytes) ∧
    Names (Utf8.lossy content) label

/-- The outcome is the one of UTF-8: the encoded text where there is one, and else the fault. -/
structure IsUtf8Reading (bytes : List UInt8) (outcome : Except EncodingFault (List Char)) :
    Prop where
  text : ∀ text, outcome = .ok text ↔ bytes = Utf8.encode text
  fault : ∀ fault, outcome = .error fault → fault.message = "input is not valid UTF-8"

theorem message_malformed (encoding : Encoding) :
    (EncodingFault.malformed encoding).message = "input is not valid " ++ encoding.name := rfl

theorem message_unsupported (label : List Char) :
    (EncodingFault.unsupported label).message =
      "unsupported encoding " ++ String.ofList label := rfl

theorem message_notUtf16 (label : List Char) :
    (EncodingFault.notUtf16 label).message =
      "encoding " ++ String.ofList label ++ " declared but the input is not UTF-16" := rfl

theorem eq_utf8_of_name {encoding : Encoding} (h : encoding.name = "UTF-8") : encoding = .utf8 := by
  cases encoding with
  | utf8 => rfl
  | utf16 order => cases order <;> simp [name] at h
  | singleByte set => cases set <;> simp [name, SingleByte.name] at h
  | _ => simp [name] at h

theorem eq_utf8_of_message {encoding : Encoding}
    (h : (EncodingFault.malformed encoding).message = "input is not valid UTF-8") :
    encoding = .utf8 := by
  have whole : "input is not valid UTF-8" = "input is not valid " ++ "UTF-8" := by simp
  rw [message_malformed, whole, String.append_right_inj] at h
  exact eq_utf8_of_name h

theorem message_of_ofDeclaredLabel {label : List Char} {fault : EncodingFault}
    (refused : ofDeclaredLabel label = .error fault) :
    fault.message ≠ "input is not valid UTF-8" := by
  intro same
  have first : fault.message.toList.head? = "input is not valid UTF-8".toList.head? := by rw [same]
  unfold ofDeclaredLabel at refused
  split at refused <;> cases refused <;>
    simp [message_unsupported, message_notUtf16] at first

theorem isUtf8Reading_encode (text : List Char) : IsUtf8Reading (Utf8.encode text) (.ok text) where
  text other := by
    rw [← Utf8.decode_eq_some_iff, Utf8.decode_eq_some_iff.2 rfl, Except.ok.injEq,
      Option.some.injEq]
  fault := nofun

theorem isUtf8Reading_malformed {bytes : List UInt8} (h : ∀ text, bytes ≠ Utf8.encode text) :
    IsUtf8Reading bytes (.error (.malformed .utf8)) where
  text text := ⟨nofun, fun encoded => absurd encoded (h text)⟩
  fault := by
    rintro fault ⟨⟩
    rfl

theorem isUtf8Reading_read_iff {encoding : Encoding} {bytes : List UInt8} :
    IsUtf8Reading bytes (encoding.read bytes) ↔
      encoding = .utf8 ∨ ∃ text, encoding.decode bytes = some text ∧ bytes = Utf8.encode text := by
  unfold read
  constructor
  · intro h
    cases decoded : encoding.decode bytes with
    | none =>
      rw [decoded] at h
      exact .inl (eq_utf8_of_message (h.fault _ rfl))
    | some text =>
      rw [decoded] at h
      exact .inr ⟨text, rfl, (h.text text).1 rfl⟩
  · rintro (rfl | ⟨text, decoded, rfl⟩)
    · cases decoded : decode .utf8 bytes with
      | none =>
        refine isUtf8Reading_malformed fun text encoded => ?_
        rw [decode, Utf8.decode_eq_some_iff.2 encoded] at decoded
        contradiction
      | some text =>
        obtain rfl := Utf8.decode_eq_some_iff.1 decoded
        exact isUtf8Reading_encode text
    · rw [decoded]
      exact isUtf8Reading_encode text

theorem mimics_iff {bytes : List UInt8} (undeclared : ¬ BeginsDeclaration bytes)
    {label : List Char} : Mimics bytes label ↔ declaredLabel? bytes = some label := by
  rw [declaredLabel?_eq_some_iff]
  constructor
  · rintro ⟨content, encloses, -, names⟩
    exact ⟨content, encloses, names⟩
  · rintro ⟨content, encloses, names⟩
    refine ⟨content, encloses, fun first leads blank => undeclared ⟨first, blank, ?_⟩, names⟩
    obtain ⟨rest, split⟩ := encloses.starts
    obtain ⟨later, rfl⟩ := List.head?_eq_some_iff.1 leads
    exact ⟨later ++ declarationEnd ++ rest, by simpa using split⟩

/-- Without a mark and without a declaration the input is UTF-8, unless an instruction at its
beginning is taken for a declaration and names an encoding that makes a difference. -/
theorem decodeDocument_undeclared_iff {bytes : List UInt8} (unmarked : ofMark? bytes = none)
    (narrow : ofPattern? bytes = none) (undeclared : ¬ BeginsDeclaration bytes) :
    IsUtf8Reading bytes (decodeDocument bytes) ↔
      ∀ label, Mimics bytes label → ∃ encoding, ofDeclaredLabel label = .ok encoding ∧
        (encoding = .utf8 ∨
          ∃ text, encoding.decode bytes = some text ∧ bytes = Utf8.encode text) := by
  simp only [mimics_iff undeclared]
  rw [decodeDocument_of_unmarked unmarked narrow]
  cases found : declaredLabel? bytes with
  | none => simpa using isUtf8Reading_read_iff.2 (.inl rfl)
  | some label =>
    simp only [Option.some.injEq, forall_eq']
    cases named : ofDeclaredLabel label with
    | error fault =>
      have other : ¬ IsUtf8Reading bytes (.error fault) := fun reading =>
        message_of_ofDeclaredLabel named (reading.fault fault rfl)
      simpa [Except.bind] using other
    | ok encoding => simpa [Except.bind] using isUtf8Reading_read_iff

instance (bytes : List UInt8) : Decidable (BeginsDeclaration bytes) :=
  List.decidableBEx _ blankBytes

def plainInstruction : List UInt8 :=
  Utf8.encode "<?xml-stylesheet href='e'?><a>é</a>".toList

theorem decodeDocument_plainInstruction :
    ofMark? plainInstruction = none ∧ ofPattern? plainInstruction = none ∧
      ¬ BeginsDeclaration plainInstruction ∧
      IsUtf8Reading plainInstruction (decodeDocument plainInstruction) := by
  have undeclared : ¬ BeginsDeclaration plainInstruction := by decide
  have unlabelled : declaredLabel? plainInstruction = none := by decide
  refine ⟨by decide, by decide, undeclared,
    (decodeDocument_undeclared_iff (by decide) (by decide) undeclared).2 fun label mimics => ?_⟩
  rw [mimics_iff undeclared, unlabelled] at mimics
  contradiction

def latinInstruction : List UInt8 :=
  Utf8.encode "<?xml-stylesheet encoding='latin1'?><a>".toList ++
    0xE9 :: Utf8.encode "</a>".toList

theorem decodeDocument_latinInstruction :
    ¬ ∀ bytes, ofMark? bytes = none → ofPattern? bytes = none → ¬ BeginsDeclaration bytes →
      IsUtf8Reading bytes (decodeDocument bytes) := by
  intro utf8
  have read : decodeDocument latinInstruction =
      .ok "<?xml-stylesheet encoding='latin1'?><a>é</a>".toList := by decide +kernel
  have reading := utf8 latinInstruction (by decide) (by decide) (by decide)
  exact absurd ((reading.text _).1 read) (by decide)

end Schematron.Encoding
