import Schematron.Proofs.Encoding.Declared
import Schematron.Proofs.Encoding.Utf8

/-!
Plain text in any encoding. Every decoder but those of UTF-16 stands still on the bytes of plain
text: it writes the character of ASCII and keeps its state, so a run never leaves the first state.
-/
namespace Schematron

def IsPlain (b : UInt8) : Prop :=
  b = 0x09 ∨ b = 0x0A ∨ b = 0x0D ∨ 0x20 ≤ b ∧ b < 0x80

instance : DecidablePred IsPlain := fun _ =>
  inferInstanceAs (Decidable (_ ∨ _ ∨ _ ∨ _))

namespace IsPlain

variable {b : UInt8}

theorem lt (h : IsPlain b) : b < 0x80 := by
  obtain rfl | rfl | rfl | ⟨-, ascii⟩ := h
  · decide
  · decide
  · decide
  · exact ascii

theorem ne_control (h : IsPlain b) : b ∉ [0x00, 0x0E, 0x0F, 0x1B] := by
  obtain rfl | rfl | rfl | ⟨printed, -⟩ := h
  · decide
  · decide
  · decide
  · intro control
    simp only [List.mem_cons, List.not_mem_nil, or_false] at control
    obtain rfl | rfl | rfl | rfl := control <;> contradiction

theorem toNat_asciiChar (h : IsPlain b) : (Decoder.asciiChar b).toNat = b.toNat := by
  have small := UInt8.lt_iff_toNat_lt.1 h.lt
  have bound : b.toNat < 0x80 := small
  rw [Decoder.asciiChar, Char.ofNat, dif_pos (.inl (by omega))]
  rfl

end IsPlain

namespace Decoder

/-- The decoder stands still on the bytes of plain text: each is written as it is. -/
structure StandsStill (d : Decoder) : Prop where
  complete : d.complete d.initial = true
  step : ∀ b, IsPlain b → d.step d.initial b = some ([asciiChar b], d.initial)

theorem StandsStill.run_eq {d : Decoder} (still : d.StandsStill) {bytes : List UInt8}
    (plain : ∀ b ∈ bytes, IsPlain b) : d.run bytes = some (bytes.map asciiChar) :=
  d.run_eq_map still.complete asciiChar bytes fun b member => still.step b (plain b member)

theorem standsStill_bytewise {char? : UInt8 → Option Char}
    (ascii : ∀ b, b < 0x80 → char? b = some (asciiChar b)) : (bytewise char?).StandsStill where
  complete := rfl
  step b h := by simp [bytewise, ascii b h.lt]

theorem standsStill_pairwise {single? : UInt8 → Option Char} {leads : UInt8 → Bool}
    {pair? : UInt8 → UInt8 → Option (List Char)}
    (ascii : ∀ b, b < 0x80 → single? b = some (asciiChar b)) :
    (pairwise single? leads pair?).StandsStill where
  complete := rfl
  step b h := by simp [pairwise, ascii b h.lt]

theorem standsStill_singleByte (set : SingleByte) : set.decoder.StandsStill :=
  standsStill_bytewise fun b h => by simp [SingleByte.char?, h]

theorem standsStill_userDefined : userDefinedDecoder.StandsStill :=
  standsStill_bytewise fun b h => by simp [h]

theorem standsStill_gb18030 : Gb18030.decoder.StandsStill where
  complete := rfl
  step b h := by simp [Gb18030.decoder, Gb18030.step, h.lt]

theorem standsStill_big5 : Big5.decoder.StandsStill :=
  standsStill_pairwise fun b h => by simp [h]

theorem standsStill_eucKr : EucKr.decoder.StandsStill :=
  standsStill_pairwise fun b h => by simp [h]

theorem standsStill_shiftJis : ShiftJis.decoder.StandsStill :=
  standsStill_pairwise fun b h => by simp [ShiftJis.singleChar?, UInt8.le_of_lt h]

theorem standsStill_eucJp : EucJp.decoder.StandsStill where
  complete := rfl
  step b h := by simp [EucJp.decoder, EucJp.step, h.lt]

theorem standsStill_iso2022Jp : Iso2022Jp.decoder.StandsStill where
  complete := rfl
  step b h := by
    have control := h.ne_control
    simp only [List.mem_cons, List.not_mem_nil, or_false, not_or] at control
    obtain ⟨-, shift_out, shift_in, escape⟩ := control
    simp [Iso2022Jp.decoder, Iso2022Jp.step, Iso2022Jp.char?, h.lt, shift_out, shift_in, escape]

end Decoder

namespace Utf8

theorem encode_asciiChars {bytes : List UInt8} (plain : ∀ b ∈ bytes, IsPlain b) :
    encode (bytes.map Decoder.asciiChar) = bytes := by
  have code : ∀ b ∈ bytes, (Decoder.asciiChar b).toNat = b.toNat :=
    fun b member => (plain b member).toNat_asciiChar
  have ascii : Ascii (bytes.map Decoder.asciiChar) := by
    intro c member
    obtain ⟨b, found, rfl⟩ := List.mem_map.1 member
    rw [code b found]
    exact UInt8.lt_iff_toNat_lt.1 (plain b found).lt
  rw [encode_of_ascii ascii, List.map_map]
  calc bytes.map ((fun c => UInt8.ofNat c.toNat) ∘ Decoder.asciiChar)
      = bytes.map id := List.map_congr_left fun b found => by simp [code b found]
    _ = bytes := List.map_id bytes

end Utf8

namespace Encoding

def Declarable : Encoding → Prop
  | .utf16 _ | .replacement => False
  | _ => True

theorem decode_plain {encoding : Encoding} (declarable : encoding.Declarable) {bytes : List UInt8}
    (plain : ∀ b ∈ bytes, IsPlain b) :
    encoding.decode bytes = some (bytes.map Decoder.asciiChar) := by
  cases encoding with
  | utf8 => exact Utf8.decode_eq_some_iff.2 (Utf8.encode_asciiChars plain).symm
  | utf16 | replacement => exact declarable.elim
  | singleByte set => exact (Decoder.standsStill_singleByte set).run_eq plain
  | userDefined => exact Decoder.standsStill_userDefined.run_eq plain
  | gbk | gb18030 => exact Decoder.standsStill_gb18030.run_eq plain
  | big5 => exact Decoder.standsStill_big5.run_eq plain
  | eucJp => exact Decoder.standsStill_eucJp.run_eq plain
  | iso2022Jp => exact Decoder.standsStill_iso2022Jp.run_eq plain
  | shiftJis => exact Decoder.standsStill_shiftJis.run_eq plain
  | eucKr => exact Decoder.standsStill_eucKr.run_eq plain

theorem read_plain {encoding : Encoding} (declarable : encoding.Declarable) {bytes : List UInt8}
    (plain : ∀ b ∈ bytes, IsPlain b) : encoding.read bytes = .ok (bytes.map Decoder.asciiChar) := by
  rw [read, decode_plain declarable plain]

theorem ofDeclaredLabel_eq_ok_iff {label : List Char} {encoding : Encoding} :
    ofDeclaredLabel label = .ok encoding ↔
      ofLabel? label = some encoding ∧ encoding.Declarable := by
  unfold ofDeclaredLabel
  split
  next order found =>
    simp only [found, Option.some.injEq, reduceCtorEq, false_iff, not_and]
    rintro rfl
    exact id
  next found =>
    simp only [found, Option.some.injEq, reduceCtorEq, false_iff, not_and]
    rintro rfl
    exact id
  next other narrow known found =>
    have declarable : other.Declarable := by
      cases other with
      | utf16 order => exact absurd rfl (narrow order)
      | replacement => exact absurd rfl known
      | _ => trivial
    simp only [found, Option.some.injEq, Except.ok.injEq]
    exact ⟨fun same => ⟨same, same ▸ declarable⟩, And.left⟩
  next found => simp [found]

theorem ofDeclaredLabel_eq_error_iff {label : List Char} {fault : EncodingFault} :
    ofDeclaredLabel label = .error fault ↔
      (ofLabel? label = none ∨ ofLabel? label = some .replacement) ∧ fault = .unsupported label ∨
        (∃ order, ofLabel? label = some (.utf16 order)) ∧ fault = .notUtf16 label := by
  unfold ofDeclaredLabel
  cases ofLabel? label with
  | none => simp [eq_comm]
  | some encoding => cases encoding <;> simp [eq_comm]

theorem unmarked_of_plain {bytes : List UInt8} (plain : ∀ b ∈ bytes, IsPlain b) :
    ofMark? bytes = none ∧ ofPattern? bytes = none := by
  have ascii : ∀ b ∈ bytes, b < 0x80 := fun b member => (plain b member).lt
  have visible : (0x00 : UInt8) ∉ bytes := fun member =>
    (plain _ member).ne_control (by decide)
  constructor
  · unfold ofMark?
    split
    · exact absurd (ascii 0xEF (by simp)) (by decide)
    · exact absurd (ascii 0xFE (by simp)) (by decide)
    · exact absurd (ascii 0xFF (by simp)) (by decide)
    · rfl
  · unfold ofPattern?
    split
    · exact absurd (by simp) visible
    · exact absurd (by simp) visible
    · rfl

theorem eq_asciiChars_iff {bytes : List UInt8} (plain : ∀ b ∈ bytes, IsPlain b)
    {text : List Char} :
    bytes.map Decoder.asciiChar = text ↔ text.map Char.toNat = bytes.map UInt8.toNat := by
  have codes : (bytes.map Decoder.asciiChar).map Char.toNat = bytes.map UInt8.toNat := by
    rw [List.map_map]
    exact List.map_congr_left fun b found => (plain b found).toNat_asciiChar
  rw [← codes]
  constructor
  · rintro rfl
    rfl
  · intro same
    exact ((List.map_inj_right fun _ _ => Char.toNat_inj.1).1 same).symm

/-- A document of plain text is read as the characters with the codes of its bytes, in whatever
encoding it declares; it is refused only where the label that it declares is unknown, is one that is
never decoded, or names UTF-16. -/
theorem decodeDocument_plain {bytes : List UInt8} (plain : ∀ b ∈ bytes, IsPlain b) :
    (∀ text, decodeDocument bytes = .ok text ↔
      text.map Char.toNat = bytes.map UInt8.toNat ∧
        ∀ label, declaredLabel? bytes = some label →
          ∃ encoding, ofLabel? label = some encoding ∧ encoding.Declarable) ∧
    ∀ fault, decodeDocument bytes = .error fault ↔
      ∃ label, declaredLabel? bytes = some label ∧
        ((ofLabel? label = none ∨ ofLabel? label = some .replacement) ∧
            fault = .unsupported label ∨
          (∃ order, ofLabel? label = some (.utf16 order)) ∧ fault = .notUtf16 label) := by
  obtain ⟨unmarked, narrow⟩ := unmarked_of_plain plain
  simp only [decodeDocument_of_unmarked unmarked narrow, ← eq_asciiChars_iff plain,
    ← ofDeclaredLabel_eq_ok_iff, ← ofDeclaredLabel_eq_error_iff]
  cases declaredLabel? bytes with
  | none =>
    have declarable : Declarable .utf8 := trivial
    simp [read_plain declarable plain]
  | some label =>
    cases named : ofDeclaredLabel label with
    | error fault => simp [named, Except.bind]
    | ok encoding =>
      have read := read_plain (ofDeclaredLabel_eq_ok_iff.1 named).2 plain
      simp [named, read, Except.bind]

theorem decodeDocument_plain_escapes :
    let bytes := Utf8.encode "<?xml version='1.0' encoding='ISO-2022-JP'?>\r\n\t<a>~\\</a>".toList
    (∀ b ∈ bytes, IsPlain b) ∧ decodeDocument bytes =
      .ok "<?xml version='1.0' encoding='ISO-2022-JP'?>\r\n\t<a>~\\</a>".toList := by
  intro bytes
  have plain : ∀ b ∈ bytes, IsPlain b := by decide +kernel
  have label : declaredLabel? bytes = some "ISO-2022-JP".toList := by decide +kernel
  have named : ofLabel? "ISO-2022-JP".toList = some .iso2022Jp := by decide +kernel
  refine ⟨plain, ((decodeDocument_plain plain).1 _).2 ⟨by decide +kernel, ?_⟩⟩
  intro other found
  obtain rfl := Option.some.inj (label.symm.trans found)
  exact ⟨_, named, trivial⟩

end Encoding
end Schematron
