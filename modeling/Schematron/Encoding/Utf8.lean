/-!
A strict reader of UTF-8 and a forgiving one for text that is only shown. The forgiving reader puts
U+FFFD for every maximal part of an ill-formed sequence.
-/
namespace Schematron.Utf8

def encode (text : List Char) : List UInt8 :=
  text.flatMap String.utf8EncodeChar

def decode (bytes : List UInt8) : Option (List Char) :=
  (String.fromUTF8? bytes.toByteArray).map String.toList

def size : List Char → Nat
  | [] => 0
  | c :: rest => c.utf8Size + size rest

/-- A sequence that has been begun: the continuation bytes it still needs, the range of the next
one, and the code point bits read so far. -/
structure Sequence where
  needed : Nat
  low : UInt8
  high : UInt8
  bits : Nat

/-- What a byte outside any sequence starts: a character, a longer sequence, or U+FFFD. The range
of the second byte excludes overlong forms, surrogates and points past U+10FFFF. -/
def start (b : UInt8) : List Char × Option Sequence :=
  if b < 0x80 then ([Char.ofNat b.toNat], none)
  else if 0xC2 ≤ b ∧ b ≤ 0xDF then ([], some ⟨1, 0x80, 0xBF, b.toNat - 0xC0⟩)
  else if b = 0xE0 then ([], some ⟨2, 0xA0, 0xBF, 0⟩)
  else if b = 0xED then ([], some ⟨2, 0x80, 0x9F, 0xD⟩)
  else if 0xE1 ≤ b ∧ b ≤ 0xEF then ([], some ⟨2, 0x80, 0xBF, b.toNat - 0xE0⟩)
  else if b = 0xF0 then ([], some ⟨3, 0x90, 0xBF, 0⟩)
  else if 0xF1 ≤ b ∧ b ≤ 0xF3 then ([], some ⟨3, 0x80, 0xBF, b.toNat - 0xF0⟩)
  else if b = 0xF4 then ([], some ⟨3, 0x80, 0x8F, 4⟩)
  else (['\ufffd'], none)

/-- One byte of forgiving reading. A byte that cannot continue a sequence ends it as U+FFFD and
starts anew. -/
def feed : Option Sequence → UInt8 → List Char × Option Sequence
  | none, b => start b
  | some s, b =>
    if s.low ≤ b ∧ b ≤ s.high then
      let bits := s.bits * 64 + (b.toNat - 0x80)
      if s.needed ≤ 1 then ([Char.ofNat bits], none)
      else ([], some ⟨s.needed - 1, 0x80, 0xBF, bits⟩)
    else
      let (written, next) := start b
      ('\ufffd' :: written, next)

def lossyFrom : Option Sequence → List UInt8 → List Char
  | none, [] => []
  | some _, [] => ['\ufffd']
  | state, b :: rest =>
    let (written, next) := feed state b
    written ++ lossyFrom next rest

/-- The text of the bytes with U+FFFD for what is ill-formed. -/
def lossy (bytes : List UInt8) : List Char :=
  lossyFrom none bytes

theorem decode_eq_some_iff {bytes : List UInt8} {text : List Char} :
    decode bytes = some text ↔ bytes = encode text := by
  unfold decode encode String.fromUTF8?
  constructor
  · intro h
    split at h
    next valid =>
      simp only [Option.map_some, Option.some.injEq] at h
      subst h
      have same := String.utf8Encode_toList (b := String.fromUTF8 bytes.toByteArray valid)
      exact (List.toByteArray_inj.1 same).symm
    next => simp at h
  · rintro rfl
    have valid : (text.flatMap String.utf8EncodeChar).toByteArray.IsValidUTF8 := .intro text rfl
    rw [dif_pos valid]
    have same : String.fromUTF8 _ valid = String.ofList text := by
      rw [← String.toByteArray_inj, String.toByteArray_ofList]; rfl
    simp [same]

@[simp] theorem decode_encode (text : List Char) : decode (encode text) = some text :=
  decode_eq_some_iff.2 rfl

@[simp] theorem length_encode (text : List Char) : (encode text).length = size text := by
  induction text with
  | nil => rfl
  | cons c rest ih => simpa [encode, size] using ih

theorem size_append (first second : List Char) :
    size (first ++ second) = size first + size second := by
  induction first with
  | nil => simp [size]
  | cons c rest ih => simp [size, ih, Nat.add_assoc]

end Schematron.Utf8
