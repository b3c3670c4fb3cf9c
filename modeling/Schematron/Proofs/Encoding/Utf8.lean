import Schematron.Encoding.Utf8

/-!
ASCII in UTF-8. A character of ASCII is encoded as one byte, its code; the forgiving reader passes
such bytes through, so what is written in ASCII is shown as it stands.
-/
namespace Schematron.Utf8

def Ascii (text : List Char) : Prop :=
  ∀ c ∈ text, c.toNat < 0x80

theorem encode_append (first second : List Char) :
    encode (first ++ second) = encode first ++ encode second :=
  List.flatMap_append

theorem utf8EncodeChar_of_lt {c : Char} (h : c.toNat < 0x80) :
    String.utf8EncodeChar c = [UInt8.ofNat c.toNat] := by
  have small : c.val.toNat ≤ 0x7F := Nat.le_of_lt_succ h
  simp only [String.utf8EncodeChar, small, if_true]
  rfl

theorem encode_of_ascii {text : List Char} (h : Ascii text) :
    encode text = text.map fun c => UInt8.ofNat c.toNat := by
  induction text with
  | nil => rfl
  | cons c rest ih =>
    have first : c.toNat < 0x80 := h c (by simp)
    have later : Ascii rest := fun d member => h d (by simp [member])
    rw [encode, List.flatMap_cons, utf8EncodeChar_of_lt first, ← encode, ih later]
    rfl

theorem ofNat_toNat_inj {c d : Char} (ascii : c.toNat < 0x80) (ascii' : d.toNat < 0x80) :
    UInt8.ofNat c.toNat = UInt8.ofNat d.toNat ↔ c = d := by
  constructor
  · intro same
    have same := congrArg UInt8.toNat same
    simp only [UInt8.toNat_ofNat'] at same
    exact Char.toNat_inj.1 (by omega)
  · rintro rfl
    rfl

theorem not_mem_encode {c : Char} {text : List Char} (ascii : Ascii text) (h : c.toNat < 0x80)
    (absent : c ∉ text) : UInt8.ofNat c.toNat ∉ encode text := by
  rw [encode_of_ascii ascii]
  intro member
  obtain ⟨d, found, same⟩ := List.mem_map.1 member
  obtain rfl := (ofNat_toNat_inj (ascii d found) h).1 same
  exact absent found

theorem start_of_lt {c : Char} (h : c.toNat < 0x80) :
    start (UInt8.ofNat c.toNat) = ([c], none) := by
  have code : (UInt8.ofNat c.toNat).toNat = c.toNat := by
    rw [UInt8.toNat_ofNat', Nat.mod_eq_of_lt (by omega)]
  have small : UInt8.ofNat c.toNat < 0x80 := by
    rw [UInt8.lt_iff_toNat_lt, code]
    exact h
  rw [start, if_pos small, code, Char.ofNat_toNat]

theorem lossy_encode_of_ascii {text : List Char} (h : Ascii text) :
    lossy (encode text) = text := by
  rw [encode_of_ascii h]
  induction text with
  | nil => rfl
  | cons c rest ih =>
    have first : c.toNat < 0x80 := h c (by simp)
    have later : Ascii rest := fun d member => h d (by simp [member])
    rw [lossy, List.map_cons, lossyFrom, feed, start_of_lt first]
    exact congrArg (c :: ·) (ih later)

end Schematron.Utf8
