import Schematron.Encoding.Utf16
import Schematron.Proofs.Text.Split

/-!
UTF-16 both ways. A unit that is no surrogate is a character, and so are a high surrogate and the
low one after it; no character is a surrogate. An odd byte or a lone surrogate leaves no text at
all.
-/
namespace Schematron.Utf16

variable {order : ByteOrder}

theorem unit_lt (order : ByteOrder) (first second : UInt8) :
    unit order first second < 0x10000 := by
  have low := first.toNat_lt
  have high := second.toNat_lt
  cases order <;> dsimp only [unit] <;> omega

theorem unitBytes_unit (order : ByteOrder) (first second : UInt8) :
    unitBytes order (unit order first second) = [first, second] := by
  have low := first.toNat_lt
  have high := second.toNat_lt
  cases order with
  | little =>
    have digit : (second.toNat * 256 + first.toNat) % 256 = first.toNat := by omega
    have carry : (second.toNat * 256 + first.toNat) / 256 = second.toNat := by omega
    simp [unit, unitBytes, digit, carry]
  | big =>
    have digit : (first.toNat * 256 + second.toNat) % 256 = second.toNat := by omega
    have carry : (first.toNat * 256 + second.toNat) / 256 = first.toNat := by omega
    simp [unit, unitBytes, digit, carry]

theorem exists_unit_eq (order : ByteOrder) {value : Nat} (bound : value < 0x10000) :
    ∃ first second, unitBytes order value = [first, second] ∧
      unit order first second = value := by
  have digit : value % 256 < 256 := Nat.mod_lt _ (by decide)
  have carry : value / 256 < 256 := by omega
  cases order with
  | little =>
    refine ⟨_, _, rfl, ?_⟩
    simp only [unit, UInt8.toNat_ofNat', Nat.mod_eq_of_lt digit, Nat.mod_eq_of_lt carry]
    omega
  | big =>
    refine ⟨_, _, rfl, ?_⟩
    simp only [unit, UInt8.toNat_ofNat', Nat.mod_eq_of_lt digit, Nat.mod_eq_of_lt carry]
    omega

theorem units?_eq_some_iff {bytes : List UInt8} {units : List Nat} :
    units? order bytes = some units ↔
      bytes = units.flatMap (unitBytes order) ∧ ∀ value ∈ units, value < 0x10000 := by
  constructor
  · intro h
    induction bytes using units?.induct generalizing units with
    | case1 =>
      cases h
      simp
    | case2 => contradiction
    | case3 first second rest ih =>
      rw [units?, Option.map_eq_some_iff] at h
      obtain ⟨others, read, rfl⟩ := h
      obtain ⟨bytes_eq, bounded⟩ := ih read
      rw [List.flatMap_cons, unitBytes_unit, List.forall_mem_cons, ← bytes_eq]
      exact ⟨rfl, unit_lt order first second, bounded⟩
  · rintro ⟨rfl, bounded⟩
    induction units with
    | nil => rfl
    | cons value units ih =>
      rw [List.forall_mem_cons] at bounded
      obtain ⟨first, second, bytes_eq, unit_eq⟩ := exists_unit_eq order bounded.1
      rw [List.flatMap_cons, bytes_eq]
      show (units? order (units.flatMap (unitBytes order))).map _ = _
      rw [ih bounded.2, unit_eq]
      rfl

theorem toNat_cases (c : Char) :
    c.toNat < 0xD800 ∨ 0xE000 ≤ c.toNat ∧ c.toNat < 0x110000 := by
  have valid : c.toNat < 0xD800 ∨ 0xDFFF < c.toNat ∧ c.toNat < 0x110000 := c.valid
  omega

theorem toNat_ofNat {point : Nat} (scalar : point < 0xD800 ∨ 0xE000 ≤ point ∧ point < 0x110000) :
    (Char.ofNat point).toNat = point := by
  have valid : point.isValidChar := by
    unfold Nat.isValidChar
    omega
  rw [Char.ofNat, dif_pos valid]
  rfl

theorem not_surrogate_iff {value : Nat} :
    isHighSurrogate value = false ∧ isLowSurrogate value = false ↔
      value < 0xD800 ∨ 0xE000 ≤ value := by
  simp only [isHighSurrogate, isLowSurrogate, Bool.and_eq_false_iff, decide_eq_false_iff_not]
  omega

theorem charUnits_lt (c : Char) : ∀ value ∈ charUnits c, value < 0x10000 := by
  have point := toNat_cases c
  unfold charUnits
  split
  · simpa
  · have high : (c.toNat - 0x10000) / 0x400 < 0x400 := by omega
    have low : (c.toNat - 0x10000) % 0x400 < 0x400 := Nat.mod_lt _ (by decide)
    simp only [List.forall_mem_cons, List.not_mem_nil, false_imp_iff, implies_true, and_true]
    omega

theorem text?_charUnits_append (c : Char) (units : List Nat) :
    text? (charUnits c ++ units) = (text? units).map (c :: ·) := by
  have point := toNat_cases c
  unfold charUnits
  split
  next plane =>
    obtain ⟨high, low⟩ := not_surrogate_iff.2 (show c.toNat < 0xD800 ∨ 0xE000 ≤ c.toNat by omega)
    rw [List.singleton_append, text?.eq_def]
    simp [high, low, Char.ofNat_toNat]
  next plane =>
    have quotient : (c.toNat - 0x10000) / 0x400 < 0x400 := by omega
    have remainder : (c.toNat - 0x10000) % 0x400 < 0x400 := Nat.mod_lt _ (by decide)
    have high : isHighSurrogate (0xD800 + (c.toNat - 0x10000) / 0x400) = true := by
      simp only [isHighSurrogate, Bool.and_eq_true, decide_eq_true_eq]
      omega
    have low : isLowSurrogate (0xDC00 + (c.toNat - 0x10000) % 0x400) = true := by
      simp only [isLowSurrogate, Bool.and_eq_true, decide_eq_true_eq]
      omega
    have joined : 0x10000 + (0xD800 + (c.toNat - 0x10000) / 0x400 - 0xD800) * 0x400 +
        (0xDC00 + (c.toNat - 0x10000) % 0x400 - 0xDC00) = c.toNat := by omega
    rw [List.cons_append, List.singleton_append, text?, if_pos high]
    simp only [if_pos low, joined, Char.ofNat_toNat]

theorem text?_flatMap_charUnits (text : List Char) :
    text? (text.flatMap charUnits) = some text := by
  induction text with
  | nil => rfl
  | cons c text ih => rw [List.flatMap_cons, text?_charUnits_append, ih, Option.map_some]

theorem eq_flatMap_of_text? {units : List Nat} (bounded : ∀ value ∈ units, value < 0x10000)
    {text : List Char} (h : text? units = some text) : units = text.flatMap charUnits := by
  induction units using text?.induct generalizing text with
  | case1 =>
    cases h
    rfl
  | case2 value high =>
    simp [text?, high] at h
  | case3 value high low rest paired ih =>
    simp only [text?, high, paired, if_true, Option.map_eq_some_iff] at h
    obtain ⟨text, read, rfl⟩ := h
    simp only [List.forall_mem_cons] at bounded
    simp only [isHighSurrogate, isLowSurrogate, Bool.and_eq_true, decide_eq_true_eq] at high paired
    have point : (Char.ofNat (0x10000 + (value - 0xD800) * 0x400 + (low - 0xDC00))).toNat =
        0x10000 + (value - 0xD800) * 0x400 + (low - 0xDC00) := toNat_ofNat (by omega)
    have upper : 0xD800 + (0x10000 + (value - 0xD800) * 0x400 + (low - 0xDC00) - 0x10000) / 0x400 =
        value := by omega
    have lower : 0xDC00 + (0x10000 + (value - 0xD800) * 0x400 + (low - 0xDC00) - 0x10000) % 0x400 =
        low := by omega
    rw [List.flatMap_cons, ← ih bounded.2.2 read, charUnits, point, if_neg (by omega)]
    simp only [upper, lower, List.cons_append, List.nil_append]
  | case4 value high low rest lone =>
    simp [text?, high, lone] at h
  | case5 value rest high low =>
    rw [text?.eq_def] at h
    simp [high, low] at h
  | case6 value rest high low ih =>
    rw [text?.eq_def] at h
    simp only [high, low, Bool.false_eq_true, if_false, Option.map_eq_some_iff] at h
    obtain ⟨text, read, rfl⟩ := h
    rw [List.forall_mem_cons] at bounded
    have scalar := not_surrogate_iff.1 ⟨Bool.eq_false_iff.2 high, Bool.eq_false_iff.2 low⟩
    have point : (Char.ofNat value).toNat = value := toNat_ofNat (by omega)
    rw [List.flatMap_cons, ← ih bounded.2 read, charUnits, point, if_pos bounded.1]
    rfl

theorem decode_eq_some_iff {bytes : List UInt8} {text : List Char} :
    decode order bytes = some text ↔ bytes = encode order text := by
  rw [decode, Option.bind_eq_some_iff]
  constructor
  · rintro ⟨units, read, text_eq⟩
    obtain ⟨bytes_eq, bounded⟩ := units?_eq_some_iff.1 read
    rw [bytes_eq, eq_flatMap_of_text? bounded text_eq, encode]
  · rintro rfl
    refine ⟨text.flatMap charUnits, units?_eq_some_iff.2 ⟨rfl, ?_⟩, text?_flatMap_charUnits text⟩
    intro value member
    obtain ⟨c, -, inside⟩ := List.mem_flatMap.1 member
    exact charUnits_lt c value inside

@[simp] theorem decode_encode (text : List Char) : decode order (encode order text) = some text :=
  decode_eq_some_iff.2 rfl

example : decode .big [0xD8, 0x3D, 0xDE, 0x00] = some ['😀'] ∧
    decode .big [0xDE, 0x00, 0xD8, 0x3D] = none := by decide

end Schematron.Utf16
