import Schematron.Proofs.Xml.Tag
import Schematron.Proofs.Xml.Reference

/-!
The grammar of attribute values, with what a value stands for. A reference names one of the five
entities that need no declaration or spells a code point in decimal or hexadecimal digits.
-/
namespace Schematron.Xml

def isDigit (c : Char) : Bool :=
  between 0x30 0x39 c

def isHexDigit (c : Char) : Bool :=
  isDigit c || between 0x41 0x46 c || between 0x61 0x66 c

def digitValue (c : Char) : Nat :=
  if isDigit c then c.toNat - 0x30
  else if between 0x41 0x46 c then c.toNat - 0x41 + 10
  else c.toNat - 0x61 + 10

/-- The number that digits spell after the digits of another one. -/
def numeralFrom (base value : Nat) (digits : List Char) : Nat :=
  digits.foldl (fun value d => value * base + digitValue d) value

def numeral (base : Nat) (digits : List Char) : Nat :=
  numeralFrom base 0 digits

def AreDigits (base : Nat) (p : Char → Bool) : Prop :=
  ∀ c, Text.digitValue? base c = if p c then some (digitValue c) else none

theorem digitValue?_eq (base : Nat) (c : Char) :
    Text.digitValue? base c =
      (if 0x30 ≤ c.toNat ∧ c.toNat ≤ 0x39 then some (c.toNat - 0x30)
        else if 0x61 ≤ c.toNat ∧ c.toNat ≤ 0x7A then some (c.toNat - 0x61 + 10)
        else if 0x41 ≤ c.toNat ∧ c.toNat ≤ 0x5A then some (c.toNat - 0x41 + 10)
        else none).filter (· < base) :=
  rfl

theorem areDigits_decimal : AreDigits 10 isDigit := by
  intro c
  simp only [digitValue?_eq, isDigit, digitValue, between, Bool.and_eq_true, decide_eq_true_eq]
  split_ifs <;> simp
  omega

theorem areDigits_hexadecimal : AreDigits 16 isHexDigit := by
  intro c
  simp only [digitValue?_eq, isHexDigit, isDigit, digitValue, between, Bool.or_eq_true,
    Bool.and_eq_true, decide_eq_true_eq]
  split_ifs <;> simp <;> omega

theorem le_numeralFrom {base : Nat} (positive : 0 < base) (value : Nat) (digits : List Char) :
    value ≤ numeralFrom base value digits := by
  induction digits generalizing value with
  | nil => exact Nat.le_refl value
  | cons d digits ih =>
    calc value
      _ ≤ value * base := Nat.le_mul_of_pos_right value positive
      _ ≤ value * base + digitValue d := Nat.le_add_right _ _
      _ ≤ numeralFrom base value (d :: digits) := ih _

/-- A numeral never falls below the part of it that has been read, so that it can be refused as soon
as that passes the limit. -/
theorem readDigits_eq_ok_iff {base limit value n : Nat} {p : Char → Bool}
    (digits_eq : AreDigits base p) (positive : 0 < base) (within : value ≤ limit)
    {digits : List Char} :
    Text.readDigits base limit value digits = .ok n ↔
      (∀ d ∈ digits, p d = true) ∧ numeralFrom base value digits = n ∧ n ≤ limit := by
  induction digits generalizing value with
  | nil =>
    simp only [Text.readDigits, numeralFrom, List.foldl_nil, Except.ok.injEq]
    constructor
    · rintro rfl
      exact ⟨by simp, rfl, within⟩
    · exact fun h => h.2.1
  | cons d digits ih =>
    rw [Text.readDigits, digits_eq d, List.forall_mem_cons]
    by_cases digit : p d = true
    · simp only [digit, if_true, true_and]
      split
      next within' => exact ih within'
      next beyond =>
        have least := le_numeralFrom positive (value * base + digitValue d) digits
        have reached : numeralFrom base value (d :: digits) =
            numeralFrom base (value * base + digitValue d) digits := rfl
        simp only [reduceCtorEq, false_iff]
        rintro ⟨-, same, within'⟩
        omega
    · simp [digit]

def predefinedEntities : List (List Char × Char) :=
  [(['l', 't'], '<'), (['g', 't'], '>'), (['a', 'm', 'p'], '&'), (['a', 'p', 'o', 's'], '\''),
    (['q', 'u', 'o', 't'], '"')]

structure SpellsPoint (base : Nat) (p : Char → Bool) (digits : List Char) (c : Char) : Prop where
  nonempty : digits ≠ []
  all_digits : ∀ d ∈ digits, p d = true
  point : numeral base digits = c.toNat
  nonzero : c ≠ '\x00'

/-- What stands between `&` and `;`, and the character that it stands for. -/
inductive Refers : List Char → Char → Prop
  | entity {name : List Char} {c : Char} : (name, c) ∈ predefinedEntities → Refers name c
  | decimal {digits : List Char} {c : Char} :
      SpellsPoint 10 isDigit digits c → Refers ('#' :: digits) c
  | hexadecimal {digits : List Char} {c : Char} :
      SpellsPoint 16 isHexDigit digits c → Refers ('#' :: 'x' :: digits) c

theorem predefinedEntity?_eq_some_iff {name : List Char} {c : Char} :
    predefinedEntity? name = some c ↔ (name, c) ∈ predefinedEntities := by
  unfold predefinedEntity? predefinedEntities
  repeat' split
  all_goals simp_all [@eq_comm _ c]

theorem charOfPoint_eq_ok_iff {n : Nat} {c : Char} :
    charOfPoint n = .ok c ↔ n = c.toNat ∧ c ≠ '\x00' := by
  unfold charOfPoint
  constructor
  · intro h
    split at h
    · contradiction
    next nonzero =>
      split at h
      next valid =>
        cases h
        have point : (Char.ofNat n).toNat = n := by
          rw [Char.ofNat, dif_pos valid]
          rfl
        refine ⟨point.symm, fun null => nonzero ?_⟩
        rw [← point, null]
        rfl
      · contradiction
  · rintro ⟨rfl, nonzero⟩
    have some : c.toNat ≠ 0 := fun zero => nonzero (Char.toNat_inj.1 zero)
    have valid : c.toNat.isValidChar := c.valid
    simp [some, valid]

theorem readReferenceNumber_iff {base : Nat} {p : Char → Bool} (digits_eq : AreDigits base p)
    (positive : 0 < base) (unsigned : p '+' = false ∧ p '-' = false) {digits : List Char}
    {c : Char} :
    (readReferenceNumber base digits >>= charOfPoint) = .ok c ↔ SpellsPoint base p digits c := by
  have small : c.toNat ≤ 0xFFFFFFFF := Nat.le_of_lt_succ c.val.toNat_lt
  have sign : (digits.head? = some '+' ∨ digits.head? = some '-') → ¬∀ d ∈ digits, p d = true := by
    rintro (signed | signed) all <;> simp [all _ (List.mem_of_head? signed)] at unsigned
  simp only [bind_eq_ok_iff, charOfPoint_eq_ok_iff, readReferenceNumber]
  split
  next signed =>
    simp only [reduceCtorEq, false_and, exists_false, false_iff]
    exact fun h => sign signed h.all_digits
  next =>
    simp only [mapError_eq_ok_iff, Text.readNumeral32]
    split
    next empty =>
      simp only [reduceCtorEq, false_and, exists_false, false_iff]
      exact fun h => h.nonempty (List.isEmpty_iff.1 empty)
    next nonempty =>
      simp only [readDigits_eq_ok_iff digits_eq positive (Nat.zero_le _)]
      constructor
      · rintro ⟨_, ⟨all, spelled, -⟩, rfl, nonzero⟩
        exact ⟨by simpa using nonempty, all, spelled, nonzero⟩
      · rintro ⟨-, all, spelled, nonzero⟩
        exact ⟨_, ⟨all, spelled, small⟩, rfl, nonzero⟩

theorem resolveReference_iff {name : List Char} {c : Char} :
    resolveReference 0 name = .ok c ↔ Refers name c := by
  constructor
  · intro h
    unfold resolveReference at h
    split at h
    next digits =>
      exact .hexadecimal <|
        (readReferenceNumber_iff areDigits_hexadecimal (by decide) (by decide)).1 h
    next digits _ =>
      exact .decimal <| (readReferenceNumber_iff areDigits_decimal (by decide) (by decide)).1 h
    next =>
      split at h
      next found =>
        cases h
        exact .entity (predefinedEntity?_eq_some_iff.1 found)
      · contradiction
  · intro h
    cases h with
    | entity found =>
      simp only [predefinedEntities, List.mem_cons, Prod.mk.injEq, List.not_mem_nil,
        or_false] at found
      obtain ⟨rfl, rfl⟩ | ⟨rfl, rfl⟩ | ⟨rfl, rfl⟩ | ⟨rfl, rfl⟩ | ⟨rfl, rfl⟩ := found <;> rfl
    | @decimal digits _ spelled =>
      have unmarked : ∀ rest, digits ≠ 'x' :: rest := by
        rintro rest rfl
        have := spelled.all_digits 'x' (by simp)
        contradiction
      have read := (readReferenceNumber_iff areDigits_decimal (by decide) (by decide)).2 spelled
      unfold resolveReference
      split
      next same => exact absurd (List.cons.inj same).2 (unmarked _)
      next same =>
        obtain rfl := (List.cons.inj same).2
        exact read
      next differs => exact absurd rfl (differs _)
    | hexadecimal spelled =>
      exact (readReferenceNumber_iff areDigits_hexadecimal (by decide) (by decide)).2 spelled

def Inside (c : Char) : Prop :=
  isXmlChar c = true ∧ c ∉ ['<', '&', ';', '"', '\'']

instance (c : Char) : Decidable (Inside c) :=
  inferInstanceAs (Decidable (_ ∧ _))

theorem inside_of_isHexDigit {c : Char} (h : isHexDigit c = true) : Inside c := by
  constructor
  · simp only [isHexDigit, isDigit, isXmlChar, between, Bool.or_eq_true, Bool.and_eq_true,
      decide_eq_true_eq] at h ⊢
    omega
  · intro mark
    simp only [List.mem_cons, List.not_mem_nil, or_false] at mark
    obtain rfl | rfl | rfl | rfl | rfl := mark <;> contradiction

theorem inside_of_isDigit {c : Char} (h : isDigit c = true) : Inside c :=
  inside_of_isHexDigit (by simp [isHexDigit, h])

theorem Refers.inside {name : List Char} {c : Char} (h : Refers name c) : ∀ d ∈ name, Inside d := by
  cases h with
  | entity found =>
    have letters : predefinedEntities.all (·.1.all (Inside ·)) = true := by decide
    simp only [List.all_eq_true, decide_eq_true_eq] at letters
    exact letters _ found
  | decimal spelled =>
    rw [List.forall_mem_cons]
    exact ⟨by decide, fun d member => inside_of_isDigit (spelled.all_digits d member)⟩
  | hexadecimal spelled =>
    rw [List.forall_mem_cons, List.forall_mem_cons]
    exact ⟨by decide, by decide, fun d member => inside_of_isHexDigit (spelled.all_digits d member)⟩

theorem not_mem_of_inside {name : List Char} (h : ∀ d ∈ name, Inside d) {mark : Char}
    (marks : mark ∈ ['<', '&', ';', '"', '\'']) : mark ∉ name :=
  fun member => (h mark member).2 marks

/-- What stands between two quotes, and what it stands for. -/
inductive ValueText (quote : Char) : List Char → List Char → Prop
  | nil : ValueText quote [] []
  | plain {c : Char} {raw meaning : List Char} : isXmlChar c = true → c ≠ '<' → c ≠ '&' →
      c ≠ quote → ValueText quote raw meaning → ValueText quote (c :: raw) (c :: meaning)
  | reference {name raw meaning : List Char} {c : Char} : Refers name c →
      ValueText quote raw meaning → ValueText quote ('&' :: (name ++ ';' :: raw)) (c :: meaning)

theorem checkAttributeValue_eq_ok_iff {raw : List Char} :
    checkAttributeValue raw = .ok () ↔ '<' ∉ raw ∧ ∀ c ∈ raw, isXmlChar c = true := by
  unfold checkAttributeValue
  split <;> simp_all [checkChars_eq_ok_iff]

theorem valueText_iff {quote : Char} (quoted : quote = '"' ∨ quote = '\'')
    {raw meaning : List Char} :
    ValueText quote raw meaning ↔
      quote ∉ raw ∧ checkAttributeValue raw = .ok () ∧ unescape raw = .ok meaning := by
  rw [checkAttributeValue_eq_ok_iff, unescape_eq_ok_iff]
  constructor
  · intro h
    induction h with
    | nil => exact ⟨by simp, by simp, .nil⟩
    | plain char bracket amp apart _ ih =>
      obtain ⟨closed, ⟨plain, chars⟩, resolves⟩ := ih
      refine ⟨?_, ⟨?_, ?_⟩, .plain amp resolves⟩
      · simp [closed, Ne.symm apart]
      · simp [plain, Ne.symm bracket]
      · simpa [char] using chars
    | @reference name raw meaning c refers _ ih =>
      obtain ⟨closed, ⟨plain, chars⟩, resolves⟩ := ih
      have inside := refers.inside
      have marks : quote ∈ ['<', '&', ';', '"', '\''] ∧ quote ≠ '&' ∧ quote ≠ ';' := by
        rcases quoted with rfl | rfl <;> decide
      refine ⟨?_, ⟨?_, ?_⟩, .reference (not_mem_of_inside inside (by decide))
        (not_mem_of_inside inside (by decide)) (resolveReference_iff.2 refers) resolves⟩
      · simp [closed, marks.2, not_mem_of_inside inside marks.1]
      · simp [plain, not_mem_of_inside inside (show '<' ∈ _ by decide)]
      · simp only [List.forall_mem_cons, List.forall_mem_append]
        exact ⟨by decide, fun d member => (inside d member).1, by decide, chars⟩
  · rintro ⟨closed, ⟨plain, chars⟩, resolves⟩
    induction resolves with
    | nil => exact .nil
    | plain amp _ ih =>
      simp only [List.mem_cons, not_or] at closed plain
      rw [List.forall_mem_cons] at chars
      exact .plain chars.1 (Ne.symm plain.1) amp (Ne.symm closed.1) (ih closed.2 plain.2 chars.2)
    | reference _ _ found _ ih =>
      simp only [List.mem_cons, List.mem_append, not_or] at closed plain
      simp only [List.forall_mem_cons, List.forall_mem_append] at chars
      exact .reference (resolveReference_iff.1 found) (ih closed.2.2.2 plain.2.2.2 chars.2.2.2)

end Schematron.Xml
