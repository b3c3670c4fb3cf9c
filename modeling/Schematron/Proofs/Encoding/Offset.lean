import Schematron.Encoding.Detect
import Schematron.Proofs.Text.Split

/-!
The label of a declaration read by offsets. A cut fails where an index lies outside of the bytes or
an offset inside a character; on the way to the label neither happens.
-/
namespace Schematron.Offset

def slice? (bytes : List UInt8) (start stop : Nat) : Option (List UInt8) :=
  if start ≤ stop ∧ stop ≤ bytes.length then some ((bytes.take stop).drop start) else none

/-- The text up to a byte offset and the text from there on, if no character is cut in two. -/
def splitAt? : List Char → Nat → Option (List Char × List Char)
  | text, 0 => some ([], text)
  | [], _ + 1 => none
  | c :: rest, offset + 1 =>
    if c.utf8Size ≤ offset + 1 then
      (splitAt? rest (offset + 1 - c.utf8Size)).map fun (before, after) => (c :: before, after)
    else none

def suffix? (text : List Char) (offset : Nat) : Option (List Char) :=
  (splitAt? text offset).map (·.2)

def prefix? (text : List Char) (offset : Nat) : Option (List Char) :=
  (splitAt? text offset).map (·.1)

def find? (mark text : List Char) : Option Nat :=
  (Text.cutAt? mark text).map fun (before, _) => Utf8.size before

def endOf? (bytes : List UInt8) : Option Nat :=
  (Text.cutAt? Encoding.declarationEnd bytes).map fun (before, _) => before.length

def value? (quote : Char) (quoted : List Char) : Option (Option (List Char)) := do
  let value ← suffix? quoted 1
  match find? [quote] value with
  | none => some none
  | some close => (prefix? value close).map some

/-- The value of the declaration; nothing at all where a cut fails. -/
def declaredValue? (declaration : List Char) : Option (Option (List Char)) :=
  match find? "encoding".toList declaration with
  | none => some none
  | some offset => do
    let rest ← suffix? declaration (offset + Utf8.size "encoding".toList)
    match Text.trimStart rest with
    | '=' :: rest =>
      match Text.trimStart rest with
      | quote :: value =>
        if quote = '"' ∨ quote = '\'' then value? quote (quote :: value) else some none
      | [] => some none
    | _ => some none

def declaredLabel? (bytes : List UInt8) : Option (Option (List Char)) :=
  if Encoding.declarationStart <+: bytes then do
    let head ← slice? bytes 0 (min bytes.length Encoding.declarationLimit)
    match endOf? head with
    | none => some none
    | some stop => do
      let declaration ← slice? head Encoding.declarationStart.length stop
      declaredValue? (Utf8.lossy declaration)
  else some none

theorem splitAt?_append (before after : List Char) :
    splitAt? (before ++ after) (Utf8.size before) = some (before, after) := by
  induction before with
  | nil => cases after <;> rfl
  | cons c before ih =>
    obtain ⟨size, positive⟩ : ∃ size, c.utf8Size = size + 1 :=
      Nat.exists_eq_succ_of_ne_zero (Nat.ne_of_gt c.utf8Size_pos)
    have offset : Utf8.size (c :: before) = size + Utf8.size before + 1 := by
      rw [Utf8.size, positive]
      omega
    have left : size + Utf8.size before + 1 - c.utf8Size = Utf8.size before := by omega
    rw [offset, List.cons_append, splitAt?, if_pos (by omega), left, ih]
    rfl

theorem suffix?_append (before after : List Char) :
    suffix? (before ++ after) (Utf8.size before) = some after := by
  rw [suffix?, splitAt?_append, Option.map_some]

theorem prefix?_append (before after : List Char) :
    prefix? (before ++ after) (Utf8.size before) = some before := by
  rw [prefix?, splitAt?_append, Option.map_some]

theorem slice?_append (front middle after : List UInt8) :
    slice? (front ++ middle ++ after) front.length (front ++ middle).length = some middle := by
  have bounds : front.length ≤ (front ++ middle).length ∧
      (front ++ middle).length ≤ (front ++ middle ++ after).length := by
    simp
  rw [slice?, if_pos bounds, List.take_left, List.drop_left]

theorem slice?_zero (bytes : List UInt8) (limit : Nat) :
    slice? bytes 0 (min bytes.length limit) = some (bytes.take limit) := by
  rw [slice?, if_pos ⟨Nat.zero_le _, Nat.min_le_left _ _⟩, List.drop_zero]
  rcases Nat.le_total bytes.length limit with short | long
  · rw [Nat.min_eq_left short, List.take_length, List.take_of_length_le short]
  · rw [Nat.min_eq_right long]

theorem value?_eq {quote : Char} (kind : quote = '"' ∨ quote = '\'') (value : List Char) :
    value? quote (quote :: value) = some ((Text.cutAt? [quote] value).map (·.1)) := by
  have size : Utf8.size [quote] = 1 := by rcases kind with rfl | rfl <;> rfl
  have opened : suffix? (quote :: value) 1 = some value := by
    rw [← size]
    exact suffix?_append [quote] value
  unfold value? find?
  rw [opened, Option.bind_eq_bind, Option.bind_some]
  cases closed : Text.cutAt? [quote] value with
  | none => rfl
  | some cut =>
    obtain ⟨label, after⟩ := cut
    have split := Text.eq_append_of_cutAt? closed
    rw [List.append_assoc] at split
    have kept : prefix? value (Utf8.size label) = some label := by rw [split, prefix?_append]
    simp only [Option.map_some, kept]

theorem declaredValue?_eq (declaration : List Char) :
    declaredValue? declaration = some (Encoding.declaredValue? declaration) := by
  unfold declaredValue? Encoding.declaredValue? find?
  cases found : Text.cutAt? "encoding".toList declaration with
  | none => rfl
  | some cut =>
    obtain ⟨before, rest⟩ := cut
    have reached : suffix? declaration (Utf8.size before + Utf8.size "encoding".toList) =
        some rest := by
      rw [Text.eq_append_of_cutAt? found, ← Utf8.size_append, suffix?_append]
    dsimp only [Option.map_some]
    rw [reached, Option.bind_eq_bind, Option.bind_some]
    cases Text.trimStart rest with
    | nil => rfl
    | cons sign value =>
      by_cases equals : sign = '='
      · subst equals
        simp only
        cases Text.trimStart value with
        | nil => rfl
        | cons quote value =>
          by_cases kind : quote = '"' ∨ quote = '\''
          · simp only [if_pos kind, value?_eq kind]
          · simp only [if_neg kind]
      · simp [equals]

theorem endOf?_start (rest : List UInt8) :
    endOf? (Encoding.declarationStart ++ rest) =
      (endOf? rest).map (Encoding.declarationStart.length + ·) := by
  have passed : Text.cutAt? Encoding.declarationEnd (Encoding.declarationStart ++ rest) =
      (Text.cutAt? Encoding.declarationEnd rest).map fun (before, after) =>
        (Encoding.declarationStart ++ before, after) := by
    simp only [Encoding.declarationStart, Encoding.declarationEnd, List.cons_append,
      List.nil_append, Text.cutAt?, Text.dropStart?]
    cases Text.cutAt? [0x3F, 0x3E] rest <;> rfl
  rw [endOf?, passed, endOf?, Option.map_map, Option.map_map]
  simp [Function.comp_def]

theorem declaredLabel?_eq (bytes : List UInt8) :
    declaredLabel? bytes = some (Encoding.declaredLabel? bytes) := by
  have room : Encoding.declarationStart.length ≤ Encoding.declarationLimit := by decide
  unfold declaredLabel? Encoding.declaredLabel?
  rw [slice?_zero, Option.bind_eq_bind, Option.bind_some]
  cases started : Text.dropStart? Encoding.declarationStart
      (bytes.take Encoding.declarationLimit) with
  | none =>
    have other : ¬ Encoding.declarationStart <+: bytes := by
      rintro ⟨rest, rfl⟩
      rw [List.take_append, List.take_of_length_le room,
        Text.dropStart?_eq_some_iff.2 rfl] at started
      contradiction
    rw [if_neg other]
  | some rest =>
    have head := Text.dropStart?_eq_some_iff.1 started
    have starts : Encoding.declarationStart <+: bytes :=
      .trans ⟨rest, head.symm⟩ (List.take_prefix _ _)
    rw [if_pos starts, head, endOf?_start]
    unfold endOf?
    dsimp only
    cases cut : Text.cutAt? Encoding.declarationEnd rest with
    | none => rfl
    | some parts =>
      obtain ⟨content, after⟩ := parts
      have sliced : slice? (Encoding.declarationStart ++ rest) Encoding.declarationStart.length
          (Encoding.declarationStart.length + content.length) = some content := by
        rw [Text.eq_append_of_cutAt? cut, List.append_assoc, ← List.append_assoc,
          ← List.length_append]
        exact slice?_append _ _ _
      dsimp only [Option.map_some]
      rw [sliced, Option.bind_some, declaredValue?_eq]

end Schematron.Offset
