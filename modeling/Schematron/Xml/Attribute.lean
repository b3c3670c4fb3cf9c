import Schematron.Encoding.Utf8
import Schematron.Text.Blank
import Schematron.Text.Split

/-!
The attributes of a tag as written. What a tag holds is read from left to right, one attribute at
a time, and the faults carry byte positions counted from the first byte of the element name. Blank
characters between two attributes are not required here.
-/
namespace Schematron.Xml

inductive AttributeFault
  | missingEquals (position : Nat)
  | duplicate (position previous : Nat)
  | unquoted (position : Nat)
  | missingValue (position : Nat)
  | unclosed (position : Nat) (quote : Char)
  deriving DecidableEq, Repr

def AttributeFault.message : AttributeFault → String
  | .missingEquals position =>
    s!"position {position}: attribute key must be directly followed by `=` or space"
  | .duplicate position previous =>
    s!"position {position}: duplicated attribute, previous declaration at position {previous}"
  | .unquoted position =>
    s!"position {position}: attribute value must be enclosed in `\"` or `'`"
  | .missingValue position =>
    s!"position {position}: `=` must be followed by an attribute value"
  | .unclosed position quote =>
    s!"position {position}: missing closing quote `" ++ String.singleton quote ++
      "` in attribute value"

structure AttributeKey where
  position : Nat
  name : List Char
  deriving DecidableEq, Repr

/-- An attribute as written, its value without the quotes. -/
structure RawAttribute where
  key : AttributeKey
  value : List Char
  deriving DecidableEq, Repr

/-- A place in a tag: the bytes before it and the text from there on. -/
structure TagCursor where
  position : Nat
  rest : List Char
  deriving DecidableEq, Repr

namespace TagCursor

def skipBlanks (cursor : TagCursor) : TagCursor :=
  ⟨cursor.position + Utf8.size (cursor.rest.takeWhile Text.isXmlBlank),
    cursor.rest.dropWhile Text.isXmlBlank⟩

def endsKey (c : Char) : Bool :=
  c == '=' || Text.isXmlBlank c

/-- The name that starts here. Its first character is taken whatever it is. -/
def key? (cursor : TagCursor) : Option (AttributeKey × TagCursor) :=
  match cursor.rest with
  | [] => none
  | c :: rest =>
    let name := c :: rest.takeWhile (!endsKey ·)
    some (⟨cursor.position, name⟩,
      ⟨cursor.position + Utf8.size name, rest.dropWhile (!endsKey ·)⟩)

def skipEquals (cursor : TagCursor) : Except AttributeFault TagCursor :=
  let found := cursor.skipBlanks
  match found.rest with
  | '=' :: rest => .ok ⟨found.position + 1, rest⟩
  | _ => .error (.missingEquals found.position)

def value (cursor : TagCursor) : Except AttributeFault (List Char × TagCursor) :=
  let found := cursor.skipBlanks
  match found.rest with
  | [] => .error (.missingValue found.position)
  | quote :: rest =>
    if quote = '"' ∨ quote = '\'' then
      match Text.cutAt? [quote] rest with
      | some (text, after) => .ok (text, ⟨found.position + Utf8.size text + 2, after⟩)
      | none => .error (.unclosed (found.position + Utf8.size found.rest) quote)
    else .error (.unquoted found.position)

/-- The next attribute and the place after it, or nothing where only blanks are left. `seen` holds
the names before it. -/
def next? (seen : List AttributeKey) (cursor : TagCursor) :
    Except AttributeFault (Option (RawAttribute × TagCursor)) :=
  match cursor.skipBlanks.key? with
  | none => .ok none
  | some (key, afterKey) =>
    match afterKey.skipEquals with
    | .error fault => .error fault
    | .ok afterEquals =>
      match seen.find? (·.name == key.name) with
      | some previous => .error (.duplicate key.position previous.position)
      | none =>
        match afterEquals.value with
        | .error fault => .error fault
        | .ok (text, after) => .ok (some (⟨key, text⟩, after))

theorem length_skipBlanks_le (cursor : TagCursor) :
    cursor.skipBlanks.rest.length ≤ cursor.rest.length :=
  (List.dropWhile_sublist _).length_le

theorem length_key?_lt {cursor after : TagCursor} {key : AttributeKey}
    (h : cursor.key? = some (key, after)) : after.rest.length < cursor.rest.length := by
  unfold key? at h
  split at h
  · contradiction
  next c rest hc =>
    simp only [Option.some.injEq, Prod.mk.injEq] at h
    obtain ⟨rfl, rfl⟩ := h
    simpa [hc] using Nat.lt_succ_of_le (List.dropWhile_sublist (l := rest) (!endsKey ·)).length_le

theorem length_skipEquals_le {cursor after : TagCursor} (h : cursor.skipEquals = .ok after) :
    after.rest.length ≤ cursor.rest.length := by
  have hb := length_skipBlanks_le cursor
  unfold skipEquals at h
  dsimp only at h
  split at h
  next rest hr =>
    simp only [Except.ok.injEq] at h
    subst h
    rw [hr] at hb
    simp only [List.length_cons] at hb
    exact Nat.le_of_succ_le hb
  · contradiction

theorem length_cutAt?_le {mark text before after : List Char}
    (h : Text.cutAt? mark text = some (before, after)) : after.length ≤ text.length := by
  induction text generalizing before after with
  | nil =>
    simp only [Text.cutAt?] at h
    split at h <;> simp_all
  | cons c rest ih =>
    simp only [Text.cutAt?] at h
    split at h
    next found hf =>
      simp only [Option.some.injEq, Prod.mk.injEq] at h
      obtain ⟨-, rfl⟩ := h
      rw [Text.dropStart?_eq_some_iff.1 hf]
      simp
    next =>
      simp only [Option.map_eq_some_iff, Prod.exists, Prod.mk.injEq] at h
      obtain ⟨b, a, hba, -, rfl⟩ := h
      exact Nat.le_succ_of_le (ih hba)

theorem length_value_le {cursor after : TagCursor} {text : List Char}
    (h : cursor.value = .ok (text, after)) : after.rest.length ≤ cursor.rest.length := by
  have hb := length_skipBlanks_le cursor
  unfold value at h
  dsimp only at h
  split at h
  · contradiction
  next quote rest hr =>
    rw [hr] at hb
    simp only [List.length_cons] at hb
    split at h
    · split at h
      next hcut =>
        simp only [Except.ok.injEq, Prod.mk.injEq] at h
        obtain ⟨-, rfl⟩ := h
        have := length_cutAt?_le hcut
        dsimp only
        omega
      · contradiction
    · contradiction

theorem length_next?_lt {seen : List AttributeKey} {cursor after : TagCursor}
    {found : RawAttribute} (h : cursor.next? seen = .ok (some (found, after))) :
    after.rest.length < cursor.rest.length := by
  have hb := length_skipBlanks_le cursor
  unfold next? at h
  split at h
  · simp at h
  next hk =>
    split at h
    · contradiction
    next he =>
      split at h
      · contradiction
      · split at h
        · contradiction
        next hv =>
          simp only [Except.ok.injEq, Option.some.injEq, Prod.mk.injEq] at h
          obtain ⟨-, rfl⟩ := h
          have := length_key?_lt hk
          have := length_skipEquals_le he
          have := length_value_le hv
          omega

end TagCursor
end Schematron.Xml
