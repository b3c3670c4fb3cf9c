import Mathlib.Tactic.SplitIfs
import Schematron.Proofs.Text.Split
import Schematron.Xml.Reference
import Schematron.Xml.WellFormed

/-!
Escaped text between markup. It holds none of the characters that end a text, a tag or a quoted
value, and it passes the checks on raw text exactly when the text itself consists of Chars.
-/
namespace Schematron.Xml

theorem not_mem_escapeChar {c : Char} (special : c = '<' ∨ c = '>' ∨ c = '"' ∨ c = '\'')
    (d : Char) : c ∉ escapeChar d := by
  unfold escapeChar
  split_ifs <;> rcases special with rfl | rfl | rfl | rfl <;> simp [*, Ne.symm]

theorem not_mem_escape {c : Char} (special : c = '<' ∨ c = '>' ∨ c = '"' ∨ c = '\'')
    (text : List Char) : c ∉ escape text := by
  intro h
  obtain ⟨d, _, inside⟩ := List.mem_flatMap.1 h
  exact not_mem_escapeChar special d inside

@[simp] theorem checkChars_nil : checkChars [] = .ok () :=
  rfl

theorem checkChars_append_iff {first second : List Char} :
    checkChars (first ++ second) = .ok () ↔
      checkChars first = .ok () ∧ checkChars second = .ok () := by
  simp only [checkChars_eq_ok_iff, List.forall_mem_append]

theorem checkChars_escapeChar_iff {c : Char} :
    checkChars (escapeChar c) = .ok () ↔ isXmlChar c = true := by
  unfold escapeChar
  split_ifs with h h h h h
  case neg => simp [checkChars_eq_ok_iff]
  all_goals
    subst h
    exact iff_of_true rfl rfl

theorem checkChars_escape_iff {text : List Char} :
    checkChars (escape text) = .ok () ↔ checkChars text = .ok () := by
  induction text with
  | nil => rfl
  | cons c text ih =>
    rw [show escape (c :: text) = escapeChar c ++ escape text from rfl, checkChars_append_iff,
      checkChars_escapeChar_iff, ih]
    simp [checkChars_eq_ok_iff]

theorem checkAttributeValue_escape_iff {text : List Char} :
    checkAttributeValue (escape text) = .ok () ↔ checkChars text = .ok () := by
  rw [checkAttributeValue, if_neg (not_mem_escape (.inl rfl) text), checkChars_escape_iff]

theorem checkText_escape_iff {text : List Char} :
    checkText (escape text) = .ok () ↔ checkChars text = .ok () := by
  have absent : ¬Text.occursIn [']', ']', '>'] (escape text) = true := by
    rw [Text.occursIn_iff]
    rintro ⟨before, after, split⟩
    exact not_mem_escape (.inr (.inl rfl)) text (by simp [split])
  rw [checkText, if_neg absent, checkChars_escape_iff]

end Schematron.Xml
