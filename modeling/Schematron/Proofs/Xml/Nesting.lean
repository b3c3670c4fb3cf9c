import Schematron.Proofs.Xml.Source
import Schematron.Proofs.Xml.Layout

/-!
How deep tokens lead. A start tag leads one level down and an end tag one up; content comes back to
its level and never gets above it, so an element gets back to its level with its last token only.
-/
namespace Schematron.Xml

def Token.nesting : Token → Int
  | .startTag _ => 1
  | .endTag _ => -1
  | _ => 0

theorem Token.nesting_of_untagged {token : Token} (h : token.isTag = false) :
    token.nesting = 0 := by
  cases token <;> first | rfl | cases h

def nesting : List Token → Int
  | [] => 0
  | token :: rest => token.nesting + nesting rest

@[simp] theorem nesting_nil : nesting [] = 0 :=
  rfl

@[simp] theorem nesting_cons (token : Token) (tokens : List Token) :
    nesting (token :: tokens) = token.nesting + nesting tokens :=
  rfl

@[simp] theorem nesting_append (first second : List Token) :
    nesting (first ++ second) = nesting first + nesting second := by
  induction first with
  | nil => simp
  | cons token rest ih => simp [ih, Int.add_assoc]

theorem Content.nesting_eq {tokens : List Token} (h : Content tokens) : nesting tokens = 0 := by
  induction h with
  | nil => rfl
  | leaf untagged _ ih => simp [Token.nesting_of_untagged untagged, ih]
  | empty _ ih => simp [Token.nesting, ih]
  | element _ _ inner rest => simp [Token.nesting, inner, rest]

theorem Content.nesting_nonneg {tokens front : List Token} (h : Content tokens)
    (cut : front <+: tokens) : 0 ≤ nesting front := by
  induction h generalizing front with
  | nil =>
    rw [List.prefix_nil.1 cut]
    exact Int.le_refl 0
  | leaf untagged _ ih =>
    rcases List.prefix_cons_iff.1 cut with rfl | ⟨front, rfl, shorter⟩
    · exact Int.le_refl 0
    · simpa [Token.nesting_of_untagged untagged] using ih shorter
  | empty _ ih =>
    rcases List.prefix_cons_iff.1 cut with rfl | ⟨front, rfl, shorter⟩
    · exact Int.le_refl 0
    · simpa [Token.nesting] using ih shorter
  | @element content name inner rest inside _ below beside =>
    rw [List.cons_append] at cut
    rcases List.prefix_cons_iff.1 cut with rfl | ⟨front, rfl, more, whole⟩
    · exact Int.le_refl 0
    -- Either the inner element is not left again, or all of it is passed.
    rcases List.append_eq_append_iff.1 whole with ⟨left, rfl, -⟩ | ⟨onward, rfl, passed⟩
    · have level := below (List.prefix_append front left)
      simp only [nesting_cons, Token.nesting]
      omega
    · have level := inside.nesting_eq
      rcases List.prefix_cons_iff.1 ⟨more, passed.symm⟩ with rfl | ⟨onward, rfl, shorter⟩
      · simp [Token.nesting, level]
      · have later := beside shorter
        simp only [nesting_cons, nesting_append, Token.nesting, level]
        omega

namespace IsElement

variable {body body' : List Token}

theorem nesting_pos {front : List Token} (h : IsElement body) (cut : front <+: body)
    (begun : front ≠ []) (unfinished : front ≠ body) : 0 < nesting front := by
  cases h with
  | empty content =>
    rcases List.prefix_cons_iff.1 cut with rfl | ⟨front, rfl, shorter⟩
    · exact absurd rfl begun
    · rw [List.prefix_nil.1 shorter] at unfinished
      exact absurd rfl unfinished
  | nested inside =>
    rw [List.cons_append] at cut unfinished
    rcases List.prefix_cons_iff.1 cut with rfl | ⟨front, rfl, shorter⟩
    · exact absurd rfl begun
    rcases List.prefix_concat_iff.1 shorter with rfl | within
    · exact absurd rfl unfinished
    · have level := inside.nesting_nonneg within
      simp only [nesting_cons, Token.nesting]
      omega

theorem eq_of_isPrefix (h : IsElement body) (h' : IsElement body') (front : body <+: body') :
    body = body' := by
  by_contra unfinished
  obtain ⟨first, rest, begun, _⟩ := h.exists_cons
  have below := h'.nesting_pos front (by simp [begun]) unfinished
  have level := h.content.nesting_eq
  omega

theorem eq_of_append_eq {rest rest' : List Token} (h : IsElement body) (h' : IsElement body')
    (same : body ++ rest = body' ++ rest') : body = body' ∧ rest = rest' := by
  have equal : body = body' := by
    rcases List.append_eq_append_iff.1 same with ⟨more, split, -⟩ | ⟨more, split, -⟩
    · exact h.eq_of_isPrefix h' ⟨more, split.symm⟩
    · exact (h'.eq_of_isPrefix h ⟨more, split.symm⟩).symm
  subst equal
  exact ⟨rfl, List.append_cancel_left same⟩

end IsElement

theorem Content.openNames_eq {tokens : List Token} {names names' : List (List Char)}
    (h : Content tokens) (read : tokens.foldlM Lexer.openNamesAfter names = .ok names') :
    names' = names := by
  induction h generalizing names names' with
  | nil =>
    cases read
    rfl
  | @leaf token rest untagged _ ih =>
    have kept : Lexer.openNamesAfter names token = .ok names := by
      cases token <;> first | rfl | cases untagged
    rw [List.foldlM_cons, kept] at read
    exact ih read
  | empty _ ih => exact ih read
  | @element content name inner rest _ _ inside beside =>
    simp only [List.cons_append, List.foldlM_cons, List.foldlM_append, bind_eq_ok_iff] at read
    obtain ⟨_, opened, _, entered, outer, left, onward⟩ := read
    cases opened
    rw [inside entered, Lexer.openNamesAfter_endTag_iff] at left
    rw [beside onward, ← (List.cons.inj left).2]

end Schematron.Xml
