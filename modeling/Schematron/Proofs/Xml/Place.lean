import Schematron.Proofs.Xml.Line
import Schematron.Proofs.Xml.Source
import Schematron.Proofs.Xml.Structure

/-!
Each token is kept with the text before it. No token parts a carriage return from its line feed, so
the line that it is given is that of the text before it.
-/
namespace Schematron.Xml

/-- Tokens with the texts before them. Their sources lead from the first text to the last one. -/
inductive Places : List Char → List (List Char × Token) → List Char → Prop
  | nil {before : List Char} : Places before [] before
  | cons {before source final : List Char} {token : Token} {rest : List (List Char × Token)} :
      token.Source source → Places (before ++ source) rest final →
      Places before ((before, token) :: rest) final

namespace Places

variable {before final : List Char} {placed : List (List Char × Token)}

theorem rising (h : Places before placed final) :
    (before :: placed.map Prod.fst).Pairwise (· <+: ·) := by
  induction h with
  | nil => simp
  | @cons before source final token rest _ _ ih =>
    rw [List.pairwise_cons] at ih
    have later : ∀ place ∈ rest.map Prod.fst, before <+: place := fun place member =>
      (List.prefix_append before source).trans (ih.1 place member)
    rw [List.map_cons, List.pairwise_cons, List.forall_mem_cons, List.pairwise_cons]
    exact ⟨⟨List.prefix_refl before, later⟩, later, ih.2⟩

theorem isPrefix (h : Places before placed final) : before <+: final := by
  induction h with
  | nil => exact List.prefix_refl _
  | @cons before source final token rest _ _ ih =>
    exact (List.prefix_append before source).trans ih

theorem split {front rest : List (List Char × Token)} {place : List Char} {token : Token}
    (h : Places before (front ++ (place, token) :: rest) final) :
    Places before front place ∧ ∃ source, token.Source source ∧ place ++ source <+: final := by
  induction front generalizing before with
  | nil =>
    cases h with
    | cons written onward => exact ⟨.nil, _, written, onward.isPrefix⟩
  | cons first front ih =>
    cases h with
    | cons written onward =>
      obtain ⟨reached, starts⟩ := ih onward
      exact ⟨.cons written reached, starts⟩

theorem prepend (h : Places before placed final) (front : List Char) :
    Places (front ++ before) (placed.map fun place => (front ++ place.1, place.2))
      (front ++ final) := by
  induction h with
  | nil => exact .nil
  | cons written _ ih =>
    rw [← List.append_assoc] at ih
    exact .cons written ih

end Places

theorem Opening.exists_eq_append_bracket {opening : Opening} {rest inner body after : List Char}
    (opened : Opening.ofText rest = .ok (opening, inner))
    (closed : opening.scan inner = some (body, after)) :
    ∃ front, '<' :: rest = front ++ ['>'] ++ after := by
  have start := Opening.ofText_eq opened
  have split : inner = body ++ '>' :: after := by
    cases opening <;> exact Automaton.eq_of_scan closed
  subst split
  cases opening with
  | cdata | comment | doctype => exact ⟨'<' :: '!' :: body, by simp [start]⟩
  | instruction => exact ⟨'<' :: '?' :: body, by simp [start]⟩
  | endTag => exact ⟨'<' :: '/' :: body, by simp [start]⟩
  | tag => exact ⟨'<' :: body, by simp [start]⟩

namespace Lexer

/-- What is read for a token is counted, and it ends with markup or goes on with it. -/
theorem next_stretch {lexer after : Lexer} {token : Token} (h : lexer.next = .token token after) :
    ∃ source, token.Source source ∧ lexer.rest = source ++ after.rest ∧
      after.position = lexer.position + Utf8.size source ∧
      (source.getLast? = some '>' ∨ ∀ c ∈ after.rest.head?, c = '<') := by
  obtain ⟨⟨source, written, split⟩, _⟩ := next_source h
  refine ⟨source, written, split, ?_⟩
  rcases next_cases h with ⟨rest, opening, inner, body, found, opened, closed, -, -, moved⟩ |
    ⟨raw, rfl, -, -, stop, -, moved⟩
  · obtain ⟨front, ends⟩ := Opening.exists_eq_append_bracket opened closed
    rw [found, ends, List.append_cancel_right_eq] at split
    have sizes : Utf8.size ('<' :: rest) = Utf8.size source + Utf8.size after.rest := by
      rw [ends, split, Utf8.size_append]
    have wide : 1 ≤ Utf8.size source := by
      rw [← split, Utf8.size_append]
      exact Nat.le_add_left 1 _
    rw [Utf8.size, show Char.utf8Size '<' = 1 from rfl] at sizes
    refine ⟨?_, .inl (by rw [← split, List.getLast?_concat])⟩
    rw [moved]
    omega
  · rw [show source = raw from written]
    exact ⟨moved, .inr stop⟩

theorem keepsBreaks_append {before source rest : List Char}
    (stop : source.getLast? = some '>' ∨ ∀ c ∈ rest.head?, c = '<') :
    KeepsBreaks (before ++ source) rest := by
  intro last feed
  rcases stop with bracket | markup
  · rw [List.getLast?_append, bracket] at last
    cases last
  · exact absurd (markup _ feed) (by decide)

theorem places_run {lexer : Lexer} {before : List Char} (kept : KeepsBreaks before lexer.rest)
    (counted : lexer.position = Utf8.size before) :
    ∃ placed final left, Places before placed final ∧ before ++ lexer.rest = final ++ left ∧
      lexer.run.tokens = placed.map (fun place => ⟨Utf8.size place.1, place.2⟩) ∧
      (∀ place ∈ placed, ∃ after, before ++ lexer.rest = place.1 ++ after ∧
        KeepsBreaks place.1 after) ∧
      ∀ offset, lexer.run.ending = .finished offset → left = [] := by
  induction lexer using Lexer.run.induct generalizing before with
  | case1 lexer ended =>
    have stopped := next_eq_finished_iff.1 ended
    rw [run_of_rest_nil stopped, stopped]
    exact ⟨[], before, [], .nil, rfl, rfl, by simp, fun _ _ => rfl⟩
  | case2 lexer fault offset failed =>
    rw [run_of_failed failed]
    exact ⟨[], before, lexer.rest, .nil, rfl, rfl, by simp, by simp⟩
  | case3 lexer token next taken ih =>
    obtain ⟨source, written, split, moved, stop⟩ := next_stretch taken
    rw [counted, ← Utf8.size_append] at moved
    obtain ⟨placed, final, left, places, whole, tokens, keep, finished⟩ :=
      ih (keepsBreaks_append stop) moved
    rw [List.append_assoc, ← split] at whole keep
    rw [run_of_next taken, counted]
    refine ⟨(before, token) :: placed, final, left, .cons written places, whole, ?_, ?_, finished⟩
    · rw [List.map_cons, tokens]
    · exact List.forall_mem_cons.2 ⟨⟨lexer.rest, rfl, kept⟩, keep⟩

end Lexer

theorem numberTokens_lex {text : List Char} (unmarked : text.head? ≠ some '\ufeff') :
    ∃ placed final left, Places [] placed final ∧ text = final ++ left ∧
      (lex text).tokens.map Located.token = placed.map Prod.snd ∧
      (numberTokens (.start (Utf8.encode text)) (lex text).tokens).1 =
        placed.map (fun place => (1 + lineBreaks place.1, place.2)) ∧
      (numberTokens (.start (Utf8.encode text)) (lex text).tokens).2.Counts (Utf8.encode text) ∧
      ∀ offset, (lex text).ending = .finished offset → left = [] := by
  have started : Lexer.start text = ⟨0, [], text⟩ := by
    unfold Lexer.start
    split
    · exact absurd rfl unmarked
    · rfl
  have kept : KeepsBreaks [] (Lexer.start text).rest := by simp [KeepsBreaks]
  obtain ⟨placed, final, left, places, whole, tokens, keep, finished⟩ :=
    Lexer.places_run kept (by rw [started]; rfl)
  have read : (Lexer.start text).rest = text := by rw [started]
  rw [read, List.nil_append] at whole keep
  have lines : ∀ place ∈ placed, lineOf (Utf8.encode text) (Utf8.size place.1) =
      1 + lineBreaks place.1 := by
    intro place member
    obtain ⟨after, split, kept⟩ := keep place member
    rw [split]
    exact lineOf_encode kept
  have within : ∀ found ∈ (lex text).tokens, found.offset ≤ (Utf8.encode text).length := by
    rw [lex, tokens, List.forall_mem_map]
    intro place member
    obtain ⟨after, split, -⟩ := keep place member
    rw [Utf8.length_encode, split, Utf8.size_append]
    exact Nat.le_add_right _ _
  have rising : (0 :: (lex text).tokens.map Located.offset).Pairwise (· ≤ ·) := by
    have sizes := places.rising.map Utf8.size (S := (· ≤ ·)) fun first second front => by
      obtain ⟨more, rfl⟩ := front
      rw [Utf8.size_append]
      exact Nat.le_add_right _ _
    rw [List.map_cons, List.map_map] at sizes
    rw [lex, tokens, List.map_map]
    exact sizes
  obtain ⟨numbered, counts⟩ := numberTokens_eq (LineCounter.counts_start _) rising within
  refine ⟨placed, final, left, places, whole, ?_, ?_, counts, finished⟩
  · rw [lex, tokens, List.map_map]
    rfl
  · rw [numbered, lex, tokens, List.map_map]
    exact List.map_congr_left fun place member => by simp [lines place member]

end Schematron.Xml
