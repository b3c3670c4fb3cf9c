import Schematron.Proofs.Xml.Pieces

/-!
Reading a text with more text behind it. What follows a token has no part in it, except that text
goes on up to the next markup.
-/
namespace Schematron.Xml

theorem Opening.ofText_append {rest inner : List Char} {opening : Opening}
    (h : ofText rest = .ok (opening, inner)) (more : List Char) :
    ofText (rest ++ more) = .ok (opening, inner ++ more) := by
  unfold ofText at h
  split at h <;> cases h <;> try rfl
  -- A tag is opened by none of the characters that open something else.
  cases rest with
  | nil => contradiction
  | cons c rest =>
    unfold ofText
    rw [List.cons_append]
    split <;> simp_all

theorem Opening.scan_append {opening : Opening} {inner body after : List Char}
    (h : opening.scan inner = some (body, after)) (more : List Char) :
    opening.scan (inner ++ more) = some (body, after ++ more) := by
  cases opening <;> exact Automaton.scan_append more h

def Piece.ofPlain (position : Nat) (plain : List Char) : List Piece :=
  if plain = [] then [] else [⟨⟨position, .text plain⟩, plain⟩]

theorem Piece.isTag_of_mem_ofPlain {position : Nat} {plain : List Char} {piece : Piece}
    (member : piece ∈ Piece.ofPlain position plain) : piece.isTag = false := by
  unfold Piece.ofPlain at member
  split at member
  · contradiction
  · rw [List.mem_singleton.1 member]
    rfl

namespace Lexer

variable {lexer next : Lexer} {token : Token}

def moved (lexer : Lexer) (distance : Nat) (more : List Char) : Lexer :=
  ⟨lexer.position + distance, lexer.openNames, lexer.rest ++ more⟩

theorem nextMarkup_append {position : Nat} {names : List (List Char)} {rest : List Char}
    (taken : nextMarkup position names rest = .token token next) (distance : Nat)
    (more : List Char) :
    nextMarkup (position + distance) names (rest ++ more) =
      .token token (next.moved distance more) := by
  unfold nextMarkup at taken ⊢
  split at taken
  · contradiction
  next opening inner opened =>
    rw [Opening.ofText_append opened]
    dsimp only at taken ⊢
    split at taken
    · contradiction
    next body after closed =>
      rw [Opening.scan_append closed]
      dsimp only at taken ⊢
      split at taken
      · contradiction
      next built =>
        split at taken
        · contradiction
        next names' named =>
          cases taken
          simp only [moved, Utf8.size_append, Nat.add_sub_add_right, Nat.add_right_comm]

theorem next_moved (taken : lexer.next = .token token next) (distance : Nat) (more : List Char)
    (ends : '<' ∈ lexer.rest ∨ more = []) :
    (lexer.moved distance more).next = .token token (next.moved distance more) := by
  obtain ⟨position, names, text⟩ := lexer
  cases text with
  | nil => simp [Lexer.next] at taken
  | cons c rest =>
    simp only [Lexer.next, moved, List.cons_append] at taken ⊢
    split at taken
    next bracket =>
      rw [if_pos bracket, Nat.add_right_comm]
      exact nextMarkup_append taken distance more
    next bracket =>
      cases taken
      obtain ⟨split, inside, stop⟩ := Text.span_iff.1
        ⟨Eq.refl (rest.takeWhile (· != '<')), Eq.refl (rest.dropWhile (· != '<'))⟩
      generalize rest.takeWhile (· != '<') = run at *
      generalize rest.dropWhile (· != '<') = after at *
      have boundary : ∀ d ∈ (after ++ more).head?, (d != '<') = false := by
        cases after with
        | nil =>
          rcases ends with markup | rfl
          · rw [split, List.append_nil, List.mem_cons] at markup
            have same := inside _ (markup.resolve_left (Ne.symm bracket))
            simp at same
          · simp
        | cons d after => exact stop
      obtain ⟨taken, left⟩ := Text.span_iff.2 ⟨Eq.refl (run ++ (after ++ more)), inside, boundary⟩
      rw [if_neg bracket, split, List.append_assoc, taken, left]
      simp only [Nat.add_right_comm]

theorem map_token_pieces_moved {offset : Nat} (ended : lexer.run.ending = .finished offset)
    (distance : Nat) :
    (lexer.moved distance []).pieces.map (·.token) = lexer.pieces.map (·.token) := by
  induction lexer using Lexer.run.induct with
  | case1 lexer finished =>
    have stopped := next_eq_finished_iff.1 finished
    rw [pieces_of_rest_nil stopped, pieces_of_rest_nil (by simp [moved, stopped])]
  | case2 lexer fault offset failed =>
    rw [run_of_failed failed] at ended
    contradiction
  | case3 lexer token next taken ih =>
    obtain ⟨⟨source, _, split⟩, _⟩ := next_source taken
    have split' : (lexer.moved distance []).rest = source ++ (next.moved distance []).rest := by
      simp [moved, split]
    rw [run_of_next taken] at ended
    rw [pieces_of_next taken split, pieces_of_next (next_moved taken distance [] (.inr rfl)) split',
      List.map_cons, List.map_cons, ih ended]

theorem pieces_plain_append {plain rest : List Char} (unmarked : '<' ∉ plain)
    (stop : ∀ c ∈ rest.head?, c = '<') (position : Nat) (names : List (List Char)) :
    (⟨position, names, plain ++ rest⟩ : Lexer).pieces =
        Piece.ofPlain position plain ++
          (⟨position + Utf8.size plain, names, rest⟩ : Lexer).pieces ∧
      (⟨position, names, plain ++ rest⟩ : Lexer).run.ending =
        (⟨position + Utf8.size plain, names, rest⟩ : Lexer).run.ending := by
  unfold Piece.ofPlain
  split
  next nothing =>
    subst nothing
    exact ⟨rfl, rfl⟩
  next some =>
    have taken := @next_text names plain rest some unmarked stop position
    rw [pieces_of_next taken rfl, run_of_next taken]
    exact ⟨rfl, rfl⟩

theorem pieces_of_plain (plain : '<' ∉ lexer.rest) :
    lexer.pieces = Piece.ofPlain lexer.position lexer.rest ∧
      ∃ offset, lexer.run.ending = .finished offset := by
  have stop : ∀ c ∈ ([] : List Char).head?, c = '<' := by simp
  obtain ⟨pieces, ending⟩ := pieces_plain_append plain stop lexer.position lexer.openNames
  rw [List.append_nil] at pieces ending
  refine ⟨?_, lexer.position + Utf8.size lexer.rest, ?_⟩
  · rw [pieces, pieces_of_rest_nil rfl, List.append_nil]
  · rw [ending, run_of_rest_nil rfl]

/-- The pieces of a text stay what they are when something is put behind it, up to the text that it
may end with. Reading goes on from there. -/
theorem exists_pieces_append {offset : Nat} (ended : lexer.run.ending = .finished offset) :
    ∃ (front : List Piece) (last : Lexer), '<' ∉ last.rest ∧ lexer.pieces = front ++ last.pieces ∧
      (front.map (·.token)).foldlM openNamesAfter lexer.openNames = .ok last.openNames ∧
      ∀ more, (lexer.moved 0 more).pieces = front ++ (last.moved 0 more).pieces ∧
        (lexer.moved 0 more).run.ending = (last.moved 0 more).run.ending := by
  induction lexer using Lexer.run.induct with
  | case1 lexer finished =>
    have stopped := next_eq_finished_iff.1 finished
    exact ⟨[], lexer, by simp [stopped], rfl, rfl, fun more => ⟨rfl, rfl⟩⟩
  | case2 lexer fault offset failed =>
    rw [run_of_failed failed] at ended
    contradiction
  | case3 lexer token next taken ih =>
    obtain ⟨⟨source, written, split⟩, named⟩ := next_source taken
    rw [run_of_next taken] at ended
    by_cases markup : '<' ∈ lexer.rest
    · obtain ⟨front, final, plain, pieces, names, onward⟩ := ih ended
      refine ⟨⟨⟨lexer.position, token⟩, source⟩ :: front, final, plain, ?_, ?_, fun more => ?_⟩
      · rw [pieces_of_next taken split, pieces]
        rfl
      · rw [List.map_cons, List.foldlM_cons, named]
        exact names
      · have read := next_moved taken 0 more (.inl markup)
        have split' : (lexer.moved 0 more).rest = source ++ (next.moved 0 more).rest := by
          simp [moved, split]
        rw [pieces_of_next read split', run_of_next read, (onward more).1, (onward more).2]
        exact ⟨rfl, rfl⟩
    · exact ⟨[], lexer, markup, rfl, rfl, fun more => ⟨rfl, rfl⟩⟩

end Lexer
end Schematron.Xml
