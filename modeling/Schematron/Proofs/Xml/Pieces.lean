import Schematron.Proofs.Xml.Characters

/-!
A text taken apart into its pieces. Each token is kept with the text that was read for it, so a text
that is read to its end is made of its byte order marks and its pieces, one after the other. The
pieces before the first tag and after the last one are those outside the root.
-/
namespace Schematron.Xml

/-- A token, the position before it, and the text it is read from. -/
structure Piece extends Located where
  source : List Char
  deriving DecidableEq, Repr

namespace Lexer

variable {lexer next : Lexer} {token : Token} {source : List Char}

def pieces (lexer : Lexer) : List Piece :=
  match _h : lexer.next with
  | .token token next =>
    ⟨⟨lexer.position, token⟩, lexer.rest.take (lexer.rest.length - next.rest.length)⟩ ::
      next.pieces
  | _ => []
termination_by lexer.rest.length
decreasing_by exact length_next_lt _h

theorem pieces_of_next (taken : lexer.next = .token token next)
    (split : lexer.rest = source ++ next.rest) :
    lexer.pieces = ⟨⟨lexer.position, token⟩, source⟩ :: next.pieces := by
  have read : lexer.rest.take (lexer.rest.length - next.rest.length) = source := by
    simp [split]
  rw [pieces]
  split <;> simp_all

theorem pieces_of_rest_nil (stopped : lexer.rest = []) : lexer.pieces = [] := by
  have ended := next_eq_finished_iff.2 stopped
  rw [pieces]
  split <;> simp_all

theorem pieces_of_failed {fault : MarkupFault} {offset : Nat}
    (failed : lexer.next = .failed fault offset) : lexer.pieces = [] := by
  rw [pieces]
  split <;> simp_all

theorem map_toLocated_pieces (lexer : Lexer) :
    lexer.pieces.map Piece.toLocated = lexer.run.tokens := by
  induction lexer using Lexer.run.induct with
  | case1 lexer ended =>
    have stopped := next_eq_finished_iff.1 ended
    rw [pieces_of_rest_nil stopped, run_of_rest_nil stopped]
    rfl
  | case2 lexer fault offset failed =>
    rw [pieces_of_failed failed, run_of_failed failed]
    rfl
  | case3 lexer token next taken ih =>
    obtain ⟨⟨source, _, split⟩, _⟩ := next_source taken
    rw [pieces_of_next taken split, run_of_next taken, List.map_cons, ih]

theorem source_of_mem_pieces {piece : Piece} (member : piece ∈ lexer.pieces) :
    piece.token.Source piece.source := by
  induction lexer using Lexer.run.induct with
  | case1 lexer ended => simp [pieces_of_rest_nil (next_eq_finished_iff.1 ended)] at member
  | case2 lexer fault offset failed => simp [pieces_of_failed failed] at member
  | case3 lexer token next taken ih =>
    obtain ⟨⟨source, written, split⟩, _⟩ := next_source taken
    rw [pieces_of_next taken split, List.mem_cons] at member
    rcases member with rfl | later
    · exact written
    · exact ih later

theorem flatMap_source_pieces {offset : Nat} (ended : lexer.run.ending = .finished offset) :
    lexer.pieces.flatMap Piece.source = lexer.rest := by
  induction lexer using Lexer.run.induct with
  | case1 lexer finished =>
    have stopped := next_eq_finished_iff.1 finished
    rw [pieces_of_rest_nil stopped, stopped]
    rfl
  | case2 lexer fault offset failed =>
    rw [run_of_failed failed] at ended
    contradiction
  | case3 lexer token next taken ih =>
    obtain ⟨⟨source, _, split⟩, _⟩ := next_source taken
    rw [run_of_next taken] at ended
    rw [pieces_of_next taken split, List.flatMap_cons, ih ended, split]

end Lexer

theorem Token.Source.getLast?_of_isTag {token : Token} {source : List Char}
    (h : token.Source source) (tag : token.isTag = true) : source.getLast? = some '>' := by
  cases token with
  | startTag | emptyTag =>
    rw [h, List.getLast?_append]
    rfl
  | endTag name =>
    obtain ⟨blanks, -, rfl⟩ := h
    rw [List.getLast?_concat]
  | _ => contradiction

namespace Piece

def isTag (piece : Piece) : Bool :=
  piece.token.isTag

def beforeRoot (pieces : List Piece) : List Piece :=
  pieces.takeWhile (!·.isTag)

def throughRoot (pieces : List Piece) : List Piece :=
  (pieces.reverse.dropWhile (!·.isTag)).reverse

def afterRoot (pieces : List Piece) : List Piece :=
  (pieces.reverse.takeWhile (!·.isTag)).reverse

theorem throughRoot_append_afterRoot (pieces : List Piece) :
    throughRoot pieces ++ afterRoot pieces = pieces := by
  rw [throughRoot, afterRoot, ← List.reverse_append, List.takeWhile_append_dropWhile,
    List.reverse_reverse]

theorem throughRoot_append {front back : List Piece}
    (untagged : ∀ piece ∈ back, piece.isTag = false) :
    throughRoot (front ++ back) = throughRoot front := by
  have skipped : ∀ piece ∈ back.reverse, (!piece.isTag) = true := by
    simpa using untagged
  rw [throughRoot, List.reverse_append, List.dropWhile_append_of_pos skipped, throughRoot]

variable {pieces : List Piece} {prolog body epilog : List Token}

theorem map_token_beforeRoot (layout : Layout (pieces.map (·.token)) prolog body epilog) :
    (beforeRoot pieces).map (·.token) = prolog := by
  have skipped : ∀ token ∈ prolog, (!token.isTag) = true := by
    simpa using layout.prolog_untagged
  obtain ⟨first, rest, body_eq, tag⟩ := layout.element.exists_cons
  have taken : (pieces.map (·.token)).takeWhile (!·.isTag) = prolog := by
    rw [layout.split, List.append_assoc, List.takeWhile_append_of_pos skipped, body_eq]
    simp [tag]
  rw [List.takeWhile_map] at taken
  exact taken

theorem map_token_afterRoot (layout : Layout (pieces.map (·.token)) prolog body epilog) :
    (afterRoot pieces).map (·.token) = epilog := by
  have skipped : ∀ token ∈ epilog.reverse, (!token.isTag) = true := by
    simpa using layout.epilog_untagged
  have taken : (pieces.map (·.token)).reverse.takeWhile (!·.isTag) = epilog.reverse := by
    rw [layout.split, List.reverse_append, List.takeWhile_append_of_pos skipped]
    cases layout.element <;> simp [Token.isTag]
  rw [← List.map_reverse, List.takeWhile_map] at taken
  rw [afterRoot, List.map_reverse, List.reverse_eq_iff]
  exact taken

theorem map_token_throughRoot (layout : Layout (pieces.map (·.token)) prolog body epilog) :
    (throughRoot pieces).map (·.token) = prolog ++ body := by
  have whole := congrArg (List.map (·.token)) (throughRoot_append_afterRoot pieces)
  rw [List.map_append, map_token_afterRoot layout, layout.split] at whole
  exact List.append_cancel_right whole

end Piece

namespace Document

def markOf (text : List Char) : List Char :=
  match text with
  | '\ufeff' :: _ => ['\ufeff']
  | _ => []

theorem markOf_append_dropMark (text : List Char) : markOf text ++ dropMark text = text := by
  cases text with
  | nil => rfl
  | cons c rest =>
    by_cases mark : c = '\ufeff'
    · subst mark
      rfl
    · simp [markOf, dropMark, mark]

theorem mem_markOf {text : List Char} {c : Char} (h : c ∈ markOf text) : c = '\ufeff' := by
  unfold markOf at h
  split at h
  · exact List.mem_singleton.1 h
  · contradiction

/-- The marks that reading skips: one before it begins, and one more that the lexer drops. -/
def marks (text : String) : List Char :=
  markOf text.toList ++ markOf (dropMark text.toList)

def pieces (text : String) : List Piece :=
  (Lexer.start (dropMark text.toList)).pieces

theorem map_token_pieces (text : String) : (pieces text).map (·.token) = tokens text := by
  rw [tokens, lex, ← Lexer.map_toLocated_pieces, List.map_map]
  rfl

theorem marks_append_pieces {text : String} (whole : Tokenizes text) :
    marks text ++ (pieces text).flatMap Piece.source = text.toList := by
  obtain ⟨offset, ended⟩ := whole
  rw [pieces, Lexer.flatMap_source_pieces ended, start_eq, marks, List.append_assoc,
    markOf_append_dropMark, markOf_append_dropMark]

end Document
end Schematron.Xml
