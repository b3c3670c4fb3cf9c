import Schematron.Proofs.Xml.Extending
import Schematron.Proofs.Xml.Nesting

/-!
Reading a longer text goes through the pieces of a document as before and comes with no tag open to
the text that the document may end with. If the longer text is a document too, its root is the one
it was, since no element is the beginning of another; so no tag may follow.
-/
namespace Schematron.Xml

theorem IsElement.exists_concat {body : List Token} (h : IsElement body) :
    ∃ front last, body = front ++ [last] ∧ last.isTag = true := by
  cases h with
  | empty content => exact ⟨[], _, rfl, rfl⟩
  | nested inner => exact ⟨_, _, rfl, rfl⟩

theorem Content.of_untagged {tokens : List Token} (h : ∀ token ∈ tokens, token.isTag = false) :
    Content tokens := by
  induction tokens with
  | nil => exact .nil
  | cons token rest ih =>
    rw [List.forall_mem_cons] at h
    exact .leaf h.1 (ih h.2)

namespace Layout

variable {tokens prolog body epilog : List Token}

theorem content (h : Layout tokens prolog body epilog) : Content tokens := by
  rw [h.split]
  exact ((Content.of_untagged h.prolog_untagged).append h.element.content).append
    (.of_untagged h.epilog_untagged)

theorem cut {more : List Token} (h : Layout (tokens ++ more) prolog body epilog)
    (untagged : ∀ token ∈ more, token.isTag = false) :
    ∃ epilog', Layout tokens prolog body epilog' := by
  obtain ⟨inner, last, body_eq, tag⟩ := h.element.exists_concat
  rcases List.append_eq_append_iff.1 h.split with ⟨lost, whole, more_eq⟩ | ⟨kept, whole, rest⟩
  · cases lost using List.reverseRecOn with
    | nil =>
      rw [List.append_nil] at whole
      exact ⟨[], by rw [List.append_nil, whole], h.element, h.prolog_untagged, by simp⟩
    | append_singleton lost final =>
      rw [body_eq, ← List.append_assoc, ← List.append_assoc, List.append_singleton_inj] at whole
      have stray := untagged final (by simp [more_eq])
      rw [← whole.2, tag] at stray
      contradiction
  · refine ⟨kept, whole, h.element, h.prolog_untagged, fun token member => ?_⟩
    exact h.epilog_untagged token (by rw [rest]; exact List.mem_append_left _ member)

theorem untagged_of_append {more prolog' body' epilog' : List Token}
    (h : Layout tokens prolog body epilog) (h' : Layout (tokens ++ more) prolog' body' epilog') :
    ∀ token ∈ more, token.isTag = false := by
  have started := h'.dropWhile_eq
  have skipped : ∀ token ∈ prolog, (!token.isTag) = true := by
    simpa using h.prolog_untagged
  obtain ⟨first, rest, body_eq, tag⟩ := h.element.exists_cons
  rw [h.split, List.append_assoc, List.append_assoc,
    List.dropWhile_append_of_pos skipped] at started
  have kept : (body ++ (epilog ++ more)).dropWhile (!·.isTag) = body ++ (epilog ++ more) := by
    rw [body_eq]
    simp [tag]
  rw [kept] at started
  obtain ⟨-, behind⟩ := h.element.eq_of_append_eq h'.element started
  intro token member
  exact h'.epilog_untagged token (behind ▸ List.mem_append_right _ member)

end Layout

namespace Document

variable {text more : String} {numbered : Bool} {document : Document}

theorem dropMark_append {text : List Char} (some : text ≠ []) (more : List Char) :
    dropMark (text ++ more) = dropMark text ++ more := by
  cases text with
  | nil => contradiction
  | cons c rest =>
    by_cases mark : c = '\ufeff'
    · subst mark
      rfl
    · simp [dropMark, mark]

theorem markOf_append {text : List Char} (some : text ≠ []) (more : List Char) :
    markOf (text ++ more) = markOf text := by
  cases text with
  | nil => contradiction
  | cons c rest =>
    by_cases mark : c = '\ufeff'
    · subst mark
      rfl
    · simp [markOf, mark]

def unmarked (text : String) : List Char :=
  dropMark (dropMark text.toList)

theorem ne_nil_of_dropMark {text : List Char} (some : dropMark text ≠ []) : text ≠ [] := by
  rintro rfl
  exact some rfl

theorem unmarked_append (some : unmarked text ≠ []) (more : String) :
    unmarked (text ++ more) = unmarked text ++ more.toList := by
  have marked := ne_nil_of_dropMark some
  rw [unmarked, String.toList_append, dropMark_append (ne_nil_of_dropMark marked),
    dropMark_append marked, unmarked]

theorem marks_append (some : unmarked text ≠ []) (more : String) :
    marks (text ++ more) = marks text := by
  have marked := ne_nil_of_dropMark some
  have begun := ne_nil_of_dropMark marked
  rw [marks, String.toList_append, dropMark_append begun, markOf_append begun,
    markOf_append marked, marks]

theorem pieces_eq (text : String) : pieces text = (⟨0, [], unmarked text⟩ : Lexer).pieces := by
  rw [pieces, start_eq, unmarked]

theorem tokenizes_iff :
    Tokenizes text ↔
      ∃ offset, (⟨0, [], unmarked text⟩ : Lexer).run.ending = .finished offset := by
  rw [Tokenizes, lex, start_eq, unmarked]

theorem exists_layout (h : parse text numbered = .ok document) :
    ∃ prolog body epilog, Layout ((pieces text).map (·.token)) prolog body epilog := by
  obtain ⟨_, accepted⟩ := (exists_parse_iff numbered).1 ⟨document, h⟩
  obtain ⟨prolog, body, epilog, layout, _⟩ := accepted.single_root
  rw [← map_token_pieces] at layout
  exact ⟨prolog, body, epilog, layout⟩

theorem unmarked_ne_nil (h : parse text numbered = .ok document) : unmarked text ≠ [] := by
  intro nothing
  obtain ⟨prolog, body, epilog, layout⟩ := exists_layout h
  obtain ⟨first, rest, body_eq, _⟩ := layout.element.exists_cons
  have split := layout.split
  rw [pieces_eq, Lexer.pieces_of_rest_nil nothing, body_eq] at split
  simp at split

/-- How far a document has been read for good: up to the text that it may end with. -/
structure Frontier (text : String) (front : List Piece) (last : Lexer) : Prop where
  plain : '<' ∉ last.rest
  closed : last.openNames = []
  split : pieces text = front ++ last.pieces
  layout : ∃ prolog body epilog, Layout (front.map (·.token)) prolog body epilog
  onward : ∀ more : String,
    pieces (text ++ more) = front ++ (last.moved 0 more.toList).pieces ∧
      (Tokenizes (text ++ more) ↔
        ∃ offset, (last.moved 0 more.toList).run.ending = .finished offset)

theorem exists_frontier (h : parse text numbered = .ok document) :
    ∃ front last, Frontier text front last := by
  obtain ⟨offset, ended⟩ := tokenizes_iff.1 ((exists_parse_iff numbered).1 ⟨document, h⟩).1
  obtain ⟨front, last, plain, split, names, onward⟩ := Lexer.exists_pieces_append ended
  rw [← pieces_eq] at split
  obtain ⟨prolog, body, epilog, layout⟩ := exists_layout h
  rw [split, List.map_append] at layout
  have untagged : ∀ token ∈ last.pieces.map (·.token), token.isTag = false := by
    rw [(Lexer.pieces_of_plain plain).1, List.forall_mem_map]
    exact fun piece member => Piece.isTag_of_mem_ofPlain member
  obtain ⟨epilog, layout⟩ := layout.cut untagged
  refine ⟨front, last, plain, layout.content.openNames_eq names, split, ⟨_, _, _, layout⟩, ?_⟩
  intro more
  obtain ⟨pieces, ending⟩ := onward more.toList
  have whole : (⟨0, [], unmarked (text ++ more)⟩ : Lexer) =
      (⟨0, [], unmarked text⟩ : Lexer).moved 0 more.toList := by
    rw [unmarked_append (unmarked_ne_nil h), Lexer.moved]
  rw [pieces_eq, tokenizes_iff, whole, pieces, ending]
  exact ⟨rfl, Iff.rfl⟩

theorem Frontier.untagged {front : List Piece} {last : Lexer} (frontier : Frontier text front last)
    (h : parse (text ++ more) numbered = .ok document) :
    ∀ piece ∈ (last.moved 0 more.toList).pieces, piece.isTag = false := by
  obtain ⟨prolog, body, epilog, layout⟩ := frontier.layout
  obtain ⟨prolog', body', epilog', layout'⟩ := exists_layout h
  rw [(frontier.onward more).1, List.map_append] at layout'
  have untagged := layout.untagged_of_append layout'
  rw [List.forall_mem_map] at untagged
  exact untagged

def throughRoot (text : String) : List Char :=
  marks text ++ (Piece.throughRoot (pieces text)).flatMap Piece.source

theorem throughRoot_split (h : parse text numbered = .ok document) :
    ∃ after, text.toList = throughRoot text ++ after ∧
      (throughRoot text).getLast? = some '>' := by
  refine ⟨(Piece.afterRoot (pieces text)).flatMap Piece.source, ?_, ?_⟩
  · rw [throughRoot, List.append_assoc, ← List.flatMap_append, Piece.throughRoot_append_afterRoot]
    exact (marks_append_pieces ((exists_parse_iff numbered).1 ⟨document, h⟩).1).symm
  · obtain ⟨prolog, body, epilog, layout⟩ := exists_layout h
    obtain ⟨inner, last, body_eq, tag⟩ := layout.element.exists_concat
    have tokens := Piece.map_token_throughRoot layout
    rw [body_eq, ← List.append_assoc, List.map_eq_append_iff] at tokens
    obtain ⟨front, back, split, -, ends⟩ := tokens
    obtain ⟨piece, rfl, rfl⟩ := List.map_eq_singleton_iff.1 ends
    have member : piece ∈ pieces text := by
      rw [← Piece.throughRoot_append_afterRoot (pieces text), split]
      simp
    have bracket := (Lexer.source_of_mem_pieces member).getLast?_of_isTag tag
    rw [throughRoot, split, List.flatMap_append, List.flatMap_singleton, ← List.append_assoc,
      List.getLast?_append, bracket]
    rfl

theorem parse_cut (h : parse text numbered = .ok document) {cut : String}
    (front : cut.toList <+: throughRoot text) (unfinished : cut.toList ≠ throughRoot text)
    (numbered' : Bool) : ∃ error, parse cut numbered' = .error error := by
  cases read : parse cut numbered' with
  | error error => exact ⟨error, rfl⟩
  | ok other =>
    obtain ⟨after, whole, -⟩ := throughRoot_split h
    obtain ⟨rest, split⟩ := front.trans ⟨after, whole.symm⟩
    obtain rfl : text = cut ++ String.ofList rest := by
      rw [← String.toList_inj, ← split, String.toList_append, String.toList_ofList]
    obtain ⟨begun, last, frontier⟩ := exists_frontier read
    -- The root ends in the cut text already.
    have ended : Piece.throughRoot (pieces (cut ++ String.ofList rest)) =
        Piece.throughRoot begun := by
      rw [(frontier.onward _).1]
      exact Piece.throughRoot_append (frontier.untagged h)
    have within : throughRoot (cut ++ String.ofList rest) <+: cut.toList := by
      have pieces_cut := marks_append_pieces ((exists_parse_iff numbered').1 ⟨other, read⟩).1
      rw [frontier.split, ← Piece.throughRoot_append_afterRoot begun, List.append_assoc,
        List.flatMap_append, ← List.append_assoc] at pieces_cut
      rw [throughRoot, ended, marks_append (unmarked_ne_nil read)]
      exact ⟨_, pieces_cut⟩
    exact absurd (front.eq_of_length (Nat.le_antisymm front.length_le within.length_le)) unfinished

theorem exists_tag (h : parse text numbered = .ok document) :
    ∃ piece ∈ pieces text, piece.isTag = true := by
  obtain ⟨prolog, body, epilog, layout⟩ := exists_layout h
  obtain ⟨first, rest, body_eq, tag⟩ := layout.element.exists_cons
  have listed : first ∈ (pieces text).map (·.token) := by simp [layout.split, body_eq]
  obtain ⟨piece, member, rfl⟩ := List.mem_map.1 listed
  exact ⟨piece, member, tag⟩

theorem exists_tag_behind (h : parse text numbered = .ok document) {plain : List Char}
    (unopened : '<' ∉ plain) (position : Nat) :
    ∃ piece ∈ (⟨position, [], plain ++ text.toList⟩ : Lexer).pieces, piece.isTag = true := by
  obtain ⟨whole, inside, stop⟩ := Text.span_iff.1
    ⟨Eq.refl ((unmarked text).takeWhile (· != '<')), Eq.refl ((unmarked text).dropWhile (· != '<'))⟩
  generalize (unmarked text).takeWhile (· != '<') = raw at *
  generalize (unmarked text).dropWhile (· != '<') = rest at *
  have markup : ∀ c ∈ rest.head?, c = '<' := fun c head => by simpa using stop c head
  have bare : '<' ∉ raw := fun member => by simpa using inside _ member
  have unopened' : '<' ∉ plain ++ (marks text ++ raw) := by
    simp only [marks, List.mem_append, not_or]
    exact ⟨unopened, ⟨fun member => absurd (mem_markOf member) (by decide),
      fun member => absurd (mem_markOf member) (by decide)⟩, bare⟩
  have same : plain ++ text.toList = plain ++ (marks text ++ raw) ++ rest := by
    rw [List.append_assoc, List.append_assoc, ← whole, marks, unmarked, List.append_assoc,
      markOf_append_dropMark, markOf_append_dropMark]
  obtain ⟨alone, ending⟩ := Lexer.pieces_plain_append bare markup 0 []
  have behind := (Lexer.pieces_plain_append unopened' markup position []).1
  obtain ⟨offset, ended⟩ := tokenizes_iff.1 ((exists_parse_iff numbered).1 ⟨document, h⟩).1
  rw [whole, ending] at ended
  have moved : (⟨position + Utf8.size (plain ++ (marks text ++ raw)), [], rest⟩ : Lexer) =
      (⟨0 + Utf8.size raw, [], rest⟩ : Lexer).moved
        (position + Utf8.size plain + Utf8.size (marks text)) [] := by
    simp only [Lexer.moved, Utf8.size_append, List.append_nil, Lexer.mk.injEq, and_true]
    omega
  obtain ⟨piece, member, tag⟩ := exists_tag h
  rw [pieces_eq, whole, alone, List.mem_append] at member
  rcases member with text_piece | later
  · rw [Piece.isTag_of_mem_ofPlain text_piece] at tag
    contradiction
  · have listed := List.mem_map_of_mem (f := (·.token)) later
    rw [← Lexer.map_token_pieces_moved ended, ← moved] at listed
    obtain ⟨other, member, equal⟩ := List.mem_map.1 listed
    refine ⟨other, ?_, ?_⟩
    · rw [same, behind]
      exact List.mem_append_right _ member
    · rw [Piece.isTag, equal]
      exact tag

theorem parse_append_document (h : parse text numbered = .ok document) {other : String}
    {numbered' : Bool} {document' : Document} (h' : parse other numbered' = .ok document')
    (joined : Bool) : ∃ error, parse (text ++ other) joined = .error error := by
  cases read : parse (text ++ other) joined with
  | error error => exact ⟨error, rfl⟩
  | ok whole =>
    obtain ⟨front, last, frontier⟩ := exists_frontier h
    obtain ⟨piece, member, tag⟩ := exists_tag_behind h' frontier.plain last.position
    have stray := frontier.untagged read piece (by rwa [Lexer.moved, frontier.closed])
    rw [tag] at stray
    contradiction

end Document
end Schematron.Xml
