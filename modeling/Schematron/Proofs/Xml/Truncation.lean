import Schematron.Proofs.Xml.Frontier
import Schematron.Proofs.Xml.Place

/-!
What belongs to a document is told from its text alone. Every token is taken with the line of its
position, which white space behind the text does not change, and white space after the root is taken
without a trace.
-/
namespace Schematron.Xml

namespace Lexer

theorem rising_offsets (lexer : Lexer) :
    (lexer.position :: lexer.pieces.map (·.offset)).Pairwise (· ≤ ·) := by
  induction lexer using Lexer.run.induct with
  | case1 lexer ended => simp [pieces_of_rest_nil (next_eq_finished_iff.1 ended)]
  | case2 lexer fault offset failed => simp [pieces_of_failed failed]
  | case3 lexer token next taken ih =>
    obtain ⟨source, -, split, moved, -⟩ := next_stretch taken
    rw [pieces_of_next taken split, List.map_cons, List.pairwise_cons, List.forall_mem_cons]
    rw [List.pairwise_cons] at ih
    have later : ∀ offset ∈ next.pieces.map (·.offset), lexer.position ≤ offset := by
      intro offset member
      have reached := ih.1 offset member
      omega
    exact ⟨⟨Nat.le_refl _, later⟩, List.pairwise_cons.2 ⟨later, ih.2⟩⟩

theorem offset_lt {lexer : Lexer} {piece : Piece} (member : piece ∈ lexer.pieces) :
    piece.offset < lexer.position + Utf8.size lexer.rest := by
  induction lexer using Lexer.run.induct with
  | case1 lexer ended => simp [pieces_of_rest_nil (next_eq_finished_iff.1 ended)] at member
  | case2 lexer fault offset failed => simp [pieces_of_failed failed] at member
  | case3 lexer token next taken ih =>
    obtain ⟨source, -, split, moved, -⟩ := next_stretch taken
    rw [pieces_of_next taken split, List.mem_cons] at member
    rcases member with rfl | later
    · have shorter := length_next_lt taken
      cases text : lexer.rest with
      | nil => simp [text] at shorter
      | cons c rest =>
        have wide := c.utf8Size_pos
        simp only [Utf8.size]
        omega
    · have reached := ih later
      rw [split, Utf8.size_append]
      omega

end Lexer

theorem lineOf_append {bytes : List UInt8} {offset : Nat} (within : offset < bytes.length)
    (more : List UInt8) : lineOf (bytes ++ more) offset = lineOf bytes offset := by
  rw [lineOf, lineOf]
  congr 1
  induction bytes generalizing offset with
  | nil => contradiction
  | cons b bytes ih =>
    cases offset with
    | zero => rfl
    | succ offset =>
      rw [List.length_cons, Nat.add_lt_add_iff_right] at within
      have next : (bytes ++ more).head? = bytes.head? := by
        cases bytes with
        | nil => contradiction
        | cons d bytes => rfl
      rw [List.cons_append, lineEnds, lineEnds, ih within, endsLine, endsLine, next]

section Blank

variable {raw blanks : List Char}

theorem occursIn_append_blank (blank : Blank blanks)
    (occurs : Text.occursIn [']', ']', '>'] (raw ++ blanks) = true) :
    Text.occursIn [']', ']', '>'] raw = true := by
  rw [Text.occursIn_iff] at occurs ⊢
  obtain ⟨before, after, split⟩ := occurs
  rcases List.append_eq_append_iff.1 split with ⟨lost, whole, rest⟩ | ⟨kept, whole, -⟩
  · cases lost using List.reverseRecOn with
    | nil => exact ⟨before, [], by rw [List.append_nil, whole, List.append_nil]⟩
    | append_singleton lost c =>
      have last := congrArg List.getLast? whole
      rw [List.getLast?_append, ← List.append_assoc, List.getLast?_concat] at last
      have bracket := blank c (by simp [rest])
      rw [← Option.some.inj last] at bracket
      contradiction
  · exact ⟨before, kept, whole⟩

theorem checkText_append (h : checkText raw = .ok ()) (blank : Blank blanks) :
    checkText (raw ++ blanks) = .ok () := by
  have chars : checkChars (raw ++ blanks) = .ok () :=
    checkChars_append_iff.2 ⟨checkChars_of_text h, checkChars_of_blank blank⟩
  unfold checkText at h ⊢
  split at h
  · contradiction
  next absent => rw [if_neg fun occurs => absent (occursIn_append_blank blank occurs), chars]

theorem Token.sound_text_append (h : (Token.text raw).Sound) (blank : Blank blanks) :
    (Token.text (raw ++ blanks)).Sound := by
  obtain ⟨checked, resolved, read⟩ := h
  have plain : '&' ∉ blanks := fun member => absurd (blank _ member) (by decide)
  refine ⟨checkText_append checked blank, resolved ++ blanks, unescape_eq_ok_iff.2 ?_⟩
  exact (unescape_eq_ok_iff.1 read).append (resolves_of_not_mem plain)

theorem Token.standsOutside_text_append (sound : (Token.text raw).Sound)
    (h : (Token.text raw).StandsOutside) (blank : Blank blanks) :
    (Token.text (raw ++ blanks)).StandsOutside := by
  obtain ⟨-, resolved, read⟩ := sound
  have plain : '&' ∉ blanks := fun member => absurd (blank _ member) (by decide)
  have whole := (unescape_eq_ok_iff.1 read).append (resolves_of_not_mem plain)
  intro other found
  rw [(unescape_eq_ok_iff.1 found).unique whole, List.all_append, h resolved read, Bool.true_and,
    List.all_eq_true]
  exact fun c member =>
    Text.isBlank_of_isAsciiBlank (Text.isAsciiBlank_of_isXmlBlank (blank c member))

end Blank

namespace Builder

variable {builder after : Builder} {raw blanks : List Char} {numbered : Bool} {line : Nat}

theorem step_text_iff :
    builder.step numbered (line, .text raw) = .ok after ↔ builder.feed (.text raw) = .ok after := by
  have same : builder.take numbered line (.text raw) = builder.take false 0 (.text raw) := rfl
  simp only [step, feed, same]
  cases builder.take false 0 (.text raw) <;> simp [Except.map]

theorem feed_text_append (taken : builder.feed (.text raw) = .ok after)
    (closed : after.openElements = []) (blank : Blank blanks) :
    builder.feed (.text (raw ++ blanks)) = .ok after := by
  obtain ⟨sound, -, -, outside, rfl⟩ := (feed_leaf_iff rfl).1 taken
  have outer := grow_eq_nil_iff.1 closed
  refine (feed_leaf_iff rfl).2 ⟨Token.sound_text_append sound blank, nofun, nofun, fun _ => ?_, ?_⟩
  · exact Token.standsOutside_text_append sound (outside outer) blank
  · rw [outer]
    rfl

theorem feed_blank (closed : builder.openElements = []) (blank : Blank blanks) :
    builder.feed (.text blanks) = .ok { builder with started := true } := by
  have nothing : builder.feed (.text []) = .ok { builder with started := true } := by
    refine (feed_leaf_iff rfl).2 ⟨⟨rfl, [], rfl⟩, nofun, nofun, fun _ resolved read => ?_, ?_⟩
    · cases read
      rfl
    · simp [closed, grow, Token.isDoctype]
  exact feed_text_append nothing closed blank

theorem foldlM_ofPlain_append {position : Nat} {line : Piece → Nat}
    (taken : ((Piece.ofPlain position raw).map fun piece => (line piece, piece.token)).foldlM
      (step numbered) builder = .ok after)
    (closed : after.openElements = []) (blank : Blank blanks) (line' : Piece → Nat) :
    ∃ final,
      ((Piece.ofPlain position (raw ++ blanks)).map fun piece => (line' piece, piece.token)).foldlM
        (step numbered) builder = .ok final ∧
      final.openElements = [] ∧ final.root = after.root := by
  unfold Piece.ofPlain at taken ⊢
  by_cases begun : raw = []
  · subst begun
    cases taken
    by_cases nothing : blanks = []
    · subst nothing
      exact ⟨_, rfl, closed, rfl⟩
    · refine ⟨{ builder with started := true }, ?_, closed, rfl⟩
      simp [nothing, step_text_iff.2 (feed_blank closed blank)]
  · rw [if_neg begun] at taken
    simp only [List.map_cons, List.map_nil, List.foldlM_cons, List.foldlM_nil, bind_pure,
      step_text_iff] at taken
    refine ⟨after, ?_, closed, rfl⟩
    simp [begun, step_text_iff.2 (feed_text_append taken closed blank)]

end Builder

namespace Document

variable {text : String} {numbered : Bool} {document : Document}

theorem offset_lt {piece : Piece} (member : piece ∈ pieces text) :
    piece.offset < (Utf8.encode (dropMark text.toList)).length := by
  rw [pieces_eq] at member
  have within := Lexer.offset_lt member
  have sizes := congrArg Utf8.size (markOf_append_dropMark (dropMark text.toList))
  rw [Utf8.size_append] at sizes
  rw [Utf8.length_encode]
  simp only [unmarked] at within
  omega

theorem numberTokens_pieces (text : String) :
    (numberTokens (.start (Utf8.encode (dropMark text.toList)))
        (lex (dropMark text.toList)).tokens).1 =
      (pieces text).map fun piece =>
        (lineOf (Utf8.encode (dropMark text.toList)) piece.offset, piece.token) := by
  have located : (lex (dropMark text.toList)).tokens = (pieces text).map Piece.toLocated := by
    rw [lex, ← Lexer.map_toLocated_pieces, pieces]
  have rising := Lexer.rising_offsets ⟨0, [], unmarked text⟩
  have within : ∀ found ∈ (pieces text).map Piece.toLocated,
      found.offset ≤ (Utf8.encode (dropMark text.toList)).length := by
    rw [List.forall_mem_map]
    exact fun piece member => Nat.le_of_lt (offset_lt member)
  rw [← pieces_eq] at rising
  rw [located, (numberTokens_eq (LineCounter.counts_start _) (by rwa [List.map_map]) within).1,
    List.map_map]
  rfl

theorem parse_eq_ok_iff :
    parse text numbered = .ok document ↔
      Tokenizes text ∧
        (∃ builder,
          ((pieces text).map fun piece =>
            (lineOf (Utf8.encode (dropMark text.toList)) piece.offset, piece.token)).foldlM
              (Builder.step numbered) Builder.empty = .ok builder ∧
          builder.finish = .ok document.root) ∧ document.baseUri = none := by
  obtain ⟨baseUri, root⟩ := document
  simp only [parse, ofText, map_eq_ok_iff, rootOfLexed, bind_eq_ok_iff, numberTokens_pieces,
    Tokenizes, ofRoot]
  cases (lex (dropMark text.toList)).ending with
  | failed => simp
  | finished => simp [@eq_comm _ none baseUri]

theorem parse_append_blank (h : parse text numbered = .ok document) {blanks : String}
    (blank : Blank blanks.toList) : parse (text ++ blanks) numbered = .ok document := by
  obtain ⟨front, last, frontier⟩ := exists_frontier h
  obtain ⟨pieces_append, ends⟩ := frontier.onward blanks
  have plain : '<' ∉ (last.moved 0 blanks.toList).rest := by
    rw [Lexer.moved, List.mem_append, not_or]
    exact ⟨frontier.plain, fun member => absurd (blank _ member) (by decide)⟩
  have same : dropMark (text ++ blanks).toList = dropMark text.toList ++ blanks.toList := by
    rw [String.toList_append, dropMark_append]
    exact ne_nil_of_dropMark (ne_nil_of_dropMark (unmarked_ne_nil h))
  have lines : front.map (fun piece =>
      (lineOf (Utf8.encode (dropMark (text ++ blanks).toList)) piece.offset, piece.token)) =
      front.map (fun piece =>
        (lineOf (Utf8.encode (dropMark text.toList)) piece.offset, piece.token)) := by
    refine List.map_congr_left fun piece member => ?_
    have kept : piece ∈ pieces text := by
      rw [frontier.split]
      exact List.mem_append_left _ member
    rw [same, Utf8.encode, List.flatMap_append]
    exact congrArg (·, piece.token) (lineOf_append (offset_lt kept) _)
  obtain ⟨-, ⟨builder, taken, finished⟩, unplaced⟩ := parse_eq_ok_iff.1 h
  obtain ⟨closed, rooted⟩ := Builder.finish_iff.1 finished
  rw [frontier.split, (Lexer.pieces_of_plain frontier.plain).1, List.map_append,
    List.foldlM_append, bind_eq_ok_iff] at taken
  obtain ⟨reached, entering, leaving⟩ := taken
  obtain ⟨after, taken, closed', rooted'⟩ :=
    Builder.foldlM_ofPlain_append leaving closed blank
      (fun piece => lineOf (Utf8.encode (dropMark (text ++ blanks).toList)) piece.offset)
  refine parse_eq_ok_iff.2 ⟨ends.2 (Lexer.pieces_of_plain plain).2, ⟨after, ?_, ?_⟩, unplaced⟩
  · rw [pieces_append, (Lexer.pieces_of_plain plain).1, List.map_append, List.foldlM_append, lines,
      entering]
    exact taken
  · exact Builder.finish_iff.2 ⟨closed', rooted'.trans rooted⟩

/-- A text that is read is a complete document and no more than one: cut anywhere before the angle
bracket that ends its root it is refused, white space behind it changes nothing, and another
document behind it makes it refused. -/
theorem complete_of_parse (h : parse text numbered = .ok document) :
    (∃ after, text.toList = throughRoot text ++ after ∧
      (throughRoot text).getLast? = some '>') ∧
    (∀ cut : String, cut.toList <+: throughRoot text → cut.toList ≠ throughRoot text →
      ∀ numbered', ∃ error, parse cut numbered' = .error error) ∧
    (∀ blanks : String, Blank blanks.toList → parse (text ++ blanks) numbered = .ok document) ∧
    ∀ (other : String) (numbered' : Bool) (document' : Document),
      parse other numbered' = .ok document' →
        ∀ joined, ∃ error, parse (text ++ other) joined = .error error := by
  refine ⟨throughRoot_split h, ?cut, ?blank, ?joined⟩
  case cut => exact fun cut front unfinished => parse_cut h front unfinished
  case blank => exact fun blanks blank => parse_append_blank h blank
  case joined => exact fun other numbered' document' h' => parse_append_document h h'

theorem complete_of_parse_nested :
    ∃ document, parse "\ufeff<a b='>'>c<d/></a><!--e-->" true = .ok document ∧
      throughRoot "\ufeff<a b='>'>c<d/></a><!--e-->" = "\ufeff<a b='>'>c<d/></a>".toList ∧
      (∃ error, parse "\ufeff<a b='>'>c<d/>" true = .error error) ∧
      parse "\ufeff<a b='>'>c<d/></a><!--e-->\r\n" true = .ok document ∧
      ∃ error, parse "\ufeff<a b='>'>c<d/></a><!--e--><f/>" true = .error error := by
  have read : parse "\ufeff<a b='>'>c<d/></a><!--e-->" true = .ok (ofRoot ⟨"a", [("b", ">")],
      [.text "c", .element ⟨"d", [], [], some 1⟩], some 1⟩) := by decide +kernel
  have other : parse "<f/>" false = .ok (ofRoot ⟨"f", [], [], none⟩) := by decide +kernel
  have ended : throughRoot "\ufeff<a b='>'>c<d/></a><!--e-->" =
      "\ufeff<a b='>'>c<d/></a>".toList := by decide +kernel
  obtain ⟨-, cut, blank, joined⟩ := complete_of_parse read
  rw [ended] at cut
  refine ⟨_, read, ended, ?_, ?_, ?_⟩
  · exact cut "\ufeff<a b='>'>c<d/>" (by decide) (by decide) true
  · exact blank "\r\n" (List.all_eq_true.1 (by decide))
  · exact joined "<f/>" false _ other true

end Document
end Schematron.Xml
