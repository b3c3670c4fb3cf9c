import Schematron.Proofs.Xml.Pieces

/-!
Character data outside the root is judged after its references are resolved and by the Unicode
property of being blank, and a second byte order mark is skipped.
-/
namespace Schematron.Xml

def Piece.characterData (piece : Piece) : List Char :=
  match piece.token with
  | .text _ | .cdata _ => piece.source
  | _ => []

namespace Document

def outerText (text : String) : List Char :=
  (Piece.beforeRoot (pieces text) ++ Piece.afterRoot (pieces text)).flatMap Piece.characterData

/-- What is left of a text without one byte order mark, the root, and all declarations, comments and
instructions around it. -/
def surroundings (text : String) : List Char :=
  markOf (dropMark text.toList) ++ outerText text

end Document

structure Bare (data : List Char) : Prop where
  resolves : ∃ resolved, Resolves data resolved ∧ resolved.all Text.isBlank = true
  chars : ∀ c ∈ data, isXmlChar c = true

theorem bare_nil : Bare [] :=
  ⟨⟨[], .nil, rfl⟩, by simp⟩

theorem Bare.append {first second : List Char} (h : Bare first) (h' : Bare second) :
    Bare (first ++ second) := by
  obtain ⟨resolved, resolves, blank⟩ := h.resolves
  obtain ⟨resolved', resolves', blank'⟩ := h'.resolves
  refine ⟨⟨resolved ++ resolved', resolves.append resolves', ?_⟩, ?_⟩
  · rw [List.all_append, blank, blank']
    rfl
  · exact List.forall_mem_append.2 ⟨h.chars, h'.chars⟩

theorem Piece.bare_characterData {piece : Piece} (written : piece.token.Source piece.source)
    (sound : piece.token.Sound) (outside : piece.token.StandsOutside) :
    Bare piece.characterData := by
  obtain ⟨⟨offset, token⟩, source⟩ := piece
  cases token with
  | text raw =>
    obtain rfl : source = raw := written
    obtain ⟨checked, resolved, read⟩ := sound
    exact ⟨⟨resolved, unescape_eq_ok_iff.1 read, outside resolved read⟩,
      checkChars_eq_ok_iff.1 (checkChars_of_text checked)⟩
  | cdata content => exact absurd outside id
  | _ => exact bare_nil

theorem Piece.bare_flatMap {pieces : List Piece}
    (each : ∀ piece ∈ pieces, Bare piece.characterData) :
    Bare (pieces.flatMap Piece.characterData) := by
  induction pieces with
  | nil => exact bare_nil
  | cons piece rest ih =>
    rw [List.forall_mem_cons] at each
    rw [List.flatMap_cons]
    exact each.1.append (ih each.2)

theorem isXmlBlank_of_isBlank {c : Char} (blank : Text.isBlank c = true)
    (allowed : isXmlChar c = true) (ascii : c.toNat < 0x80) : Text.isXmlBlank c = true := by
  simp only [Text.isBlank, isXmlChar, between, Text.isXmlBlank, Bool.or_eq_true, Bool.and_eq_true,
    beq_iff_eq, decide_eq_true_eq, ← Char.toNat_inj, Char.reduceToNat] at blank allowed ⊢
  omega

theorem ascii_of_isXmlBlank {c : Char} (h : Text.isXmlBlank c = true) :
    c ≠ '&' ∧ c.toNat < 0x80 := by
  simp only [Text.isXmlBlank, Bool.or_eq_true, beq_iff_eq] at h
  obtain ((rfl | rfl) | rfl) | rfl := h <;> decide

theorem Bare.isXmlBlank {data : List Char} (h : Bare data)
    (plain : ∀ c ∈ data, c ≠ '&' ∧ c.toNat < 0x80) : ∀ c ∈ data, Text.isXmlBlank c = true := by
  obtain ⟨resolved, resolves, blank⟩ := h.resolves
  have unreferenced : '&' ∉ data := fun member => (plain _ member).1 rfl
  rw [resolves.unique (resolves_of_not_mem unreferenced), List.all_eq_true] at blank
  intro c member
  exact isXmlBlank_of_isBlank (blank c member) (h.chars c member) (plain c member).2

namespace Document

variable {text : String} {numbered : Bool} {document : Document}

theorem bare_outerText (h : parse text numbered = .ok document) : Bare (outerText text) := by
  obtain ⟨_, accepted⟩ := (exists_parse_iff numbered).1 ⟨document, h⟩
  obtain ⟨prolog, body, epilog, layout, outside⟩ := accepted.single_root
  rw [← map_token_pieces] at layout
  refine Piece.bare_flatMap fun piece member => ?_
  have kept : piece ∈ pieces text := by
    rcases List.mem_append.1 member with before | after
    · exact (List.takeWhile_sublist _).subset before
    · exact List.mem_reverse.1 ((List.takeWhile_sublist _).subset (List.mem_reverse.1 after))
  have listed : piece.token ∈ prolog ++ epilog := by
    rw [← Piece.map_token_beforeRoot layout, ← Piece.map_token_afterRoot layout, ← List.map_append]
    exact List.mem_map_of_mem member
  have token : piece.token ∈ tokens text := by
    rw [← map_token_pieces]
    exact List.mem_map_of_mem kept
  exact Piece.bare_characterData (Lexer.source_of_mem_pieces kept) (accepted.sound _ token)
    (outside _ listed)

/-- The text of a document is its marks and its pieces. Those around the root resolve to blank
characters, with a second mark before them or not; and they are white space of XML exactly if they
are of ASCII and without references. -/
theorem surroundings_blank_iff (h : parse text numbered = .ok document) :
    marks text ++ (pieces text).flatMap Piece.source = text.toList ∧
      (∃ resolved, Resolves (outerText text) resolved ∧ resolved.all Text.isBlank = true) ∧
      ((∀ c ∈ surroundings text, Text.isXmlBlank c = true) ↔
        ∀ c ∈ surroundings text, c ≠ '&' ∧ c.toNat < 0x80) := by
  have bare := bare_outerText h
  refine ⟨marks_append_pieces ((exists_parse_iff numbered).1 ⟨document, h⟩).1, bare.resolves, ?_⟩
  constructor
  · intro blank c member
    exact ascii_of_isXmlBlank (blank c member)
  · intro plain c member
    rcases List.mem_append.1 member with marked | outer
    · have ascii := (plain c member).2
      rw [mem_markOf marked] at ascii
      contradiction
    · exact bare.isXmlBlank (fun c outer => plain c (List.mem_append_right _ outer)) c outer

theorem surroundings_blank_lines :
    ∃ document, parse "\ufeff\r\n<a>b</a><!--c-->\t" false = .ok document ∧
      surroundings "\ufeff\r\n<a>b</a><!--c-->\t" = ['\r', '\n', '\t'] ∧
      ∀ c ∈ surroundings "\ufeff\r\n<a>b</a><!--c-->\t", Text.isXmlBlank c = true := by
  have read : parse "\ufeff\r\n<a>b</a><!--c-->\t" false =
      .ok (ofRoot ⟨"a", [], [.text "b"], none⟩) := by decide +kernel
  have around : surroundings "\ufeff\r\n<a>b</a><!--c-->\t" = ['\r', '\n', '\t'] := by
    decide +kernel
  refine ⟨_, read, around, (surroundings_blank_iff read).2.2.2 ?_⟩
  rw [around]
  simp

theorem surroundings_not_blank :
    ∃ text document, parse text false = .ok document ∧
      surroundings text = ['\ufeff', '&', '#', '3', '2', ';', '\u00a0'] ∧
      ¬∀ c ∈ surroundings text, Text.isXmlBlank c = true := by
  have around : surroundings "\ufeff\ufeff<a/>&#32;\u00a0" =
      ['\ufeff', '&', '#', '3', '2', ';', '\u00a0'] := by decide +kernel
  refine ⟨"\ufeff\ufeff<a/>&#32;\u00a0", ofRoot ⟨"a", [], [], none⟩, by decide +kernel, around, ?_⟩
  rw [around, ← List.all_eq_true]
  decide

end Document
end Schematron.Xml
