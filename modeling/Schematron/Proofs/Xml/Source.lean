import Schematron.Proofs.Xml.Lexing
import Schematron.Proofs.Xml.Tag

/-!
The text behind the tokens. A token tells how it was written but for the blanks that end an end tag
and for the keyword of a document type declaration.
-/
namespace Schematron.Xml

def Token.Source : Token → List Char → Prop
  | .text raw, source => source = raw
  | .cdata content, source =>
    source = ['<', '!', '[', 'C', 'D', 'A', 'T', 'A', '['] ++ content ++ [']', ']', '>']
  | .comment content, source => source = ['<', '!', '-', '-'] ++ content ++ ['-', '-', '>']
  | .instruction content, source | .declaration content, source =>
    source = ['<', '?'] ++ content ++ ['?', '>']
  | .doctype content, source =>
    ∃ keyword blanks, keyword.map Char.toUpper = ['D', 'O', 'C', 'T', 'Y', 'P', 'E'] ∧
      Blank blanks ∧
      source = ['<', '!'] ++ keyword ++ blanks ++ content ++ ['>']
  | .startTag content, source => source = ['<'] ++ content ++ ['>']
  | .emptyTag content, source => source = ['<'] ++ content ++ ['/', '>']
  | .endTag name, source =>
    ∃ blanks, Blank blanks ∧
      source = ['<', '/'] ++ name ++ blanks ++ ['>']

theorem exists_of_append_mark {start content front : List Char} {mark : Char}
    (h : start ++ content = front ++ [mark, mark]) (long : 2 ≤ content.length) :
    content = content.dropLast.dropLast ++ [mark, mark] := by
  rcases List.append_eq_append_iff.1 h with ⟨inner, rfl, rfl⟩ | ⟨inner, rfl, marks⟩
  · simp
  · have short : inner = [] := by
      have := congrArg List.length marks
      simp at this
      exact List.length_eq_zero_iff.1 (by omega)
    subst short
    rw [List.nil_append] at marks
    rw [← marks]
    rfl

namespace Opening

theorem ofText_eq {rest inner : List Char} {opening : Opening}
    (h : ofText rest = .ok (opening, inner)) :
    match opening with
    | .cdata | .comment | .doctype => rest = '!' :: inner
    | .instruction => rest = '?' :: inner
    | .endTag => rest = '/' :: inner
    | .tag => rest = inner := by
  unfold ofText at h
  split at h <;> cases h <;> rfl

end Opening

theorem source_cdata {body : List Char} {token : Token} (built : Token.ofCdata body = .ok token)
    (closes : ∃ front, body = front ++ [']', ']']) :
    token.Source ('<' :: '!' :: (body ++ ['>'])) := by
  obtain ⟨front, ends⟩ := closes
  unfold Token.ofCdata at built
  split at built
  next content start =>
    cases built
    rw [Text.dropStart?_eq_some_iff.1 start] at ends ⊢
    have long : 2 ≤ content.length := by
      rcases content with _ | ⟨x, _ | ⟨y, rest⟩⟩
      · simpa using congrArg List.reverse ends
      · simpa using congrArg List.reverse ends
      · simp
    have split := exists_of_append_mark ends long
    rw [Token.Source, split]
    simp
  · contradiction

theorem source_comment {body : List Char} {token : Token} (built : Token.ofComment body = .ok token)
    (long : 4 ≤ body.length) (closes : ∃ front, body = front ++ ['-', '-']) :
    token.Source ('<' :: '!' :: (body ++ ['>'])) := by
  obtain ⟨front, ends⟩ := closes
  unfold Token.ofComment at built
  split at built
  next content start =>
    cases built
    rw [Text.dropStart?_eq_some_iff.1 start] at ends long ⊢
    have split := exists_of_append_mark ends (by simp at long; omega)
    rw [Token.Source, split]
    simp
  · contradiction

theorem source_instruction {body : List Char} {token : Token}
    (built : Token.ofInstruction body = .ok token)
    (closes : body = [] ∨ ∃ front, body = front ++ ['?']) :
    token.Source ('<' :: '?' :: (body ++ ['>'])) := by
  unfold Token.ofInstruction at built
  rcases closes with rfl | ⟨front, rfl⟩
  · contradiction
  · have some : (front ++ ['?']).isEmpty = false := by simp
    simp only [some, Bool.false_eq_true, if_false, List.dropLast_concat] at built
    split at built
    · cases built
      simp [Token.Source]
    · cases built
      split <;> simp [Token.Source]
    · cases built
      simp [Token.Source]

theorem source_doctype {body : List Char} {token : Token}
    (built : Token.ofDoctype body = .ok token) :
    token.Source ('<' :: '!' :: (body ++ ['>'])) := by
  unfold Token.ofDoctype at built
  split at built
  next keyword =>
    obtain ⟨split, blank, _⟩ := Text.span_iff.1
      ⟨Eq.refl ((body.drop 7).takeWhile Text.isXmlBlank), rfl⟩
    split at built
    · contradiction
    · cases built
      refine ⟨body.take 7, (body.drop 7).takeWhile Text.isXmlBlank, keyword, blank, ?_⟩
      simp
  · contradiction

theorem source_endTag (body : List Char) :
    (Token.endTag (endTagName body)).Source ('<' :: '/' :: (body ++ ['>'])) := by
  obtain ⟨split, blank, _⟩ := Text.span_iff.1
    ⟨Eq.refl (body.reverse.takeWhile Text.isXmlBlank), rfl⟩
  have parts : body = (body.reverse.dropWhile Text.isXmlBlank).reverse ++
      (body.reverse.takeWhile Text.isXmlBlank).reverse := by
    rw [← List.reverse_append, ← split, List.reverse_reverse]
  unfold endTagName
  dsimp only
  split
  · exact ⟨[], by simp [Blank], by simp⟩
  · refine ⟨_, fun c member => blank c (List.mem_reverse.1 member), ?_⟩
    conv_lhs => rw [parts]
    simp

theorem source_tag (body : List Char) :
    (Token.ofTag body).Source ('<' :: (body ++ ['>'])) := by
  unfold Token.ofTag
  split
  next slash =>
    obtain ⟨front, rfl⟩ := List.getLast?_eq_some_iff.1 slash
    simp [Token.Source]
  · simp [Token.Source]

theorem Opening.source_build {opening : Opening} {rest inner body after : List Char} {token : Token}
    (opened : Opening.ofText rest = .ok (opening, inner))
    (closed : opening.scan inner = some (body, after)) (built : opening.build body = .ok token) :
    ∃ source, token.Source source ∧ '<' :: rest = source ++ after := by
  have start := Opening.ofText_eq opened
  cases opening with
  | cdata =>
    obtain ⟨rfl, closes, _⟩ := Automaton.scan_eq_some_iff.1 closed
    exact ⟨_, source_cdata built (cdataAutomaton_closes_iff.1 closes), by simp [start]⟩
  | comment =>
    obtain ⟨rfl, closes, _⟩ := Automaton.scan_eq_some_iff.1 closed
    obtain ⟨long, ends⟩ := commentAutomaton_closes_iff.1 closes
    exact ⟨_, source_comment built long ends, by simp [start]⟩
  | doctype =>
    obtain ⟨rfl, _, _⟩ := Automaton.scan_eq_some_iff.1 closed
    exact ⟨_, source_doctype built, by simp [start]⟩
  | instruction =>
    obtain ⟨rfl, closes, _⟩ := Automaton.scan_eq_some_iff.1 closed
    exact ⟨_, source_instruction built (instructionAutomaton_closes_iff.1 closes), by simp [start]⟩
  | endTag =>
    obtain ⟨rfl, _, _⟩ := Automaton.scan_eq_some_iff.1 closed
    cases built
    exact ⟨_, source_endTag body, by simp [start]⟩
  | tag =>
    obtain ⟨rfl, _, _⟩ := Automaton.scan_eq_some_iff.1 closed
    cases built
    exact ⟨_, source_tag body, by simp [start]⟩

namespace Lexer

theorem next_source {lexer after : Lexer} {token : Token} (h : lexer.next = .token token after) :
    (∃ source, token.Source source ∧ lexer.rest = source ++ after.rest) ∧
      openNamesAfter lexer.openNames token = .ok after.openNames := by
  rcases next_cases h with ⟨rest, opening, inner, body, found, opened, closed, built, named, -⟩ |
    ⟨raw, rfl, -, split, -, same, -⟩
  · rw [found]
    exact ⟨Opening.source_build opened closed built, named⟩
  · rw [same]
    exact ⟨⟨raw, rfl, split⟩, rfl⟩

inductive Sources : List Token → List Char → Prop
  | nil : Sources [] []
  | cons {token : Token} {tokens : List Token} {source rest : List Char} :
      token.Source source → Sources tokens rest → Sources (token :: tokens) (source ++ rest)

theorem sources_of_run {lexer : Lexer} {offset : Nat} (h : lexer.run.ending = .finished offset) :
    Sources (lexer.run.tokens.map Located.token) lexer.rest := by
  induction lexer using Lexer.run.induct with
  | case1 lexer ended =>
    have stopped := next_eq_finished_iff.1 ended
    rw [run_of_rest_nil stopped, stopped]
    exact .nil
  | case2 lexer fault offset failed =>
    rw [run_of_failed failed] at h
    contradiction
  | case3 lexer token next taken ih =>
    obtain ⟨⟨source, written, split⟩, _⟩ := next_source taken
    rw [run_of_next taken] at h ⊢
    rw [split]
    exact .cons written (ih h)

theorem openNamesAfter_endTag_iff {names names' : List (List Char)} {name : List Char} :
    openNamesAfter names (.endTag name) = .ok names' ↔ names = name :: names' := by
  cases names with
  | nil => simp [openNamesAfter]
  | cons expected outer =>
    simp only [openNamesAfter, List.cons.injEq]
    split <;> simp_all [eq_comm]

theorem mem_openNamesAfter {names names' : List (List Char)} {token : Token}
    (h : openNamesAfter names token = .ok names') {name : List Char} (member : name ∈ names') :
    name ∈ names ∨ ∃ content, token = .startTag content ∧ tagName content = name := by
  cases token with
  | startTag content =>
    cases h
    rcases List.mem_cons.1 member with rfl | outer
    · exact .inr ⟨content, rfl, rfl⟩
    · exact .inl outer
  | endTag closed =>
    rw [openNamesAfter_endTag_iff.1 h]
    exact .inl (List.mem_cons_of_mem _ member)
  | _ =>
    cases h
    exact .inl member

theorem exists_startTag_of_run {lexer : Lexer} {name : List Char}
    (h : .endTag name ∈ lexer.run.tokens.map Located.token) :
    name ∈ lexer.openNames ∨
      ∃ content, .startTag content ∈ lexer.run.tokens.map Located.token ∧
        tagName content = name := by
  induction lexer using Lexer.run.induct with
  | case1 lexer ended => simp [run_of_rest_nil (next_eq_finished_iff.1 ended)] at h
  | case2 lexer fault offset failed => simp [run_of_failed failed] at h
  | case3 lexer token next taken ih =>
    obtain ⟨_, named⟩ := next_source taken
    rw [run_of_next taken, List.map_cons] at h ⊢
    rcases List.mem_cons.1 h with rfl | later
    · rw [openNamesAfter_endTag_iff.1 named]
      exact .inl List.mem_cons_self
    · rcases ih later with outer | ⟨content, member, same⟩
      · refine (mem_openNamesAfter named outer).imp_right ?_
        rintro ⟨content, rfl, same⟩
        exact ⟨content, List.mem_cons_self, same⟩
      · exact .inr ⟨content, List.mem_cons_of_mem _ member, same⟩

end Lexer
end Schematron.Xml
