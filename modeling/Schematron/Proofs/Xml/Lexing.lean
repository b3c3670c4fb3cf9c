import Schematron.Proofs.Text.Split
import Schematron.Proofs.Xml.Scan
import Schematron.Xml.Token
import Schematron.Xml.WellFormed

/-!
Reading on from a text, positions apart: the tokens of a stretch do not depend on where it stands
and what follows it. Each form of markup has its lemma.
-/
namespace Schematron.Xml
namespace Lexer

variable {names names' names'' : List (List Char)} {text text' text'' : List Char}

theorem run_of_next {lexer next : Lexer} {token : Token} (h : lexer.next = .token token next) :
    lexer.run = ⟨⟨lexer.position, token⟩ :: next.run.tokens, next.run.ending⟩ := by
  rw [run]
  split <;> simp_all

theorem next_eq_finished_iff {lexer : Lexer} : lexer.next = .finished ↔ lexer.rest = [] := by
  unfold next nextMarkup
  constructor
  · intro h
    repeat' split at h
    all_goals simp_all
  · intro h
    rw [h]

theorem run_of_rest_nil {lexer : Lexer} (h : lexer.rest = []) :
    lexer.run = ⟨[], .finished lexer.position⟩ := by
  rw [run]
  have := next_eq_finished_iff.2 h
  split <;> simp_all

theorem run_of_failed {lexer : Lexer} {fault : MarkupFault} {offset : Nat}
    (h : lexer.next = .failed fault offset) : lexer.run = ⟨[], .failed fault offset⟩ := by
  rw [run]
  split <;> simp_all

/-- With these names open the lexer gets from the first text to the second by reading the tokens,
wherever in a document that is. -/
def Reads (names : List (List Char)) (text : List Char) (tokens : List Token)
    (names' : List (List Char)) (text' : List Char) : Prop :=
  ∀ position, ∃ located position', located.map Located.token = tokens ∧
    (⟨position, names, text⟩ : Lexer).run =
      ⟨located ++ (run ⟨position', names', text'⟩).tokens, (run ⟨position', names', text'⟩).ending⟩

theorem Reads.refl : Reads names text [] names text :=
  fun position => ⟨[], position, rfl, rfl⟩

theorem Reads.trans {first second : List Token} (h : Reads names text first names' text')
    (h' : Reads names' text' second names'' text'') :
    Reads names text (first ++ second) names'' text'' := by
  intro position
  obtain ⟨located, position', rfl, run_eq⟩ := h position
  obtain ⟨located', position'', rfl, run_eq'⟩ := h' position'
  exact ⟨located ++ located', position'', by simp, by simp [run_eq, run_eq']⟩

theorem reads_of_next {token : Token}
    (h : ∀ position, ∃ position',
      (⟨position, names, text⟩ : Lexer).next = .token token ⟨position', names', text'⟩) :
    Reads names text [token] names' text' := by
  intro position
  obtain ⟨position', next_eq⟩ := h position
  exact ⟨[⟨position, token⟩], position', rfl, run_of_next next_eq⟩

theorem reads_markup {opening : Opening} {rest inner body : List Char} {token : Token}
    (opened : Opening.ofText rest = .ok (opening, inner))
    (closed : opening.scan inner = some (body, text')) (built : opening.build body = .ok token)
    (named : openNamesAfter names token = .ok names') :
    Reads names ('<' :: rest) [token] names' text' :=
  reads_of_next fun position => by
    refine ⟨position + 1 + (Utf8.size rest - Utf8.size text'), ?_⟩
    simp [next, nextMarkup, opened, closed, built, named]

theorem next_text {raw rest : List Char} (some : raw ≠ []) (plain : '<' ∉ raw)
    (stop : ∀ c ∈ rest.head?, c = '<') (position : Nat) :
    (⟨position, names, raw ++ rest⟩ : Lexer).next =
      .token (.text raw) ⟨position + Utf8.size raw, names, rest⟩ := by
  cases raw with
  | nil => contradiction
  | cons c raw =>
    rw [List.mem_cons, not_or] at plain
    have inside : ∀ d ∈ raw, (d != '<') = true := by
      intro d member
      rw [bne_iff_ne]
      rintro rfl
      exact plain.2 member
    have boundary : ∀ d ∈ rest.head?, (d != '<') = false := fun d h => by simp [stop d h]
    obtain ⟨run, after⟩ := Text.span_iff.2 ⟨Eq.refl (raw ++ rest), inside, boundary⟩
    simp [next, Ne.symm plain.1, run, after]

/-- What one step reads: markup up to the bracket that closes it, or text up to the next markup. -/
theorem next_cases {lexer after : Lexer} {token : Token} (h : lexer.next = .token token after) :
    (∃ rest opening inner body, lexer.rest = '<' :: rest ∧
      Opening.ofText rest = .ok (opening, inner) ∧ opening.scan inner = some (body, after.rest) ∧
      opening.build body = .ok token ∧
      openNamesAfter lexer.openNames token = .ok after.openNames ∧
      after.position = lexer.position + 1 + (Utf8.size rest - Utf8.size after.rest)) ∨
    ∃ raw, token = .text raw ∧ '<' ∉ raw ∧ lexer.rest = raw ++ after.rest ∧
      (∀ c ∈ after.rest.head?, c = '<') ∧ after.openNames = lexer.openNames ∧
      after.position = lexer.position + Utf8.size raw := by
  unfold next at h
  split at h
  · contradiction
  next c rest found =>
    split at h
    next bracket =>
      subst bracket
      unfold nextMarkup at h
      split at h
      · contradiction
      next opened =>
        split at h
        · contradiction
        next closed =>
          dsimp only at h
          split at h
          · contradiction
          next built =>
            split at h
            · contradiction
            next named =>
              cases h
              exact .inl ⟨rest, _, _, _, found, opened, closed, built, named, rfl⟩
    next bracket =>
      cases h
      obtain ⟨split, inside, stop⟩ := Text.span_iff.1
        ⟨Eq.refl (rest.takeWhile (· != '<')), Eq.refl (rest.dropWhile (· != '<'))⟩
      have plain : '<' ∉ c :: rest.takeWhile (· != '<') := by
        rw [List.mem_cons, not_or]
        exact ⟨Ne.symm bracket, fun member => by simpa using inside _ member⟩
      refine .inr ⟨_, rfl, plain, ?_, fun d first => by simpa using stop d first, rfl, rfl⟩
      rw [found, List.cons_append, ← split]

theorem reads_text {raw : List Char} (some : raw ≠ []) (plain : '<' ∉ raw)
    (stop : ∀ c ∈ text'.head?, c = '<') :
    Reads names (raw ++ text') [.text raw] names text' :=
  reads_of_next fun position => ⟨_, next_text some plain stop position⟩

structure TagText (content : List Char) : Prop where
  start : ∃ c rest, content = c :: rest ∧ c ≠ '!' ∧ c ≠ '?' ∧ c ≠ '/'
  unended : '>' ∉ content
  unquoted : tagAutomaton.after none content = none

theorem TagText.opening {content : List Char} (h : TagText content) (rest : List Char) :
    Opening.ofText (content ++ rest) = .ok (.tag, content ++ rest) := by
  obtain ⟨c, inner, rfl, bang, question, slash⟩ := h.start
  simp only [List.cons_append]
  unfold Opening.ofText
  split <;> simp_all

theorem TagText.scan {content : List Char} (h : TagText content) (rest : List Char) :
    Opening.tag.scan (content ++ '>' :: rest) = some (content, rest) :=
  Automaton.scan_of_not_mem h.unended (by simp [h.unquoted]) rest

theorem reads_startTag {content : List Char} (tag : TagText content)
    (last : content.getLast? ≠ some '/') :
    Reads names ('<' :: (content ++ '>' :: text)) [.startTag content]
      (tagName content :: names) text :=
  reads_markup (tag.opening _) (tag.scan _) (by simp [Opening.build, Token.ofTag, last]) rfl

theorem reads_emptyTag {content : List Char} (tag : TagText content) :
    Reads names ('<' :: (content ++ '/' :: '>' :: text)) [.emptyTag content] names text := by
  have slashed : TagText (content ++ ['/']) := by
    obtain ⟨⟨c, rest, rfl, start⟩, unended, unquoted⟩ := tag
    refine ⟨⟨c, rest ++ ['/'], rfl, start⟩, by simpa using unended, ?_⟩
    rw [Automaton.after_append, unquoted]
    rfl
  have built : Opening.tag.build (content ++ ['/']) = .ok (.emptyTag content) := by
    simp [Opening.build, Token.ofTag]
  have read : Reads names ('<' :: (content ++ ['/'] ++ '>' :: text)) [.emptyTag content] names
      text := reads_markup (slashed.opening _) (slashed.scan _) built rfl
  simpa using read

theorem reads_endTag {name : List Char} (unquoted : ∀ c ∈ name, c ≠ '"' ∧ c ≠ '\'')
    (unended : '>' ∉ name) (trimmed : endTagName name = name) :
    Reads (name :: names) ('<' :: '/' :: (name ++ '>' :: text)) [.endTag name] names text := by
  have closed : Opening.endTag.scan (name ++ '>' :: text) = some (name, text) :=
    Automaton.scan_of_not_mem unended (by simp [tagAutomaton_after_unquoted unquoted]) text
  exact reads_markup rfl closed (by simp [Opening.build, trimmed]) (by simp [openNamesAfter])

theorem scan_comment {content : List Char} (hyphens : Text.occursIn ['-', '-'] content = false)
    (rest : List Char) :
    Opening.comment.scan ('-' :: '-' :: (content ++ '-' :: '-' :: '>' :: rest)) =
      some ('-' :: '-' :: (content ++ ['-', '-']), rest) := by
  refine Automaton.scan_eq_some_iff.2 ⟨by simp, ?_, fun front back split => ?_⟩
  · rw [commentAutomaton_closes_iff]
    exact ⟨by simp, '-' :: '-' :: content, by simp⟩
  · rw [← Bool.not_eq_true, commentAutomaton_closes_iff]
    rintro ⟨long, inner, rfl⟩
    match inner with
    | [] | [_] => simp at long
    | a :: b :: inner =>
      simp only [List.cons_append, List.cons.injEq] at split
      rcases List.append_eq_append_iff.1 split.2.2 with ⟨more, _, ends⟩ | ⟨more, rfl, _⟩
      · have : '>' ∈ ['-', '-'] := by simp [ends]
        contradiction
      · have occurs : Text.occursIn ['-', '-'] (inner ++ ['-', '-'] ++ more) = true :=
          Text.occursIn_iff.2 ⟨inner, more, rfl⟩
        rw [occurs] at hyphens
        contradiction

theorem reads_comment {content : List Char} (sound : checkComment content = .ok ()) :
    Reads names (['<', '!', '-', '-'] ++ content ++ ['-', '-', '>'] ++ text) [.comment content]
      names text := by
  have hyphens : Text.occursIn ['-', '-'] content = false := by
    unfold checkComment at sound
    split at sound
    · contradiction
    next plain => simp_all
  have built : Opening.comment.build ('-' :: '-' :: (content ++ ['-', '-'])) =
      .ok (.comment content) := by
    have start : Text.dropStart? ['-', '-'] ('-' :: '-' :: (content ++ ['-', '-'])) =
        some (content ++ ['-', '-']) := Text.dropStart?_eq_some_iff.2 rfl
    simp [Opening.build, Token.ofComment, start]
  have read : Reads names ('<' :: '!' :: '-' :: '-' :: (content ++ '-' :: '-' :: '>' :: text))
      [.comment content] names text :=
    reads_markup rfl (scan_comment hyphens text) built rfl
  simpa using read

end Lexer
end Schematron.Xml
