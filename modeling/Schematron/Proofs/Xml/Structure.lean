import Schematron.Proofs.Xml.Numbering
import Schematron.Proofs.Xml.Progress

/-!
Which texts are documents. Tokens that keep to the rules of `Accepted` make one, whose tree has the
events of the tokens of the root.
-/
namespace Schematron.Xml

/-- The tokens make up a document with this root; lines are not kept. -/
def Builds (tokens : List Token) (root : Element) : Prop :=
  ∃ builder, Builder.empty.run tokens = .ok builder ∧ builder.finish = .ok root

theorem Builder.finish_iff {builder : Builder} {root : Element} :
    builder.finish = .ok root ↔ builder.openElements = [] ∧ builder.root = some root := by
  obtain ⟨openElements, found, started, doctypeSeen⟩ := builder
  cases openElements <;> cases found <;> simp [Builder.finish]

theorem Builds.accepted {tokens : List Token} {root : Element} (h : Builds tokens root) :
    Accepted tokens := by
  obtain ⟨builder, run, finish⟩ := h
  obtain ⟨closed, rooted⟩ := Builder.finish_iff.1 finish
  obtain ⟨phase, _, declaration_first, doctype_once, sound⟩ := Builder.progress_run run
  cases phase with
  | before _ _ rootless => simp [rootless] at rooted
  | inside _ unclosed _ _ => simpa [closed] using unclosed.pos
  | @after prolog body epilog _ around whole untyped behind _ _ =>
    have layout : Layout (prolog ++ body ++ epilog) prolog body epilog :=
      ⟨rfl, whole, fun token h => (around token h).1, fun token h => (behind token h).1⟩
    refine ⟨declaration_first, ?_, ?_, ⟨prolog, body, epilog, layout, ?_⟩, sound⟩
    · rw [doctype_once]
      split <;> omega
    · rwa [layout.dropWhile_eq]
    · exact List.forall_mem_append.2 ⟨fun token h => (around token h).2,
        fun token h => (behind token h).2⟩

/-- Tokens that keep to the rules build a root with the events of the tokens of its element. -/
theorem Accepted.builds {tokens : List Token} (h : Accepted tokens) :
    ∃ root, Builds tokens root ∧ root.events = (rootTokens tokens).flatMap Token.events := by
  obtain ⟨prolog, body, epilog, layout, outside⟩ := h.single_root
  have tagless : ∀ token ∈ body ++ epilog, token.isDoctype = false := by
    rw [← layout.dropWhile_eq]
    exact h.doctype_before_root
  have undeclared := layout.undeclared h.declaration_first
  obtain ⟨declared, once, _, _, sound⟩ := h
  rw [layout.body_eq.symm]
  obtain ⟨rfl, whole, before, behind⟩ := layout
  simp only [List.forall_mem_append] at tagless undeclared sound outside
  have early : ∀ token ∈ prolog.tail, token.isDeclaration = false :=
    fun token h => declared token (by cases prolog <;> simp_all)
  have single : prolog.countP Token.isDoctype ≤ 1 := by
    rw [List.countP_append, List.countP_append] at once
    omega
  obtain ⟨first, entering, closed, rootless⟩ := Builder.run_outside sound.1.1
    (fun token h => ⟨before token h, outside.1 token h⟩) Builder.empty rfl early
    (by simp [Builder.empty]) single (by simp [Builder.empty])
  obtain ⟨root, events, passing⟩ := whole.completes
    fun token h => ⟨sound.1.2 token h, undeclared.1 token h, tagless.1 token h⟩
  have passed := passing first fun _ => rootless
  rw [closed] at passed
  have none : epilog.countP Token.isDoctype = 0 :=
    List.countP_eq_zero.2 fun token h => by simpa using tagless.2 token h
  obtain ⟨last, leaving, closed', rooted⟩ := Builder.run_outside sound.2
    (fun token h => ⟨behind token h, outside.2 token h⟩) ⟨_, _, true, _⟩ rfl
    (fun token h => undeclared.2 token (List.mem_of_mem_tail h)) (fun _ => undeclared.2)
    (by omega) (fun _ => tagless.2)
  refine ⟨root, ⟨last, ?_, ?_⟩, events⟩
  · rw [Builder.run_append_iff]
    exact ⟨_, Builder.run_append_iff.2 ⟨_, entering, passed⟩, leaving⟩
  · exact Builder.finish_iff.2 ⟨closed', rooted⟩

theorem Accepted.iff_builds {tokens : List Token} :
    Accepted tokens ↔ ∃ root, Builds tokens root :=
  ⟨fun h => (h.builds).imp fun _ built => built.1, fun ⟨_, built⟩ => built.accepted⟩

theorem Builds.unique {tokens : List Token} {first second : Element} (h : Builds tokens first)
    (h' : Builds tokens second) : first = second := by
  obtain ⟨builder, run, finish⟩ := h
  obtain ⟨builder', run', finish'⟩ := h'
  cases ok_unique run run'
  exact ok_unique finish finish'

theorem Builds.events_eq {tokens : List Token} {root : Element} (h : Builds tokens root) :
    root.events = (rootTokens tokens).flatMap Token.events := by
  obtain ⟨other, built, events⟩ := h.accepted.builds
  rwa [h.unique built]

theorem Builder.step_false_iff {builder next : Builder} {line : Nat} {token : Token} :
    builder.step false (line, token) = .ok next ↔ builder.feed token = .ok next := by
  have unnumbered : builder.take false line token = builder.take false 0 token := by
    cases token <;> rfl
  simp only [step, feed, unnumbered]
  cases builder.take false 0 token <;> simp [Except.map]

theorem Builder.foldlM_step_iff {builder after : Builder} {tokens : List (Nat × Token)} :
    tokens.foldlM (step false) builder = .ok after ↔
      builder.run (tokens.map Prod.snd) = .ok after := by
  induction tokens generalizing builder with
  | nil => simp [pure, Except.pure]
  | cons token rest ih =>
    obtain ⟨line, token⟩ := token
    simp [run_cons_iff, ← ih, step_false_iff]

theorem map_snd_numberTokens (counter : LineCounter) (tokens : List Located) :
    (numberTokens counter tokens).1.map Prod.snd = tokens.map Located.token := by
  induction tokens generalizing counter with
  | nil => rfl
  | cons token rest ih => simp [numberTokens, ih]

namespace Document

def tokens (text : String) : List Token :=
  (lex (dropMark text.toList)).tokens.map Located.token

def Tokenizes (text : String) : Prop :=
  ∃ offset, (lex (dropMark text.toList)).ending = .finished offset

theorem parse_false_iff {text : String} {document : Document} :
    parse text false = .ok document ↔
      Tokenizes text ∧ Builds (tokens text) document.root ∧ document.baseUri = none := by
  obtain ⟨baseUri, root⟩ := document
  have same := map_snd_numberTokens (LineCounter.start (Utf8.encode (dropMark text.toList)))
    (lex (dropMark text.toList)).tokens
  simp only [parse, ofText, map_eq_ok_iff, rootOfLexed, bind_eq_ok_iff, Builder.foldlM_step_iff,
    same, Tokenizes, Builds, tokens, ofRoot]
  cases (lex (dropMark text.toList)).ending with
  | failed => simp
  | finished => simp [@eq_comm _ none baseUri, and_comm]

theorem parse_eraseLines {text : String} {numbered : Bool} {document : Document}
    (h : parse text numbered = .ok document) : parse text false = .ok document.eraseLines := by
  rw [← eraseLines_parse text numbered, h]
  rfl

theorem exists_parse_iff {text : String} (numbered : Bool) :
    (∃ document, parse text numbered = .ok document) ↔ Tokenizes text ∧ Accepted (tokens text) := by
  rw [Accepted.iff_builds]
  constructor
  · rintro ⟨document, h⟩
    obtain ⟨whole, built, _⟩ := parse_false_iff.1 (parse_eraseLines h)
    exact ⟨whole, _, built⟩
  · rintro ⟨whole, root, built⟩
    have read : parse text false = .ok (ofRoot root) := parse_false_iff.2 ⟨whole, built, rfl⟩
    rw [← eraseLines_parse text numbered, map_eq_ok_iff] at read
    exact read.imp fun _ found => found.1

theorem events_of_parse {text : String} {numbered : Bool} {document : Document}
    (h : parse text numbered = .ok document) :
    document.root.eraseLines.events = (rootTokens (tokens text)).flatMap Token.events := by
  obtain ⟨_, built, _⟩ := parse_false_iff.1 (parse_eraseLines h)
  exact built.events_eq

/-- A text that falls into tokens is read exactly when its tokens keep to the rules of a document,
and then the events of the tree are those of the tokens from the start tag of the root to the end
tag that matches it. -/
theorem parse_ok_iff_accepted {text : String} (numbered : Bool) (whole : Tokenizes text) :
    ((∃ document, parse text numbered = .ok document) ↔ Accepted (tokens text)) ∧
      ∀ document, parse text numbered = .ok document →
        ∃ prolog body epilog, Layout (tokens text) prolog body epilog ∧
          document.root.eraseLines.events = body.flatMap Token.events := by
  refine ⟨by rw [exists_parse_iff, and_iff_right whole], fun document h => ?_⟩
  obtain ⟨_, accepted⟩ := (exists_parse_iff numbered).1 ⟨document, h⟩
  obtain ⟨prolog, body, epilog, layout, _⟩ := accepted.single_root
  exact ⟨prolog, body, epilog, layout, layout.body_eq ▸ events_of_parse h⟩

theorem parse_ok_iff_accepted_mixed :
    Tokenizes "<!DOCTYPE a><a x=\"1\">t&amp;<b/><![CDATA[<]]><!--c--><?d?></a>\n" ∧
      Accepted (tokens "<!DOCTYPE a><a x=\"1\">t&amp;<b/><![CDATA[<]]><!--c--><?d?></a>\n") ∧
      ∃ prolog body epilog,
        Layout (tokens "<!DOCTYPE a><a x=\"1\">t&amp;<b/><![CDATA[<]]><!--c--><?d?></a>\n")
          prolog body epilog ∧
        [.opened "a" [("x", "1")] none, .text "t&", .opened "b" [] none, .closed, .text "<",
          .comment "c", .closed] = body.flatMap Token.events := by
  have whole : Tokenizes "<!DOCTYPE a><a x=\"1\">t&amp;<b/><![CDATA[<]]><!--c--><?d?></a>\n" :=
    ⟨62, by decide +kernel⟩
  have read : parse "<!DOCTYPE a><a x=\"1\">t&amp;<b/><![CDATA[<]]><!--c--><?d?></a>\n" false =
      .ok (ofRoot ⟨"a", [("x", "1")], [.text "t&", .element ⟨"b", [], [], none⟩, .text "<",
        .comment "c"], none⟩) := by decide +kernel
  obtain ⟨accepts, builds⟩ := parse_ok_iff_accepted false whole
  exact ⟨whole, accepts.1 ⟨_, read⟩, builds _ read⟩

end Document
end Schematron.Xml
