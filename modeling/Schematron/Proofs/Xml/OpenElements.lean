import Mathlib.Data.List.Count
import Mathlib.Data.List.Perm.Basic
import Schematron.Proofs.Xml.LineNumbers
import Schematron.Proofs.Xml.Loop

/-!
The lexer keeps the names of the tags that are open, and the builder the elements that are: both
hold the same names, token after token. Elements are told apart by the ordinals of their tags, which
the builder keeps where it would keep lines.
-/
namespace Schematron.Xml

namespace Builder

variable {numbered : Bool} {builder next : Builder} {token : Token}

def openNames (builder : Builder) : List (List Char) :=
  builder.openElements.map fun element => element.name.toList

theorem openNames_eraseLines (builder : Builder) :
    builder.eraseLines.openNames = builder.openNames := by
  simp [openNames, eraseLines]

theorem feed_of_step {line : Nat} (stepped : builder.step numbered (line, token) = .ok next) :
    builder.eraseLines.feed token = .ok next.eraseLines := by
  have erased := eraseLines_step numbered builder (line, token)
  rw [stepped] at erased
  exact step_false_iff.1 erased.symm

theorem map_name_grow (nodes : List Node) (openElements : List Element) :
    (grow nodes openElements).map (fun element => element.name.toList) =
      openElements.map fun element => element.name.toList := by
  cases openElements <;> rfl

/-- A token opens and closes an element where it opens and closes a tag. -/
theorem openNames_feed {names : List (List Char)} (taken : builder.feed token = .ok next)
    (read : Lexer.openNamesAfter builder.openNames token = .ok names) : next.openNames = names := by
  cases token with
  | startTag content =>
    obtain ⟨element, made, -, rfl⟩ := feed_startTag_iff.1 taken
    obtain ⟨-, attributes, -, rfl⟩ := Element.ofTag_iff.1 made
    cases read
    simp [openNames]
  | emptyTag content =>
    obtain ⟨element, -, -, rfl⟩ := feed_emptyTag_iff.1 taken
    cases read
    exact map_name_grow _ _
  | endTag name =>
    obtain ⟨element, outer, opened, -, rfl⟩ := feed_endTag_iff.1 taken
    rw [Lexer.openNamesAfter_endTag_iff, openNames, opened, List.map_cons, List.cons.injEq] at read
    exact (map_name_grow _ _).trans read.2
  | _ =>
    obtain ⟨-, -, -, -, rfl⟩ := (feed_leaf_iff rfl).1 taken
    cases read
    exact map_name_grow _ _

/-- The root is there only when no element is open. -/
theorem root_feed (taken : builder.feed token = .ok next)
    (rootless : builder.openElements ≠ [] → builder.root = none) :
    next.openElements ≠ [] → next.root = none := by
  intro opened
  cases token with
  | startTag content =>
    obtain ⟨element, -, free, rfl⟩ := feed_startTag_iff.1 taken
    by_cases closed : builder.openElements = []
    · exact free closed
    · exact rootless closed
  | emptyTag content =>
    obtain ⟨element, -, -, rfl⟩ := feed_emptyTag_iff.1 taken
    have outer : builder.openElements ≠ [] := fun closed => opened (grow_eq_nil_iff.2 closed)
    simpa [outer] using rootless outer
  | endTag name =>
    obtain ⟨element, outer, found, -, rfl⟩ := feed_endTag_iff.1 taken
    have unfinished : outer ≠ [] := fun closed => opened (grow_eq_nil_iff.2 closed)
    simpa [unfinished] using rootless (by simp [found])
  | _ =>
    obtain ⟨-, -, -, -, rfl⟩ := (feed_leaf_iff rfl).1 taken
    exact rootless fun closed => opened (grow_eq_nil_iff.2 closed)

end Builder

namespace Reading

/-- The open elements are those of the open tags, and only without any there may be a root. -/
structure InStep (reading : Reading) : Prop where
  names : reading.builder.openNames = reading.lexer.openNames
  rootless : reading.builder.openElements ≠ [] → reading.builder.root = none

variable {numbered : Bool} {length : Nat} {reading next last : Reading}

theorem inStep_start (text : List Char) : (start text).InStep := by
  refine ⟨?_, fun _ => rfl⟩
  change [] = (Lexer.start text).openNames
  unfold Lexer.start
  split <;> rfl

theorem InStep.round {token : Nat × Token} (h : reading.InStep)
    (taken : reading.round numbered length = .taken token next) : next.InStep := by
  obtain ⟨found, -, stepped⟩ := round_eq_taken_iff.1 taken
  have fed := Builder.feed_of_step stepped
  have read := (Lexer.next_source found).2
  rw [← h.names, ← Builder.openNames_eraseLines] at read
  refine ⟨?_, fun opened => ?_⟩
  · rw [← Builder.openNames_eraseLines]
    exact Builder.openNames_feed fed read
  · have rootless := Builder.root_feed fed (by simpa [Builder.eraseLines] using h.rootless)
    simpa [Builder.eraseLines] using rootless (by simpa [Builder.eraseLines] using opened)

/-- In every reading that is reached both hold the same. -/
theorem InStep.takes {done : List (Nat × Token)} (h : reading.InStep)
    (takes : Takes numbered length reading done last) : last.InStep := by
  induction takes with
  | nil => exact h
  | cons taken _ ih => exact ih (h.round taken)

theorem InStep.exists_attach {name : List Char} {after : Lexer} (h : reading.InStep)
    (found : reading.lexer.next = .token (.endTag name) after) :
    ∃ element outer closed, reading.builder.openElements = element :: outer ∧
      element.name.toList = name ∧
      ({ reading.builder with openElements := outer } : Builder).attach element = .ok closed := by
  have opened := Lexer.openNamesAfter_endTag_iff.1 (Lexer.next_source found).2
  rw [← h.names] at opened
  obtain ⟨element, outer, elements, named, -⟩ := List.map_eq_cons_iff.1 opened
  have rootless := h.rootless (by simp [elements])
  exact ⟨element, outer, _, elements, named, Builder.attach_iff.2 ⟨fun _ => rootless, rfl⟩⟩

theorem InStep.round_endTag {name : List Char} {after : Lexer} (h : reading.InStep)
    (found : reading.lexer.next = .token (.endTag name) after) :
    ∃ element outer closed line lines, reading.builder.openElements = element :: outer ∧
      element.name.toList = name ∧
      ({ reading.builder with openElements := outer } : Builder).attach element = .ok closed ∧
      reading.round numbered length =
        .taken (line, .endTag name) ⟨after, lines, { closed with started := true }⟩ := by
  obtain ⟨element, outer, closed, elements, named, attached⟩ := h.exists_attach found
  refine ⟨element, outer, closed, _, _, elements, named, attached,
    round_eq_taken_iff.2 ⟨found, rfl, ?_⟩⟩
  simp only [Builder.step, Builder.take, elements, attached]

theorem Takes.foldlM {done : List (Nat × Token)}
    (takes : Takes numbered length reading done last) :
    done.foldlM (Builder.step numbered) reading.builder = .ok last.builder := by
  induction takes with
  | nil => rfl
  | cons taken _ ih =>
    obtain ⟨-, -, stepped⟩ := round_eq_taken_iff.1 taken
    rw [List.foldlM_cons, bind_eq_ok_iff]
    exact ⟨_, stepped, ih⟩

theorem Takes.run {text : List Char} {done : List (Nat × Token)}
    (takes : Takes numbered length (start text) done last) :
    Builder.empty.run (done.map Prod.snd) = .ok last.builder.eraseLines := by
  have erased := Builder.eraseLines_run numbered Builder.empty done
  rw [show Builder.empty = (start text).builder from rfl, takes.foldlM] at erased
  exact Builder.foldlM_step_iff.1 erased.symm

end Reading

def ordered (tokens : List Token) : List (Nat × Token) :=
  tokens.zipIdx.map Prod.swap

def begun (tokens : List Token) : List Nat :=
  ((ordered tokens).filter (·.2.begins)).map Prod.fst

theorem map_snd_ordered (tokens : List Token) : (ordered tokens).map Prod.snd = tokens := by
  simp [ordered, Function.comp_def]

theorem nodup_begun (tokens : List Token) : (begun tokens).Nodup := by
  have distinct : ((ordered tokens).map Prod.fst).Nodup := by
    simp [ordered, Function.comp_def, List.nodup_range']
  exact distinct.sublist (List.filter_sublist.map _)

namespace Builder

/-- Takes in tokens; an element keeps the ordinal of its tag in place of a line. -/
def track (tokens : List Token) : Except ParseError Builder :=
  (ordered tokens).foldlM (step true) empty

/-- The elements that have been attached: the root with all that is in it, and all that is in the
open elements. -/
def attached (builder : Builder) : List Element :=
  builder.root.toList.flatMap Element.preorder ++
    builder.openElements.flatMap fun element => preorderNodes element.children

theorem perm_lines (builder : Builder) :
    ((builder.attached ++ builder.openElements).map Element.line).Perm builder.lines := by
  have preorder : (fun element : Element => element :: preorderNodes element.children) =
      Element.preorder := by
    funext element
    cases element
    rfl
  have inside := List.map_append_flatMap_perm builder.openElements id
    fun element => preorderNodes element.children
  rw [List.map_id] at inside
  simp only [id, preorder] at inside
  have whole : (builder.attached ++ builder.openElements).Perm
      ((builder.root.toList ++ builder.openElements.reverse).flatMap Element.preorder) := by
    rw [attached, List.append_assoc, List.flatMap_append]
    refine List.Perm.append_left _ (List.perm_append_comm.trans (inside.trans ?_))
    exact (List.reverse_perm _).symm.flatMap_right _
  rw [lines, show Element.lines = fun element => element.preorder.map Element.line from rfl,
    ← List.map_flatMap]
  exact whole.map _

/-- Each element that tokens begin is attached once or it is open. -/
def Accounts (tokens : List Token) (builder : Builder) : Prop :=
  ∃ tracked, track tokens = .ok tracked ∧ tracked.eraseLines = builder.eraseLines ∧
    ∀ ordinal : Nat, (tracked.attached.map Element.line).count (some ordinal) +
      (tracked.openElements.map Element.line).count (some ordinal) =
        if ordinal ∈ begun tokens then 1 else 0

/-- A run can be tracked, and then the elements are those begun, in document order. -/
theorem exists_track {tokens : List Token} {builder : Builder}
    (h : empty.run tokens = .ok builder) :
    ∃ tracked, track tokens = .ok tracked ∧ tracked.eraseLines = builder ∧
      tracked.lines = (begun tokens).map some := by
  have erased := eraseLines_run true empty (ordered tokens)
  have run : (ordered tokens).foldlM (step false) empty = .ok builder := by
    rwa [foldlM_step_iff, map_snd_ordered]
  rw [show empty.eraseLines = empty from rfl, run, map_eq_ok_iff] at erased
  obtain ⟨tracked, tracks, same⟩ := erased
  refine ⟨tracked, tracks, same, ?_⟩
  rw [lines_foldlM tracks, begun, List.map_map]
  rfl

theorem accounts_of_run {tokens : List Token} {builder : Builder}
    (h : empty.run tokens = .ok builder.eraseLines) : builder.Accounts tokens := by
  obtain ⟨tracked, tracks, same, lines⟩ := exists_track h
  refine ⟨tracked, tracks, same, fun ordinal => ?_⟩
  have counted := tracked.perm_lines.count_eq (some ordinal)
  rw [List.map_append, List.count_append, lines] at counted
  -- What is attached and what is open share out the ordinals that were begun, and these differ.
  rw [counted, List.count_map_of_injective _ _ fun _ _ => Option.some.inj]
  split
  next member => exact List.count_eq_one_of_mem (nodup_begun tokens) member
  next absent => exact List.count_eq_zero_of_not_mem absent

end Builder

def Cause.OverTags : Cause → Prop
  | .unexpectedEnd | .multipleRoots => True
  | _ => False

theorem Token.RefusedFor.overTags {token : Token} {cause : Cause} (h : token.RefusedFor cause)
    (order : cause.OverTags) :
    token.begins = true ∧ cause = .multipleRoots ∨ ∃ name, token = .endTag name := by
  cases token with
  | startTag | emptyTag =>
    rcases h with content | roots
    · cases cause <;> contradiction
    · exact .inl ⟨rfl, roots⟩
  | endTag name => exact .inr ⟨name, rfl⟩
  | declaration | doctype =>
    cases h
    contradiction
  | instruction | comment => cases cause <;> contradiction
  | text | cdata =>
    rcases h with content | rfl
    · cases cause <;> contradiction
    · contradiction

namespace Document

variable {text : String} {numbered : Bool}

theorem exists_begins_of_error {error : ParseError} (failed : parse text numbered = .error error)
    (order : error.cause.OverTags) :
    error.cause = .multipleRoots ∧ ∃ done reached lines token after,
      Reading.Takes numbered (length text) (reading text) done reached ∧
        reached.round numbered (length text) = .ended lines (.error error) ∧
        reached.lexer.next = .token token after ∧ token.begins = true := by
  obtain ⟨done, reached, lines, result, takes, ended, whole⟩ :=
    Reading.exists_takes numbered (length text) (reading text)
  have in_step := (Reading.inStep_start (dropMark text.toList)).takes takes
  rw [parse_eq_run, whole] at failed
  rcases Reading.of_round_ended ended with ⟨token, after, refused, found, stepped, -, rfl⟩ |
    ⟨fault, position, -, -, rfl⟩ | ⟨-, ⟨root, -, -, rfl⟩ | ⟨cause, finish, -, rfl⟩⟩
  · cases failed
    obtain ⟨taken, -⟩ := Builder.of_step_error stepped
    rcases (Builder.failsFor_take _ _ _ _ _ taken).overTags order with ⟨begins, roots⟩ | ⟨name, rfl⟩
    · exact ⟨roots, done, reached, lines, token, after, takes, ended, found, begins⟩
    · obtain ⟨element, outer, closed, line, lines, -, -, -, onward⟩ := in_step.round_endTag found
      rw [ended] at onward
      cases onward
  · cases failed
    contradiction
  · cases failed
  · cases failed
    have at_end := Builder.atEnd_of_finish finish
    cases cause <;> contradiction

/-- The open elements are in step with the open tags. A document is read round by round; whatever
tokens have been taken, the names of the open elements are those of the open tags, in order, and
there is no root while an element is open; each element that was begun is open or attached, once;
and where an end tag comes there is an element of its name to end and a place to attach it to. So no
end tag is refused, and if there is a second root it is a tag that begins it. In a document all
elements that were begun are attached, in the order of their tags. -/
theorem open_elements_in_step (text : String) (numbered : Bool) :
    parse text numbered = ((reading text).run numbered (length text)).2.map ofRoot ∧
    (∀ done reached, Reading.Takes numbered (length text) (reading text) done reached →
      reached.InStep ∧ reached.builder.Accounts (done.map Prod.snd) ∧
      ∀ name after, reached.lexer.next = .token (.endTag name) after →
        ∃ element outer closed line lines, reached.builder.openElements = element :: outer ∧
          element.name.toList = name ∧
          ({ reached.builder with openElements := outer } : Builder).attach element = .ok closed ∧
          reached.round numbered (length text) =
            .taken (line, .endTag name) ⟨after, lines, { closed with started := true }⟩) ∧
    (∀ error, parse text numbered = .error error →
      error.cause ≠ .unexpectedEnd ∧
      (error.cause = .multipleRoots → ∃ done reached lines token after,
        Reading.Takes numbered (length text) (reading text) done reached ∧
          reached.round numbered (length text) = .ended lines (.error error) ∧
          reached.lexer.next = .token token after ∧ token.begins = true)) ∧
    ∀ document, parse text numbered = .ok document →
      ∃ root : Element, root.eraseLines = document.root.eraseLines ∧
        root.lines = (begun (tokens text)).map some ∧ (begun (tokens text)).Nodup := by
  refine ⟨parse_eq_run text numbered, ?reached, ?refused, ?read⟩
  case reached =>
    intro done reached takes
    have in_step := (Reading.inStep_start (dropMark text.toList)).takes takes
    exact ⟨in_step, Builder.accounts_of_run takes.run, fun name after => in_step.round_endTag⟩
  case refused =>
    intro error failed
    refine ⟨fun unexpected => ?_, fun roots => ?_⟩
    · have roots := (exists_begins_of_error failed (by rw [unexpected]; trivial)).1
      rw [unexpected] at roots
      contradiction
    · exact (exists_begins_of_error failed (by rw [roots]; trivial)).2
  case read =>
    intro document read
    obtain ⟨-, ⟨builder, run, finish⟩, -⟩ := parse_false_iff.1 (parse_eraseLines read)
    obtain ⟨tracked, -, rfl, lines⟩ := Builder.exists_track run
    rw [← Builder.eraseLines_finish, map_eq_ok_iff] at finish
    obtain ⟨root, finish, same⟩ := finish
    exact ⟨root, same, (Builder.lines_finish finish).symm.trans lines, nodup_begun _⟩

theorem open_elements_in_step_nested :
    (∃ done reached element outer closed,
      Reading.Takes true (length "<a></a>") (reading "<a></a>") done reached ∧
      reached.lexer.next = .token (.endTag ['a']) ⟨7, [], []⟩ ∧
      reached.InStep ∧ reached.builder.Accounts [.startTag ['a']] ∧
      reached.builder.openElements = element :: outer ∧ element.name.toList = ['a'] ∧
      ({ reached.builder with openElements := outer } : Builder).attach element = .ok closed) ∧
    (∃ (error : ParseError) (reached : Reading) (token : Token) (after : Lexer),
      parse "<a/><b></b>" true = .error error ∧ error.cause = .multipleRoots ∧
      reached.lexer.next = .token token after ∧ token.begins = true) ∧
    ∃ (document : Document) (root : Element), parse "<a><b/>c<d></d></a>" true = .ok document ∧
      root.eraseLines = document.root.eraseLines ∧ root.lines = [some 0, some 1, some 3] := by
  refine ⟨?_, ?_, ?_⟩
  · obtain ⟨-, reach, -⟩ := open_elements_in_step "<a></a>" true
    have found : (reading "<a></a>").lexer.next =
        .token (.startTag ['a']) ⟨3, [['a']], "</a>".toList⟩ := by decide +kernel
    have sound : ((reading "<a></a>").builder.step true (1, .startTag ['a'])).isOk = true := by
      decide +kernel
    cases stepped : (reading "<a></a>").builder.step true (1, .startTag ['a']) with
    | error error => simp [stepped, Except.isOk, Except.toBool] at sound
    | ok builder =>
      have taken : (reading "<a></a>").round true (length "<a></a>") = .taken (1, .startTag ['a'])
          ⟨⟨3, [['a']], "</a>".toList⟩, _, builder⟩ :=
        Reading.round_eq_taken_iff.2 ⟨found, rfl, stepped⟩
      have takes := Reading.Takes.cons taken (.nil _)
      have ending : (⟨3, [['a']], "</a>".toList⟩ : Lexer).next =
          .token (.endTag ['a']) ⟨7, [], []⟩ := by decide +kernel
      obtain ⟨in_step, accounts, ends⟩ := reach _ _ takes
      obtain ⟨element, outer, closed, _, _, opened, named, attached, -⟩ := ends _ _ ending
      exact ⟨_, _, element, outer, closed, takes, ending, in_step, accounts, opened, named,
        attached⟩
  · have refused : parse "<a/><b></b>" true = .error ⟨some 1, .multipleRoots⟩ := by decide +kernel
    obtain ⟨-, reached, -, token, after, -, -, found, begins⟩ :=
      ((open_elements_in_step _ _).2.2.1 _ refused).2 rfl
    exact ⟨_, reached, token, after, refused, rfl, found, begins⟩
  · have read : parse "<a><b/>c<d></d></a>" true = .ok (ofRoot ⟨"a", [],
        [.element ⟨"b", [], [], some 1⟩, .text "c", .element ⟨"d", [], [], some 1⟩], some 1⟩) := by
      decide +kernel
    have ordinals : begun (tokens "<a><b/>c<d></d></a>") = [0, 1, 3] := by decide +kernel
    obtain ⟨root, same, lines, -⟩ := (open_elements_in_step _ _).2.2.2 _ read
    rw [ordinals] at lines
    exact ⟨_, root, read, same, lines⟩

end Document
end Schematron.Xml
