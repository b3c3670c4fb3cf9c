import Schematron.Proofs.Xml.Place

/-!
The builder holds the elements begun so far in document order: the root if it is complete, then the
open ones from the outermost on, each before what is in it. A tag that begins an element puts its
line at the end.
-/
namespace Schematron.Xml

def Cause.OnToken : Cause → Prop
  | .markup _ | .unclosedElement _ | .noRoot => False
  | _ => True

def Cause.AtEnd : Cause → Prop
  | .unclosedElement _ | .noRoot => True
  | _ => False

theorem Cause.AtEnd.not_onToken {cause : Cause} (h : cause.AtEnd) : ¬cause.OnToken := by
  cases cause <;> simp_all [Cause.AtEnd, Cause.OnToken]

def Cause.OfContent : Cause → Prop
  | .attributes _ | .reference _ | .violation _ => True
  | _ => False

def Token.RefusedFor : Token → Cause → Prop
  | .declaration _, cause => cause = .misplacedDeclaration
  | .doctype _, cause => cause = .misplacedDoctype
  | .startTag _, cause | .emptyTag _, cause => cause.OfContent ∨ cause = .multipleRoots
  | .endTag _, cause => cause = .unexpectedEnd ∨ cause = .multipleRoots
  | .text _, cause => cause.OfContent ∨ cause = .textOutsideRoot
  | .cdata _, cause => cause.OfContent ∨ cause = .cdataOutsideRoot
  | .instruction _, cause | .comment _, cause => cause.OfContent

theorem Cause.OfContent.onToken {cause : Cause} (h : cause.OfContent) : cause.OnToken := by
  cases cause <;> simp_all [Cause.OfContent, Cause.OnToken]

theorem Token.RefusedFor.onToken {token : Token} {cause : Cause} (h : token.RefusedFor cause) :
    cause.OnToken := by
  cases token with
  | declaration | doctype =>
    cases h
    trivial
  | instruction | comment => exact Cause.OfContent.onToken h
  | startTag | emptyTag | text | cdata =>
    rcases h with content | rfl
    · exact content.onToken
    · trivial
  | endTag => rcases h with rfl | rfl <;> trivial

def FailsFor {α : Type} (allowed : Cause → Prop) (result : Except Cause α) : Prop :=
  ∀ cause, result = .error cause → allowed cause

namespace FailsFor

variable {α β ε : Type} {allowed : Cause → Prop}

theorem ok (a : α) : FailsFor allowed (.ok a) :=
  nofun

theorem error {cause : Cause} (h : allowed cause) :
    FailsFor allowed (.error cause : Except Cause α) := by
  rintro _ ⟨⟩
  exact h

theorem mapError {result : Except ε α} {kind : ε → Cause} (h : ∀ fault, allowed (kind fault)) :
    FailsFor allowed (result.mapError kind) := by
  cases result with
  | ok a => exact ok a
  | error fault => exact error (h fault)

theorem bind {result : Except Cause α} {next : α → Except Cause β} (h : FailsFor allowed result)
    (later : ∀ a, FailsFor allowed (next a)) : FailsFor allowed (result >>= next) := by
  cases result with
  | ok a => exact later a
  | error cause =>
    rintro _ ⟨⟩
    exact h _ rfl

theorem mono {result : Except Cause α} {wider : Cause → Prop} (h : FailsFor allowed result)
    (within : ∀ cause, allowed cause → wider cause) : FailsFor wider result :=
  fun cause failed => within cause (h cause failed)

end FailsFor

theorem failsFor_readAttributes (seen : List AttributeKey) (cursor : TagCursor) :
    FailsFor Cause.OfContent (readAttributes seen cursor) := by
  induction seen, cursor using readAttributes.induct with
  | case1 seen cursor fault failed =>
    rw [readAttributes]
    split <;> simp_all [FailsFor, Cause.OfContent]
  | case2 seen cursor ended =>
    rw [readAttributes]
    split <;> simp_all [FailsFor, Cause.OfContent]
  | case3 seen cursor raw after found ih =>
    rw [readAttributes]
    split
    next other => simp [other] at found
    next other => simp [other] at found
    next other =>
      cases found.symm.trans other
      refine .bind (.mapError fun _ => trivial) fun _ => ?_
      refine .bind (.mapError fun _ => trivial) fun _ => ?_
      refine .bind (.mapError fun _ => trivial) fun _ => ?_
      exact ih.bind fun _ => .ok _

theorem failsFor_ofTag (content : List Char) (line : Option Nat) :
    FailsFor Cause.OfContent (Element.ofTag content line) := by
  refine .bind (.mapError fun _ => trivial) fun _ => ?_
  exact (failsFor_readAttributes _ _).bind fun _ => .ok _

namespace Builder

theorem failsFor_attach (element : Element) (builder : Builder) :
    FailsFor (· = .multipleRoots) (builder.attach element) := by
  unfold attach
  split
  · exact .ok _
  · exact .ok _
  · exact .error rfl

theorem failsFor_take (numbered : Bool) (line : Nat) (builder : Builder) (token : Token) :
    FailsFor token.RefusedFor (builder.take numbered line token) := by
  unfold take
  split
  next =>
    split
    · exact .error rfl
    · exact .ok _
  next =>
    split
    · exact .error rfl
    · exact .ok _
  next => exact .bind (.mapError fun _ => trivial) fun _ => .ok _
  next =>
    refine ((failsFor_ofTag _ _).mono fun _ => .inl).bind fun element => ?_
    dsimp only
    split
    · exact .error (.inr rfl)
    · exact .ok _
  next =>
    refine ((failsFor_ofTag _ _).mono fun _ => .inl).bind fun element => ?_
    exact (failsFor_attach element builder).mono fun _ => .inr
  next =>
    split
    · exact .error (.inl rfl)
    · exact (failsFor_attach _ _).mono fun _ => .inr
  next =>
    refine .bind (.mapError fun _ => .inl trivial) fun _ => ?_
    refine .bind (.mapError fun _ => .inl trivial) fun _ => ?_
    split
    · exact .ok _
    · split
      · exact .ok _
      · exact .error (.inr rfl)
  next =>
    refine .bind (.mapError fun _ => .inl trivial) fun _ => ?_
    split
    · exact .ok _
    · exact .error (.inr rfl)
  next =>
    refine .bind (.mapError fun _ => trivial) fun _ => ?_
    split
    · exact .ok _
    · exact .ok _

theorem failsOnToken_feed (builder : Builder) (token : Token) :
    FailsFor Cause.OnToken (builder.feed token) := by
  have taken := failsFor_take false 0 builder token
  unfold feed
  cases found : builder.take false 0 token with
  | ok next => exact .ok _
  | error cause => exact .error (taken cause found).onToken

theorem atEnd_of_finish {builder : Builder} {cause : Cause} (h : builder.finish = .error cause) :
    cause.AtEnd := by
  obtain ⟨openElements, root, started, doctypeSeen⟩ := builder
  cases openElements <;> cases root <;> cases h <;> trivial

end Builder

def Token.begins : Token → Bool
  | .startTag _ | .emptyTag _ => true
  | _ => false

theorem preorderNodes_append (first second : List Node) :
    preorderNodes (first ++ second) = preorderNodes first ++ preorderNodes second := by
  induction first with
  | nil => rfl
  | cons node rest ih => simp [preorderNodes, ih]

def Element.lines (element : Element) : List (Option Nat) :=
  element.preorder.map Element.line

theorem Element.lines_addChild (parent : Element) (child : Node) :
    (parent.addChild child).lines = parent.lines ++ child.preorder.map Element.line := by
  obtain ⟨name, attributes, children, line⟩ := parent
  simp [lines, addChild, preorder, preorderNodes_append, preorderNodes]

theorem Element.lines_of_ofTag {content : List Char} {line : Option Nat} {element : Element}
    (h : Element.ofTag content line = .ok element) : element.lines = [line] := by
  obtain ⟨-, attributes, -, rfl⟩ := Element.ofTag_iff.1 h
  rfl

namespace Builder

/-- The lines of the elements begun so far: those of the root, then those of the open elements from
the outermost on. -/
def lines (builder : Builder) : List (Option Nat) :=
  (builder.root.toList ++ builder.openElements.reverse).flatMap Element.lines

theorem lines_attach {element : Element} {builder next : Builder}
    (h : builder.attach element = .ok next) : next.lines = builder.lines ++ element.lines := by
  obtain ⟨openElements, root, started, doctypeSeen⟩ := builder
  cases openElements with
  | nil =>
    cases root with
    | none =>
      cases h
      simp [lines]
    | some root => cases h
  | cons parent outer =>
    cases h
    have added : (parent.addChild (.element element)).lines = parent.lines ++ element.lines :=
      parent.lines_addChild (.element element)
    simp [lines, added]

theorem lines_grow {builder : Builder} {parent : Element} {outer : List Element} {child : Node}
    (opened : builder.openElements = parent :: outer) (leaf : child.preorder = []) :
    { builder with openElements := parent.addChild child :: outer }.lines = builder.lines := by
  simp [lines, opened, Element.lines_addChild, leaf]

/-- A token that begins an element adds its line, and no other token adds any. -/
theorem lines_take {line : Nat} {builder next : Builder} {token : Token}
    (h : builder.take true line token = .ok next) :
    next.lines = builder.lines ++ if token.begins then [some line] else [] := by
  cases token with
  | startTag content =>
    simp only [take, if_true, bind_eq_ok_iff] at h
    obtain ⟨element, read, h⟩ := h
    split at h
    · cases h
    · cases h
      simp [lines, Token.begins, Element.lines_of_ofTag read]
  | emptyTag content =>
    simp only [take, if_true, bind_eq_ok_iff] at h
    obtain ⟨element, read, attached⟩ := h
    rw [lines_attach attached, Element.lines_of_ofTag read]
    rfl
  | endTag name =>
    simp only [take] at h
    split at h
    next => cases h
    next element outer opened =>
      rw [lines_attach h]
      simp [lines, opened, Token.begins]
  | text raw =>
    simp only [take, bind_eq_ok_iff] at h
    obtain ⟨_, -, text, -, h⟩ := h
    split at h
    next parent outer opened =>
      cases h
      simpa [Token.begins] using lines_grow opened rfl
    next =>
      split at h <;> cases h
      simp [Token.begins]
  | cdata content =>
    simp only [take, bind_eq_ok_iff] at h
    obtain ⟨_, -, h⟩ := h
    split at h
    next parent outer opened =>
      cases h
      simpa [Token.begins] using lines_grow opened rfl
    next => cases h
  | comment content =>
    simp only [take, bind_eq_ok_iff] at h
    obtain ⟨_, -, h⟩ := h
    split at h
    next parent outer opened =>
      cases h
      simpa [Token.begins] using lines_grow opened rfl
    next =>
      cases h
      simp [Token.begins]
  | declaration content =>
    simp only [take] at h
    split at h <;> cases h
    simp [Token.begins]
  | doctype content =>
    simp only [take] at h
    split at h <;> cases h
    simp [Token.begins, lines]
  | instruction content =>
    simp only [take, bind_eq_ok_iff] at h
    obtain ⟨_, -, h⟩ := h
    cases h
    simp [Token.begins]

/-- The lines of all tokens that begin elements are added, one after the other. -/
theorem lines_foldlM {builder after : Builder} {tokens : List (Nat × Token)}
    (h : tokens.foldlM (step true) builder = .ok after) :
    after.lines = builder.lines ++ (tokens.filter (·.2.begins)).map (some ·.1) := by
  induction tokens generalizing builder with
  | nil =>
    cases h
    simp
  | cons token rest ih =>
    rw [List.foldlM_cons, bind_eq_ok_iff] at h
    obtain ⟨next, stepped, h⟩ := h
    unfold step at stepped
    split at stepped
    next taken found =>
      cases stepped
      have added : taken.lines = _ := lines_take found
      rw [ih h, show ({ taken with started := true } : Builder).lines = taken.lines from rfl, added]
      cases begun : token.2.begins <;> simp [begun]
    next => cases stepped

theorem lines_finish {builder : Builder} {root : Element} (h : builder.finish = .ok root) :
    builder.lines = root.lines := by
  obtain ⟨closed, rooted⟩ := finish_iff.1 h
  simp [lines, closed, rooted]

theorem foldlM_step_error {builder : Builder} {tokens : List (Nat × Token)} {error : ParseError}
    (h : tokens.foldlM (step false) builder = .error error) :
    ∃ front line token rest reached, tokens = front ++ (line, token) :: rest ∧
      builder.run (front.map Prod.snd) = .ok reached ∧ reached.feed token = .error error.cause ∧
      error.line = some line := by
  induction tokens generalizing builder with
  | nil => cases h
  | cons found rest ih =>
    obtain ⟨line, token⟩ := found
    rw [List.foldlM_cons] at h
    cases stepped : step false builder (line, token) with
    | error refused =>
      rw [stepped] at h
      cases h
      have unnumbered : builder.take false line token = builder.take false 0 token := by
        cases token <;> rfl
      refine ⟨[], line, token, rest, builder, rfl, rfl, ?_⟩
      unfold step at stepped
      unfold feed
      rw [unnumbered] at stepped
      split at stepped
      next => cases stepped
      next cause failed =>
        cases stepped
        rw [failed]
        exact ⟨rfl, rfl⟩
    | ok next =>
      rw [stepped] at h
      obtain ⟨front, line', token', rest', reached, split, run, refused⟩ := ih h
      refine ⟨(line, token) :: front, line', token', rest', reached, by rw [split]; rfl, ?_,
        refused⟩
      exact run_cons_iff.2 ⟨next, step_false_iff.1 stepped, run⟩

end Builder

namespace Document

theorem lines_of_rootOfLexed {bytes : List UInt8} {lexed : Lexed} {root : Element}
    (h : rootOfLexed true bytes lexed = .ok root) :
    root.lines =
        ((numberTokens (.start bytes) lexed.tokens).1.filter (·.2.begins)).map (some ·.1) ∧
      ∃ offset, lexed.ending = .finished offset := by
  simp only [rootOfLexed, bind_eq_ok_iff] at h
  obtain ⟨builder, run, h⟩ := h
  cases ended : lexed.ending with
  | failed fault offset =>
    rw [ended] at h
    cases h
  | finished offset =>
    rw [ended, mapError_eq_ok_iff] at h
    refine ⟨?_, offset, rfl⟩
    rw [← Builder.lines_finish h, Builder.lines_foldlM run]
    simp [Builder.lines, Builder.empty]

theorem rootOfLexed_error {bytes : List UInt8} {lexed : Lexed} {error : ParseError}
    (h : rootOfLexed false bytes lexed = .error error) :
    let numbered := numberTokens (.start bytes) lexed.tokens
    (∃ front line token rest builder, numbered.1 = front ++ (line, token) :: rest ∧
      Builder.empty.run (front.map Prod.snd) = .ok builder ∧
      builder.feed token = .error error.cause ∧ error.line = some line) ∨
    (∃ fault, error.cause = .markup fault) ∨
    ∃ offset builder, lexed.ending = .finished offset ∧
      Builder.empty.run (numbered.1.map Prod.snd) = .ok builder ∧
      builder.finish = .error error.cause ∧
      error.line = some (numbered.2.lineAt bytes.length).1 := by
  intro numbered
  unfold rootOfLexed at h
  change (numbered.1.foldlM (Builder.step false) Builder.empty >>= _) = _ at h
  cases run : numbered.1.foldlM (Builder.step false) Builder.empty with
  | error refused =>
    rw [run] at h
    cases h
    exact .inl (Builder.foldlM_step_error run)
  | ok builder =>
    rw [run] at h
    cases ended : lexed.ending with
    | failed fault offset =>
      simp only [bind, Except.bind, ended] at h
      cases h
      exact .inr (.inl ⟨fault, rfl⟩)
    | finished offset =>
      simp only [bind, Except.bind, ended] at h
      cases unfinished : builder.finish with
      | ok root => simp [unfinished, Except.mapError] at h
      | error cause =>
        rw [unfinished] at h
        cases h
        exact .inr (.inr ⟨offset, builder, rfl, Builder.foldlM_step_iff.1 run, unfinished, rfl⟩)

def IsMark (mark : List Char) : Prop :=
  mark = [] ∨ mark = ['\ufeff']

theorem exists_mark (text : List Char) : ∃ mark, IsMark mark ∧ text = mark ++ dropMark text := by
  unfold dropMark
  split
  · exact ⟨_, .inr rfl, rfl⟩
  · exact ⟨_, .inl rfl, rfl⟩

theorem lineBreaks_mark {mark : List Char} (h : IsMark mark) (before : List Char) :
    lineBreaks (mark ++ before) = lineBreaks before := by
  rcases h with rfl | rfl
  · rfl
  · rw [List.singleton_append, lineBreaks_cons]
    simp

theorem head?_dropMark {text : List Char} (single : ¬['\ufeff', '\ufeff'] <+: text) :
    (dropMark text).head? ≠ some '\ufeff' := by
  intro marked
  obtain ⟨rest, split⟩ := List.head?_eq_some_iff.1 marked
  unfold dropMark at split
  split at split
  next rest' =>
    rw [split] at single
    exact single ⟨rest, rfl⟩
  next unmarked => exact unmarked rest split

theorem numberTokens_text {text : List Char} (single : ¬['\ufeff', '\ufeff'] <+: text) :
    let bytes := Utf8.encode (dropMark text)
    let numbered := numberTokens (.start bytes) (lex (dropMark text)).tokens
    ∃ mark placed final left, IsMark mark ∧ Places mark placed final ∧ text = final ++ left ∧
      (lex (dropMark text)).tokens.map Located.token = placed.map Prod.snd ∧
      numbered.1 = placed.map (fun place => (1 + lineBreaks place.1, place.2)) ∧
      (numbered.2.lineAt bytes.length).1 = 1 + lineBreaks text ∧
      ∀ offset, (lex (dropMark text)).ending = .finished offset → left = [] := by
  intro bytes numbered
  obtain ⟨mark, is_mark, split⟩ := exists_mark text
  obtain ⟨placed, final, left, places, whole, tokens, lines, counts, finished⟩ :=
    numberTokens_lex (head?_dropMark single)
  have placed_after := places.prepend mark
  rw [List.append_nil] at placed_after
  refine ⟨mark, _, mark ++ final, left, is_mark, placed_after, ?_, ?_, ?_, ?_, finished⟩
  · rw [List.append_assoc, ← whole, ← split]
  · rw [tokens, List.map_map]
    rfl
  · rw [List.map_map]
    refine lines.trans (List.map_congr_left fun place _ => ?_)
    simp only [Function.comp_apply, lineBreaks_mark is_mark]
  · have ending : lineOf bytes (Utf8.size (dropMark text)) = 1 + lineBreaks (dropMark text) := by
      have kept : KeepsBreaks (dropMark text) [] := by simp [KeepsBreaks]
      simpa using lineOf_encode kept
    have counted := lineBreaks_mark is_mark (dropMark text)
    rw [← split] at counted
    rw [(counts.lineAt counts.within (Nat.le_refl _)).1, Utf8.length_encode, counted]
    exact ending

theorem rising_lines {before final : List Char} {placed : List (List Char × Token)}
    (places : Places before placed final) (kept : List Char × Token → Bool) :
    ((placed.filter kept).map fun place => 1 + lineBreaks place.1).Pairwise (· ≤ ·) := by
  rw [List.pairwise_map]
  have rising := (List.pairwise_cons.1 places.rising).2
  rw [List.pairwise_map] at rising
  refine (rising.filter _).imp fun {first second} front => ?_
  obtain ⟨more, split⟩ := front
  rw [← split]
  exact Nat.add_le_add_left (lineBreaks_le_append _ _) 1

theorem rootOfLexed_of_parse {text : String} {numbered : Bool} {error : ParseError}
    (failed : parse text numbered = .error error) :
    rootOfLexed false (Utf8.encode (dropMark text.toList)) (lex (dropMark text.toList)) =
      .error error := by
  have unnumbered : parse text false = .error error := by
    rw [← eraseLines_parse text numbered, failed]
    rfl
  unfold parse ofText at unnumbered
  dsimp only at unnumbered
  cases built : rootOfLexed false (Utf8.encode (dropMark text.toList))
    (lex (dropMark text.toList)) <;> rw [built] at unnumbered <;> cases unnumbered
  rfl

/-- With at most one mark at its start, a text is read with the lines that its line ends make. In a
document every element has the line of the text before its tag, so no line is above one of an
element before it. A fault of a token has the line of the text before the token, which is the first
one that is not taken, and a fault of the end the line of the whole text. -/
theorem parse_lines {text : String} (single : ¬['\ufeff', '\ufeff'] <+: text.toList) :
    (∀ document, parse text true = .ok document →
      ∃ mark placed lines, IsMark mark ∧ Places mark placed text.toList ∧
        placed.map Prod.snd = tokens text ∧
        lines = (placed.filter (·.2.begins)).map (fun place => 1 + lineBreaks place.1) ∧
        document.root.descendants.map Element.line = lines.map some ∧ lines.Pairwise (· ≤ ·)) ∧
    ∀ numbered error, parse text numbered = .error error →
      (error.cause.OnToken →
        ∃ mark placed before token source builder, IsMark mark ∧ Places mark placed before ∧
          token.Source source ∧ before ++ source <+: text.toList ∧
          placed.map Prod.snd ++ [token] <+: tokens text ∧
          Builder.empty.run (placed.map Prod.snd) = .ok builder ∧
          builder.feed token = .error error.cause ∧ error.line = some (1 + lineBreaks before)) ∧
      (error.cause.AtEnd →
        ∃ builder, Tokenizes text ∧ Builder.empty.run (tokens text) = .ok builder ∧
          builder.finish = .error error.cause ∧
          error.line = some (1 + lineBreaks text.toList)) := by
  obtain ⟨mark, placed, final, left, is_mark, places, whole, tokens_eq, lines_eq, end_line,
    finished⟩ := numberTokens_text single
  constructor
  · intro document read
    -- The whole text was read, so the places reach to its end.
    simp only [parse, ofText, map_eq_ok_iff] at read
    obtain ⟨root, built, rfl⟩ := read
    obtain ⟨lines, offset, ended⟩ := lines_of_rootOfLexed built
    obtain rfl := finished offset ended
    rw [List.append_nil] at whole
    rw [lines_eq, List.filter_map, List.map_map] at lines
    refine ⟨mark, placed, _, is_mark, whole ▸ places, tokens_eq.symm, rfl, ?_, ?_⟩
    · rw [List.map_map]
      simpa [Element.descendants, walk_eq_flatMap, Element.lines, ofRoot, Function.comp_def] using
        lines
    · exact rising_lines places _
  · intro numbered error failed
    rcases rootOfLexed_error (rootOfLexed_of_parse failed) with
      ⟨front, line, token, rest, builder, split, run, fed, line_eq⟩ | ⟨fault, markup⟩ |
        ⟨offset, builder, ended, run, unfinished, line_eq⟩
    -- The tokens with their lines are the places with theirs, so the refused token has a place.
    · obtain ⟨front, back, rfl, rfl, cut⟩ := List.map_eq_append_iff.1 (lines_eq.symm.trans split)
      obtain ⟨⟨before, token⟩, back, rfl, same, rfl⟩ := List.map_eq_cons_iff.1 cut
      cases same
      obtain ⟨reached, source, written, starts⟩ := places.split
      rw [List.map_map] at run
      refine ⟨fun _ => ⟨mark, front, before, token, source, builder, is_mark, reached, written,
        ?_, ?_, run, fed, line_eq⟩, fun ended => ?_⟩
      · rw [whole]
        exact starts.trans (List.prefix_append final left)
      · rw [tokens, tokens_eq, List.map_append, List.map_cons]
        exact ⟨back.map Prod.snd, by simp⟩
      · exact absurd (builder.failsOnToken_feed token _ fed) ended.not_onToken
    · rw [markup]
      exact ⟨False.elim, False.elim⟩
    · have at_end := Builder.atEnd_of_finish unfinished
      refine ⟨fun onToken => absurd onToken at_end.not_onToken, fun _ => ?_⟩
      rw [map_snd_numberTokens] at run
      exact ⟨builder, ⟨offset, ended⟩, run, unfinished, by rw [line_eq, end_line]⟩

theorem parse_lines_mixed :
    (∃ document, parse "\ufeff\r\n<a>\r<b/></a>" true = .ok document ∧
      ∃ mark placed lines, Places mark placed "\ufeff\r\n<a>\r<b/></a>".toList ∧
        lines = (placed.filter (·.2.begins)).map (fun place => 1 + lineBreaks place.1) ∧
        document.root.descendants.map Element.line = lines.map some) ∧
    (∃ error, parse "<a>\r\n\r<b c/></a>" true = .error error ∧
      ∃ before source, before ++ source <+: "<a>\r\n\r<b c/></a>".toList ∧
        error.line = some (1 + lineBreaks before)) ∧
    ∃ error, parse "<a>\r\n\r" true = .error error ∧
      error.line = some (1 + lineBreaks "<a>\r\n\r".toList) := by
  have read : parse "\ufeff\r\n<a>\r<b/></a>" true = .ok (ofRoot ⟨"a", [],
      [.text "\r", .element ⟨"b", [], [], some 3⟩], some 2⟩) := by decide +kernel
  have refused : parse "<a>\r\n\r<b c/></a>" true =
      .error ⟨some 3, .attributes (.missingEquals 3)⟩ := by decide +kernel
  have unclosed : parse "<a>\r\n\r" true = .error ⟨some 3, .unclosedElement "a"⟩ := by
    decide +kernel
  refine ⟨⟨_, read, ?_⟩, ⟨_, refused, ?_⟩, ⟨_, unclosed, ?_⟩⟩
  · obtain ⟨mark, placed, lines, _, places, _, found, same, _⟩ :=
      (parse_lines (by decide)).1 _ read
    exact ⟨mark, placed, lines, places, found, same⟩
  · obtain ⟨_, _, before, _, source, _, _, _, _, starts, _, _, _, line⟩ :=
      ((parse_lines (by decide)).2 _ _ refused).1 trivial
    exact ⟨before, source, starts, line⟩
  · obtain ⟨_, _, _, _, line⟩ := ((parse_lines (by decide)).2 _ _ unclosed).2 trivial
    exact line

end Document
end Schematron.Xml
