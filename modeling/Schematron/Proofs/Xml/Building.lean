import Schematron.Proofs.Outcome
import Schematron.Proofs.Xml.Layout

/-!
How the builder goes through tokens when elements keep no lines. One lemma for each kind of token
says when it is taken and what it does; everything else is derived from those.
-/
namespace Schematron.Xml

def Token.leaves : Token → List Node
  | .text raw =>
    match unescape raw with
    | .ok resolved => [.text (String.ofList resolved)]
    | .error _ => []
  | .cdata content => [.text (String.ofList content)]
  | .comment content => [.comment (String.ofList content)]
  | _ => []

theorem Token.eventsOfNodes_leaves {token : Token} (h : token.isTag = false) :
    eventsOfNodes token.leaves = token.events := by
  cases token with
  | text raw =>
    simp only [leaves, events]
    cases unescape raw <;> simp [eventsOfNodes, Node.events]
  | startTag | emptyTag | endTag => cases h
  | _ => simp [leaves, events, eventsOfNodes, Node.events]

def grow (nodes : List Node) : List Element → List Element
  | [] => []
  | parent :: outer => { parent with children := parent.children ++ nodes } :: outer

@[simp] theorem length_grow (nodes : List Node) (openElements : List Element) :
    (grow nodes openElements).length = openElements.length := by
  cases openElements <;> rfl

@[simp] theorem grow_nil (openElements : List Element) : grow [] openElements = openElements := by
  cases openElements with
  | nil => rfl
  | cons parent outer =>
    cases parent
    simp [grow]

@[simp] theorem grow_grow (first second : List Node) (openElements : List Element) :
    grow second (grow first openElements) = grow (first ++ second) openElements := by
  cases openElements <;> simp [grow]

@[simp] theorem grow_eq_nil_iff {nodes : List Node} {openElements : List Element} :
    grow nodes openElements = [] ↔ openElements = [] := by
  cases openElements <;> simp [grow]

theorem Element.events_of_ofTag {content : List Char} {element : Element}
    (h : Element.ofTag content none = .ok element) (nodes : List Node) :
    ({ element with children := element.children ++ nodes } : Element).events =
      Token.openingEvents content ++ (eventsOfNodes nodes ++ [.closed]) := by
  have bare : element.children = [] ∧ element.line = none := by
    simp only [Element.ofTag, bind_eq_ok_iff, pure_eq_ok_iff] at h
    obtain ⟨_, _, _, _, rfl⟩ := h
    exact ⟨rfl, rfl⟩
  simp [Element.events, Token.openingEvents, h, bare]

namespace Builder

/-- Takes in one token; elements keep no lines. -/
def feed (builder : Builder) (token : Token) : Except Cause Builder :=
  (builder.take false 0 token).map fun next => { next with started := true }

def run (builder : Builder) (tokens : List Token) : Except Cause Builder :=
  tokens.foldlM feed builder

@[simp] theorem run_nil (builder : Builder) : builder.run [] = .ok builder :=
  rfl

theorem run_cons_iff {builder after : Builder} {token : Token} {rest : List Token} :
    builder.run (token :: rest) = .ok after ↔
      ∃ next, builder.feed token = .ok next ∧ next.run rest = .ok after := by
  simp [run]

theorem run_append_iff {builder after : Builder} {first second : List Token} :
    builder.run (first ++ second) = .ok after ↔
      ∃ next, builder.run first = .ok next ∧ next.run second = .ok after := by
  simp [run]

theorem feed_iff {builder after : Builder} {token : Token} :
    builder.feed token = .ok after ↔
      ∃ next, builder.take false 0 token = .ok next ∧ { next with started := true } = after := by
  simp [feed]

theorem feed_leaf_iff {builder after : Builder} {token : Token} (h : token.isTag = false) :
    builder.feed token = .ok after ↔
      token.Sound ∧ (token.isDeclaration = true → builder.started = false) ∧
        (token.isDoctype = true →
          builder.doctypeSeen = false ∧ builder.root = none ∧ builder.openElements = []) ∧
        (builder.openElements = [] → token.StandsOutside) ∧
        ⟨grow token.leaves builder.openElements, builder.root, true,
          builder.doctypeSeen || token.isDoctype⟩ = after := by
  obtain ⟨openElements, root, started, doctypeSeen⟩ := builder
  rw [feed_iff]
  cases token with
  | startTag | emptyTag | endTag => cases h
  | declaration content =>
    cases started <;>
      simp [take, Token.Sound, Token.isDeclaration, Token.isDoctype, Token.StandsOutside,
        Token.leaves]
  | doctype content =>
    cases doctypeSeen <;> cases root <;> cases openElements <;>
      simp [take, Token.Sound, Token.isDeclaration, Token.isDoctype, Token.StandsOutside,
        Token.leaves]
  | instruction content =>
    simp [take, Token.Sound, Token.isDeclaration, Token.isDoctype, Token.StandsOutside,
      Token.leaves, and_assoc]
  | comment content =>
    cases openElements <;>
      simp [take, Token.Sound, Token.isDeclaration, Token.isDoctype, Token.StandsOutside,
        Token.leaves, grow, Element.addChild, and_assoc]
  | cdata content =>
    cases openElements <;>
      simp [take, Token.Sound, Token.isDeclaration, Token.isDoctype, Token.StandsOutside,
        Token.leaves, grow, Element.addChild, and_assoc]
  | text raw =>
    cases resolved : unescape raw with
    | error => simp [take, resolved, Token.Sound]
    | ok text =>
      cases openElements with
      | nil =>
        by_cases blank : text.all Text.isBlank = true <;>
          simp [take, resolved, blank, Token.Sound, Token.isDeclaration, Token.isDoctype,
            Token.StandsOutside, grow, and_assoc, -List.all_eq_true]
      | cons parent outer =>
        simp [take, resolved, Token.Sound, Token.isDeclaration, Token.isDoctype,
          Token.StandsOutside, Token.leaves, grow, Element.addChild, and_assoc]

theorem attach_iff {element : Element} {builder after : Builder} :
    builder.attach element = .ok after ↔
      (builder.openElements = [] → builder.root = none) ∧
        ⟨grow [.element element] builder.openElements,
          if builder.openElements.isEmpty then some element else builder.root, builder.started,
          builder.doctypeSeen⟩ = after := by
  obtain ⟨openElements, root, started, doctypeSeen⟩ := builder
  cases openElements <;> cases root <;> simp [attach, grow, Element.addChild]

theorem feed_startTag_iff {builder after : Builder} {content : List Char} :
    builder.feed (.startTag content) = .ok after ↔
      ∃ element, Element.ofTag content none = .ok element ∧
        (builder.openElements = [] → builder.root = none) ∧
        ⟨element :: builder.openElements, builder.root, true, builder.doctypeSeen⟩ = after := by
  obtain ⟨openElements, root, started, doctypeSeen⟩ := builder
  cases openElements <;> cases root <;> simp [feed_iff, take]

theorem feed_emptyTag_iff {builder after : Builder} {content : List Char} :
    builder.feed (.emptyTag content) = .ok after ↔
      ∃ element, Element.ofTag content none = .ok element ∧
        (builder.openElements = [] → builder.root = none) ∧
        ⟨grow [.element element] builder.openElements,
          if builder.openElements.isEmpty then some element else builder.root, true,
          builder.doctypeSeen⟩ = after := by
  simp [feed_iff, take, attach_iff, ← and_assoc]

theorem feed_endTag_iff {builder after : Builder} {name : List Char} :
    builder.feed (.endTag name) = .ok after ↔
      ∃ element outer, builder.openElements = element :: outer ∧
        (outer = [] → builder.root = none) ∧
        ⟨grow [.element element] outer, if outer.isEmpty then some element else builder.root, true,
          builder.doctypeSeen⟩ = after := by
  obtain ⟨openElements, root, started, doctypeSeen⟩ := builder
  cases openElements <;> simp [feed_iff, take, attach_iff, and_assoc]

/-- Inside an open element the tokens are taken, and the nodes they add have their events. -/
def Grows (tokens : List Token) : Prop :=
  ∃ nodes, eventsOfNodes nodes = tokens.flatMap Token.events ∧
    ∀ builder : Builder, builder.openElements ≠ [] → builder.started = true →
      builder.run tokens = .ok { builder with openElements := grow nodes builder.openElements }

def Completes (tokens : List Token) : Prop :=
  ∃ element : Element, element.events = tokens.flatMap Token.events ∧
    ∀ builder : Builder, (builder.openElements = [] → builder.root = none) →
      builder.run tokens = .ok ⟨grow [.element element] builder.openElements,
        if builder.openElements.isEmpty then some element else builder.root, true,
        builder.doctypeSeen⟩

theorem grows_nil : Grows [] :=
  ⟨[], rfl, fun builder _ _ => by simp⟩

theorem Grows.append {first second : List Token} (h : Grows first) (h' : Grows second) :
    Grows (first ++ second) := by
  obtain ⟨nodes, events, run⟩ := h
  obtain ⟨nodes', events', run'⟩ := h'
  refine ⟨nodes ++ nodes', by simp [events, events'], fun builder opened started => ?_⟩
  rw [run_append_iff]
  refine ⟨_, run builder opened started, ?_⟩
  rw [run' ⟨grow nodes builder.openElements, _, _, _⟩ (by simpa using opened) started]
  simp

theorem grows_leaf {token : Token} (untagged : token.isTag = false) (sound : token.Sound)
    (undeclared : token.isDeclaration = false) (untyped : token.isDoctype = false) :
    Grows [token] := by
  refine ⟨token.leaves, by simp [Token.eventsOfNodes_leaves untagged],
    fun builder opened started => ?_⟩
  rw [run_cons_iff]
  refine ⟨_, (feed_leaf_iff untagged).2 ⟨sound, ?_, ?_, ?_, rfl⟩, ?_⟩
  · simp [undeclared]
  · simp [untyped]
  · exact fun h => absurd h opened
  · simp [untyped, started]

theorem Completes.grows {tokens : List Token} (h : Completes tokens) : Grows tokens := by
  obtain ⟨element, events, run⟩ := h
  refine ⟨[.element element], by simpa [eventsOfNodes, Node.events] using events,
    fun builder opened started => ?_⟩
  rw [run builder fun h => absurd h opened]
  simp [opened, started]

theorem completes_emptyTag {content : List Char} (sound : (Token.emptyTag content).Sound) :
    Completes [.emptyTag content] := by
  obtain ⟨element, made⟩ := sound
  refine ⟨element, ?_, fun builder free => ?_⟩
  · have events := Element.events_of_ofTag made []
    cases element
    simpa [eventsOfNodes, Token.events] using events
  · exact run_cons_iff.2 ⟨_, feed_emptyTag_iff.2 ⟨element, made, free, rfl⟩, rfl⟩

theorem completes_nested {content : List Char} {inner : List Token}
    (sound : (Token.startTag content).Sound) (h : Grows inner) (name : List Char) :
    Completes (.startTag content :: inner ++ [.endTag name]) := by
  obtain ⟨element, made⟩ := sound
  obtain ⟨nodes, events, run⟩ := h
  refine ⟨{ element with children := element.children ++ nodes }, ?_, fun builder free => ?_⟩
  · simpa [Token.events, events] using Element.events_of_ofTag made nodes
  · have opened := feed_startTag_iff.2 ⟨element, made, free, rfl⟩
    rw [List.cons_append, run_cons_iff]
    refine ⟨_, opened, run_append_iff.2 ⟨_, run _ (by simp) rfl, ?_⟩⟩
    refine run_cons_iff.2 ⟨_, feed_endTag_iff.2 ⟨_, _, rfl, free, rfl⟩, rfl⟩

/-- Outside the root tokens leave no trace in the tree. The declaration may only be the first token
of all, and one document type declaration may come before the root. -/
theorem run_outside {tokens : List Token} (sound : ∀ token ∈ tokens, token.Sound)
    (outside : ∀ token ∈ tokens, token.isTag = false ∧ token.StandsOutside) (builder : Builder)
    (closed : builder.openElements = [])
    (later : ∀ token ∈ tokens.tail, token.isDeclaration = false)
    (early : builder.started = true → ∀ token ∈ tokens, token.isDeclaration = false)
    (once : tokens.countP Token.isDoctype ≤ 1)
    (untyped : builder.doctypeSeen = true ∨ builder.root ≠ none →
      ∀ token ∈ tokens, token.isDoctype = false) :
    ∃ after, builder.run tokens = .ok after ∧ after.openElements = [] ∧
      after.root = builder.root := by
  induction tokens generalizing builder with
  | nil => exact ⟨builder, rfl, closed, rfl⟩
  | cons token rest ih =>
    simp only [List.forall_mem_cons] at sound outside early untyped
    have unstarted : token.isDeclaration = true → builder.started = false := by
      intro declaration
      cases started : builder.started with
      | false => rfl
      | true => simp [(early started).1] at declaration
    have fresh : token.isDoctype = true →
        builder.doctypeSeen = false ∧ builder.root = none ∧ builder.openElements = [] := by
      intro doctype
      have unsettled : ¬(builder.doctypeSeen = true ∨ builder.root ≠ none) := by
        intro settled
        simp [(untyped settled).1] at doctype
      simpa [closed] using unsettled
    have taken := (feed_leaf_iff outside.1.1).2
      ⟨sound.1, unstarted, fresh, fun _ => outside.1.2, rfl⟩
    have single : rest.countP Token.isDoctype ≤ 1 := by
      rw [List.countP_cons] at once
      omega
    have settled : (builder.doctypeSeen || token.isDoctype) = true ∨ builder.root ≠ none →
        ∀ other ∈ rest, other.isDoctype = false := by
      intro seen other member
      rw [Bool.or_eq_true] at seen
      rcases seen with (seen | doctype) | rooted
      · exact (untyped (.inl seen)).2 other member
      · rw [List.countP_cons_of_pos doctype] at once
        have none := List.countP_eq_zero.1 (Nat.le_zero.1 (Nat.le_of_succ_le_succ once))
        simpa using none other member
      · exact (untyped (.inr rooted)).2 other member
    obtain ⟨after, run, closed, root⟩ := ih sound.2 outside.2
      ⟨grow token.leaves builder.openElements, _, true, _⟩ (by simp [closed])
      (fun other h => later other (List.mem_of_mem_tail h)) (fun _ => later) single settled
    exact ⟨after, run_cons_iff.2 ⟨_, taken, run⟩, closed, root⟩

end Builder

def Token.Fits (token : Token) : Prop :=
  token.Sound ∧ token.isDeclaration = false ∧ token.isDoctype = false

theorem Content.grows {tokens : List Token} (h : Content tokens)
    (fits : ∀ token ∈ tokens, token.Fits) : Builder.Grows tokens := by
  induction h with
  | nil => exact Builder.grows_nil
  | leaf untagged _ ih =>
    simp only [List.forall_mem_cons] at fits
    obtain ⟨⟨sound, undeclared, untyped⟩, fits⟩ := fits
    exact (Builder.grows_leaf untagged sound undeclared untyped).append (ih fits)
  | empty _ ih =>
    simp only [List.forall_mem_cons] at fits
    exact (Builder.completes_emptyTag fits.1.1).grows.append (ih fits.2)
  | @element content name inner rest _ _ ih ih' =>
    simp only [List.cons_append, List.forall_mem_cons, List.forall_mem_append] at fits
    have whole := (Builder.completes_nested fits.1.1 (ih fits.2.1) name).grows
    simpa using whole.append (ih' fits.2.2.2)

theorem IsElement.completes {body : List Token} (h : IsElement body)
    (fits : ∀ token ∈ body, token.Fits) : Builder.Completes body := by
  cases h with
  | empty content => exact Builder.completes_emptyTag (fits _ (by simp)).1
  | nested inner =>
    simp only [List.cons_append, List.forall_mem_cons, List.forall_mem_append] at fits
    exact Builder.completes_nested fits.1.1 (inner.grows fits.2.1) _

end Schematron.Xml
