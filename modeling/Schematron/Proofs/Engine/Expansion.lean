import Schematron.Proofs.Compiler.Account
import Schematron.Proofs.Engine.Answers

/-!
What the includes of a schema stand for. An include stands for the root of the document that its
reference leads to from the file it stands in, with the includes below that root expanded in turn.
-/
namespace Schematron

open Xml

variable {α β σ : Type}

def MayGive (action : EngineM σ α) (a : α) : Prop :=
  ∃ s t, action.run.run s = (.ok a, t)

namespace MayGive

theorem of_bind {action : EngineM σ α} {next : α → EngineM σ β} {b : β}
    (h : MayGive (action >>= next) b) : ∃ a, MayGive action a ∧ MayGive (next a) b := by
  obtain ⟨s, t, ran⟩ := h
  rw [run_bind] at ran
  cases first : action.run.run s with
  | mk result s' =>
    rw [first] at ran
    cases result with
    | error error => cases ran
    | ok a => exact ⟨a, ⟨s, s', first⟩, ⟨s', t, ran⟩⟩

theorem of_pure {a b : α} (h : MayGive (pure a : EngineM σ α) b) : a = b := by
  obtain ⟨s, t, ran⟩ := h
  cases ran
  rfl

theorem not_throw {error : EngineError} {a : α} : ¬ MayGive (throw error : EngineM σ α) a := by
  rintro ⟨s, t, ran⟩
  cases ran

end MayGive

theorem Answers.eq_ok {action : EngineM σ α} {answer : Except EngineError α} {a : α}
    (h : Answers action answer) (given : MayGive action a) : answer = .ok a := by
  obtain ⟨s, t, ran⟩ := given
  rw [h] at ran
  exact congrArg Prod.fst ran

/-- The reference leads to a resource that holds the document, whose base it then is. -/
def Lookup.Finds (lookup : Lookup) (numbered : Bool) (reference : String) (base : Option String)
    (document : Document) : Prop :=
  ∃ resource parsed, lookup reference base = .ok resource ∧
    resource.stream.Holds numbered parsed ∧ document = parsed.withBase resource.systemId

section

variable {lookup : Lookup} {nesting : Nat} {numbered : Bool} {reference : String}
  {base : Option String} {document : Document}

def Lookup.loadDocument (lookup : Lookup) (numbered : Bool) (reference : String)
    (base : Option String) : Except EngineError Document :=
  match lookup.load reference base with
  | .error error => .error (.resolve error)
  | .ok (systemId, bytes) =>
    match Document.parseBytes bytes numbered with
    | .error error => .error (.parse error)
    | .ok document => .ok (document.withBase systemId)

theorem Lookup.loadDocument_eq_ok_iff :
    lookup.loadDocument numbered reference base = .ok document ↔
      lookup.Finds numbered reference base document := by
  rw [Lookup.loadDocument, Lookup.load, Lookup.Finds]
  cases lookup reference base with
  | error error => simp [Except.bind]
  | ok resource =>
    cases read : resource.stream.readAll with
    | error cause => simp [Except.bind, Resource.readAll, Stream.Holds, Except.map, read]
    | ok bytes =>
      cases built : Document.parseBytes bytes numbered <;>
        simp [Except.bind, Resource.readAll, Stream.Holds, Except.map, read, built, eq_comm]

theorem Lookup.Finds.unique {other : Document} (h : lookup.Finds numbered reference base document)
    (h' : lookup.Finds numbered reference base other) : document = other :=
  ok_unique (Lookup.loadDocument_eq_ok_iff.2 h) (Lookup.loadDocument_eq_ok_iff.2 h')

theorem Resolver.answers_loadDocument :
    Answers ((ofLookup lookup nesting : Resolver σ).loadDocument numbered reference base)
      (lookup.loadDocument numbered reference base) := by
  intro s
  rw [loadDocument, run_bind, run_liftM, run_load_ofLookup, Lookup.loadDocument]
  cases lookup.load reference base with
  | error error => rfl
  | ok loaded =>
    dsimp only
    cases Document.parseBytes loaded.2 numbered <;> rfl

theorem Lookup.Finds.answers (h : lookup.Finds numbered reference base document) :
    Answers ((Resolver.ofLookup lookup nesting : Resolver σ).loadDocument numbered reference base)
      (.ok document) := by
  rw [← Lookup.loadDocument_eq_ok_iff.2 h]
  exact Resolver.answers_loadDocument

end

/-- The nodes and their expansion, node by node; `base` is the system id of the file that they stand
in. An include is replaced as a whole, with all that is in it. -/
inductive Expanded (lookup : Lookup) (numbered : Bool) :
    Option String → List Node → List Node → Prop
  | nil {base : Option String} : Expanded lookup numbered base [] []
  | text {base : Option String} {content : String} {rest rest' : List Node} :
      Expanded lookup numbered base rest rest' →
      Expanded lookup numbered base (.text content :: rest) (.text content :: rest')
  | comment {base : Option String} {content : String} {rest rest' : List Node} :
      Expanded lookup numbered base rest rest' →
      Expanded lookup numbered base (.comment content :: rest) (.comment content :: rest')
  | element {base : Option String} {inner : Element} {children rest rest' : List Node} :
      inner.localName ≠ "include" →
      Expanded lookup numbered base inner.children children →
      Expanded lookup numbered base rest rest' →
      Expanded lookup numbered base (.element inner :: rest)
        (.element { inner with children := children } :: rest')
  | included {base : Option String} {marker : Element} {reference : String} {document : Document}
      {children rest rest' : List Node} :
      marker.localName = "include" →
      marker.attribute? "href" = some reference →
      lookup.Finds numbered reference base document →
      Expanded lookup numbered document.baseUri document.root.children children →
      Expanded lookup numbered base rest rest' →
      Expanded lookup numbered base (.element marker :: rest)
        (.element { document.root with children := children } :: rest')

/-- The element with the includes below it expanded. Whatever its name, it is not replaced. -/
def Expands (lookup : Lookup) (numbered : Bool) (base : Option String)
    (element expansion : Element) : Prop :=
  ∃ children, Expanded lookup numbered base element.children children ∧
    expansion = { element with children := children }

section

variable {lookup : Lookup} {nesting : Nat} {numbered : Bool} {base : Option String}

theorem Expanded.unique {nodes first second : List Node}
    (h : Expanded lookup numbered base nodes first)
    (h' : Expanded lookup numbered base nodes second) : first = second := by
  induction h generalizing second with
  | nil =>
    cases h'
    rfl
  | text _ ih =>
    cases h' with
    | text rest => rw [ih rest]
  | comment _ ih =>
    cases h' with
    | comment rest => rw [ih rest]
  | element other _ _ ihInner ih =>
    cases h' with
    | element _ inner rest => rw [ihInner inner, ih rest]
    | included named => exact absurd named other
  | included named href finds _ _ ihInner ih =>
    cases h' with
    | element other => exact absurd named other
    | included _ href' finds' inner rest =>
      obtain rfl := Option.some.inj (href.symm.trans href')
      obtain rfl := finds.unique finds'
      rw [ihInner inner, ih rest]

theorem Expands.unique {element first second : Element}
    (h : Expands lookup numbered base element first)
    (h' : Expands lookup numbered base element second) : first = second := by
  obtain ⟨children, expanded, rfl⟩ := h
  obtain ⟨children', expanded', rfl⟩ := h'
  rw [expanded.unique expanded']

end

namespace Miniature

variable {lookup : Lookup} {nesting : Nat} {numbered : Bool} {base : Option String}

def standIn (resolver : Resolver σ) (numbered : Bool) (depth : Nat) (base : Option String)
    (marker : Element) : EngineM σ Element := do
  match marker.attribute? "href" with
  | none => throw (.transform "sch:include without href")
  | some reference =>
    let document ← resolver.loadDocument numbered reference base
    match depth with
    | 0 => throw (.transform ("sch:include of " ++ reference ++ " never ends"))
    | depth + 1 => expandIncludes resolver numbered depth document.baseUri document.root

theorem expandIncludes_eq (resolver : Resolver σ) (numbered : Bool) (depth : Nat)
    (base : Option String) (element : Element) :
    expandIncludes resolver numbered depth base element =
      replaceIncludes (standIn resolver numbered depth base) element := by
  cases depth <;> rw [expandIncludes] <;> rfl

theorem isInclude_iff {element : Element} :
    isInclude element = true ↔ element.localName = "include" := by
  simp [isInclude]

def Faithful (lookup : Lookup) (numbered : Bool) (base : Option String)
    (replacement : Element → EngineM σ Element) : Prop :=
  ∀ marker x, MayGive (replacement marker) x →
    ∃ reference document, marker.attribute? "href" = some reference ∧
      lookup.Finds numbered reference base document ∧
      Expands lookup numbered document.baseUri document.root x

section

variable {replacement : Element → EngineM σ Element}

mutual

theorem expands_of_replaceIncludes (faithful : Faithful lookup numbered base replacement) :
    ∀ (element x : Element), MayGive (replaceIncludes replacement element) x →
      Expands lookup numbered base element x
  | ⟨name, attributes, children, line⟩, x, gives => by
    rw [replaceIncludes] at gives
    obtain ⟨children', inside, done⟩ := gives.of_bind
    obtain rfl := done.of_pure
    exact ⟨children', expanded_of_replaceInNodes faithful children children' inside, rfl⟩

theorem expanded_of_replaceInNodes (faithful : Faithful lookup numbered base replacement) :
    ∀ nodes nodes' : List Node, MayGive (replaceInNodes replacement nodes) nodes' →
      Expanded lookup numbered base nodes nodes'
  | [], nodes', gives => by
    rw [replaceInNodes] at gives
    obtain rfl := gives.of_pure
    exact .nil
  | node :: rest, nodes', gives => by
    rw [replaceInNodes] at gives
    obtain ⟨node', first, after⟩ := gives.of_bind
    obtain ⟨rest', later, done⟩ := after.of_bind
    obtain rfl := done.of_pure
    have later := expanded_of_replaceInNodes faithful rest rest' later
    cases node with
    | text content =>
      rw [replaceInNode] at first
      obtain rfl := first.of_pure
      exact .text later
    | comment content =>
      rw [replaceInNode] at first
      obtain rfl := first.of_pure
      exact .comment later
    | element inner =>
      rw [replaceInNode] at first
      split at first
      next named =>
        obtain ⟨x, replaced, done⟩ := first.of_bind
        obtain rfl := done.of_pure
        obtain ⟨reference, document, href, finds, children, expanded, rfl⟩ :=
          faithful inner x replaced
        exact .included (isInclude_iff.1 named) href finds expanded later
      next other =>
        obtain ⟨x, replaced, done⟩ := first.of_bind
        obtain rfl := done.of_pure
        obtain ⟨children, expanded, rfl⟩ := expands_of_replaceIncludes faithful inner x replaced
        exact .element (mt isInclude_iff.2 other) expanded later

end

end

theorem exists_of_standIn {depth : Nat} {marker x : Element}
    (h : MayGive (standIn (.ofLookup lookup nesting : Resolver σ) numbered depth base marker) x) :
    ∃ reference document rest, marker.attribute? "href" = some reference ∧
      lookup.Finds numbered reference base document ∧ depth = rest + 1 ∧
      MayGive (expandIncludes (.ofLookup lookup nesting : Resolver σ) numbered rest
        document.baseUri document.root) x := by
  unfold standIn at h
  cases href : marker.attribute? "href" with
  | none =>
    rw [href] at h
    exact absurd h MayGive.not_throw
  | some reference =>
    rw [href] at h
    obtain ⟨document, found, gives⟩ := h.of_bind
    have finds := Lookup.loadDocument_eq_ok_iff.1 (Resolver.answers_loadDocument.eq_ok found)
    cases depth with
    | zero => exact absurd gives MayGive.not_throw
    | succ rest => exact ⟨reference, document, rest, rfl, finds, rfl, gives⟩

theorem expands_of_mayGive {depth : Nat} {element x : Element}
    (h : MayGive (expandIncludes (.ofLookup lookup nesting : Resolver σ) numbered depth base
      element) x) : Expands lookup numbered base element x := by
  induction depth using Nat.strongRecOn generalizing base element x with
  | ind depth ih =>
    rw [expandIncludes_eq] at h
    refine expands_of_replaceIncludes (fun marker y replaced => ?_) element x h
    obtain ⟨reference, document, rest, href, finds, rfl, inside⟩ := exists_of_standIn replaced
    exact ⟨reference, document, href, finds, ih rest (Nat.lt_succ_self rest) inside⟩

end Miniature

end Schematron
