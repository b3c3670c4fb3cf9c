import Schematron.Engine.Miniature
import Schematron.Proofs.Compiler.Coupling

/-!
The miniature engine over two resolvers. All that it does is to ask its resolver and to keep its
journal, so over resolvers that are alike its factories are alike, with faults in the way as
without. References are always resolved against a base that was asked for before, the one of the
stylesheet or document that they stand in.
-/
namespace Schematron

variable {α β σ τ : Type}

structure Tie.Journals (tie : Tie σ τ) [Journaled σ] [Journaled τ] : Prop where
  same : ∀ {s t}, tie.going s t → Journaled.journal s = Journaled.journal t
  amend : ∀ {s t} (change : Journal → Journal), tie.going s t →
    tie.going (Journaled.amend change s) (Journaled.amend change t)

def Engine.Alike (tie : Tie σ τ) (configuration : Configuration) (resolver : Resolver σ)
    (resolver' : Resolver τ) (first : Engine σ) (second : Engine τ) : Prop :=
  ∀ s t, tie.going s t → ∃ factory factory' s' t',
    (first.newFactory configuration resolver).run s = (factory, s') ∧
    (second.newFactory configuration resolver').run t = (factory', t') ∧
    Factory.Alike tie factory factory' ∧ tie.going s' t'

theorem Tie.couples_throw (tie : Tie σ τ) {results : α → β → Prop} (error : EngineError) :
    Couples tie.going tie.ended results (throw error) (throw error) :=
  .throw fun _ _ => tie.ended_of_going error

theorem Tie.couples_throw_bind (tie : Tie σ τ) {results : α → β → Prop} (error : EngineError)
    {γ γ' : Type} {next : γ → EngineM σ α} {next' : γ' → EngineM τ β} :
    Couples tie.going tie.ended results (throw error >>= next) (throw error >>= next') :=
  tie.couples_throw error

variable {tie : Tie σ τ} {resolver : Resolver σ} {resolver' : Resolver τ}

theorem Resolver.Alike.loadDocument (alike : resolver.Alike tie resolver') (numbered : Bool)
    (reference : String) {base : Option String} (kept : tie.kept base) :
    Couples tie.going tie.ended tie.Same (resolver.loadDocument numbered reference base)
      (resolver'.loadDocument numbered reference base) := by
  intro s t related
  have coupled := alike reference base kept s t related
  simp only [ExceptT.run_mk] at coupled
  rw [Resolver.loadDocument, Resolver.loadDocument, run_bind, run_bind, run_liftM, run_liftM]
  generalize (resolver.load reference base).run s = x,
    (resolver'.load reference base).run t = y at coupled ⊢
  cases coupled with
  | error stopped => exact .error stopped
  | @ok found _ s t same related =>
    obtain ⟨rfl, kept⟩ := same
    dsimp only
    cases Xml.Document.parseBytes found.2 numbered with
    | error error => exact .error (tie.ended_of_going _ related)
    | ok document => exact .ok ⟨rfl, kept⟩ related

namespace Miniature

open Xml

section

variable {replacement : Element → EngineM σ Element} {replacement' : Element → EngineM τ Element}

mutual

theorem couples_replaceIncludes (same : ∀ marker, Couples tie.going tie.ended (· = ·)
    (replacement marker) (replacement' marker)) :
    ∀ element, Couples tie.going tie.ended (· = ·) (replaceIncludes replacement element)
      (replaceIncludes replacement' element)
  | ⟨name, attributes, children, line⟩ => by
    rw [replaceIncludes, replaceIncludes]
    refine (couples_replaceInNodes same children).bind ?_
    rintro children _ rfl
    exact .pure rfl

theorem couples_replaceInNode (same : ∀ marker, Couples tie.going tie.ended (· = ·)
    (replacement marker) (replacement' marker)) :
    ∀ node, Couples tie.going tie.ended (· = ·) (replaceInNode replacement node)
      (replaceInNode replacement' node)
  | .element inner => by
    rw [replaceInNode, replaceInNode]
    split
    · exact (same inner).bind fun _ _ replaced => .pure (congrArg _ replaced)
    · exact (couples_replaceIncludes same inner).bind fun _ _ replaced =>
        .pure (congrArg _ replaced)
  | .text content => by
    rw [replaceInNode, replaceInNode]
    exact .pure rfl
  | .comment content => by
    rw [replaceInNode, replaceInNode]
    exact .pure rfl

theorem couples_replaceInNodes (same : ∀ marker, Couples tie.going tie.ended (· = ·)
    (replacement marker) (replacement' marker)) :
    ∀ nodes, Couples tie.going tie.ended (· = ·) (replaceInNodes replacement nodes)
      (replaceInNodes replacement' nodes)
  | [] => by
    rw [replaceInNodes, replaceInNodes]
    exact .pure rfl
  | node :: rest => by
    rw [replaceInNodes, replaceInNodes]
    refine (couples_replaceInNode same node).bind ?_
    rintro node _ rfl
    exact (couples_replaceInNodes same rest).bind fun _ _ replaced =>
      .pure (congrArg _ replaced)

end

theorem couples_expandIncludes (alike : resolver.Alike tie resolver') (numbered : Bool)
    (depth : Nat) {base : Option String} (kept : tie.kept base) (element : Element) :
    Couples tie.going tie.ended (· = ·) (expandIncludes resolver numbered depth base element)
      (expandIncludes resolver' numbered depth base element) := by
  induction depth generalizing base element with
  | zero =>
    rw [expandIncludes, expandIncludes]
    refine couples_replaceIncludes (fun marker => ?_) element
    cases marker.attribute? "href" with
    | none => exact tie.couples_throw _
    | some reference =>
      exact (alike.loadDocument numbered reference kept).bind fun _ _ _ =>
        tie.couples_throw _
  | succ depth ih =>
    rw [expandIncludes, expandIncludes]
    refine couples_replaceIncludes (fun marker => ?_) element
    cases marker.attribute? "href" with
    | none => exact tie.couples_throw _
    | some reference =>
      refine (alike.loadDocument numbered reference kept).bind ?_
      rintro document _ ⟨rfl, kept⟩
      exact ih kept document.root

theorem couples_checkIncludes (alike : resolver.Alike tie resolver') (numbered : Bool)
    {systemId : String} (kept : tie.kept (some systemId)) (markers : List Element) :
    Couples tie.going tie.ended (fun _ _ => True)
      (checkIncludes resolver numbered systemId markers)
      (checkIncludes resolver' numbered systemId markers) := by
  induction markers with
  | nil => exact .pure trivial
  | cons marker rest ih =>
    rw [checkIncludes, checkIncludes]
    cases marker.attribute? "href" with
    | none => exact tie.couples_throw _
    | some reference => exact (alike.loadDocument numbered reference kept).bind fun _ _ _ => ih

theorem couples_requireStamp (source : Document) (expected : String) :
    Couples tie.going tie.ended (fun _ _ => True) (requireStamp (σ := σ) source expected)
      (requireStamp (σ := τ) source expected) := by
  unfold requireStamp
  cases source.root.attribute? stampName with
  | none => exact tie.couples_throw _
  | some stamp =>
    dsimp only
    split
    · exact .pure trivial
    · exact tie.couples_throw _

theorem couples_applyMode (alike : resolver.Alike tie resolver')
    (nesting : resolver.nesting = resolver'.nesting) (numbered : Bool) (systemId mode : String)
    {source : Document} (kept : tie.kept source.baseUri) :
    Couples tie.going tie.ended tie.Same (applyMode resolver numbered systemId mode source)
      (applyMode resolver' numbered systemId mode source) := by
  unfold applyMode
  split
  next =>
    split
    · rw [nesting]
      refine (couples_expandIncludes alike numbered _ kept source.root).bind ?_
      rintro root _ rfl
      exact .pure ⟨rfl, tie.kept_none⟩
    · exact tie.couples_throw _
  next => exact (couples_requireStamp source _).bind fun _ _ _ => .pure ⟨rfl, kept⟩
  next => exact (couples_requireStamp source _).bind fun _ _ _ => .pure ⟨rfl, tie.kept_none⟩
  next => exact .pure ⟨rfl, tie.kept_none⟩
  next => exact tie.couples_throw _
  next => exact tie.couples_throw _

end

variable [Journaled σ] [Journaled τ]

theorem couples_noteApplied (journals : tie.Journals) (systemId : String) :
    Couples tie.going tie.ended (fun _ _ => True) (noteApplied (σ := σ) systemId)
      (noteApplied (σ := τ) systemId) :=
  .modify fun _ _ => journals.amend _

theorem couples_transformation (journals : tie.Journals) (alike : resolver.Alike tie resolver')
    (nesting : resolver.nesting = resolver'.nesting) (numbered : Bool) (stylesheet : Stylesheet)
    (kept : tie.kept (some stylesheet.systemId)) :
    Couples tie.going tie.ended tie.Transforms (transformation resolver numbered stylesheet)
      (transformation resolver' numbered stylesheet) := by
  unfold transformation
  dsimp only
  split
  · exact tie.couples_throw_bind _
  · refine (couples_checkIncludes alike numbered kept _).bind fun _ _ _ => ?_
    split
    next => exact tie.couples_throw _
    next mode _ =>
      exact .pure fun source kept => (couples_noteApplied journals _).bind fun _ _ _ =>
        couples_applyMode alike nesting numbered _ mode kept

omit [Journaled σ] [Journaled τ] in
theorem couples_executable (stylesheet : Document) :
    Couples tie.going tie.ended (fun _ _ => True) (executable (σ := σ) stylesheet)
      (executable (σ := τ) stylesheet) := by
  unfold executable
  split
  · exact .pure trivial
  · exact tie.couples_throw _

theorem run_newFactory (configuration : Configuration) (resolver : Resolver σ) (s : σ) :
    (engine.newFactory configuration resolver).run s =
      (⟨transformation resolver configuration.sourceLineNumbering, executable⟩,
        Journaled.amend (fun journal => { journal with factories := journal.factories + 1 }) s) :=
  rfl

theorem factory_alike (journals : tie.Journals) (alike : resolver.Alike tie resolver')
    (nesting : resolver.nesting = resolver'.nesting) (numbered : Bool) :
    Factory.Alike tie ⟨transformation resolver numbered, executable⟩
      ⟨transformation resolver' numbered, executable⟩ where
  transformation := by
    dsimp only
    exact couples_transformation journals alike nesting numbered
  executable := by
    dsimp only
    exact couples_executable

theorem engine_alike (journals : tie.Journals) (alike : resolver.Alike tie resolver')
    (nesting : resolver.nesting = resolver'.nesting) (configuration : Configuration) :
    Engine.Alike tie configuration resolver resolver' engine engine := by
  intro s t related
  exact ⟨_, _, _, _, run_newFactory configuration resolver s,
    run_newFactory configuration resolver' t, factory_alike journals alike nesting _,
    journals.amend _ related⟩

end Miniature

variable [Journaled σ] [Journaled τ]

theorem PlannedFault.run_guarded (faults : List PlannedFault) (call : Call) (action : EngineM σ α)
    (s : σ) :
    (guarded faults call action).run.run s =
      match planned? faults call ((Journaled.journal s).calls.count call) with
      | some error => (.error error, Journaled.amend
          (fun journal => { journal with calls := journal.calls ++ [call] }) s)
      | none => action.run.run (Journaled.amend
          (fun journal => { journal with calls := journal.calls ++ [call] }) s) := by
  have opened : (guarded faults call action).run.run s =
      (match planned? faults call ((Journaled.journal s).calls.count call) with
        | some error => throw error
        | none => action : EngineM σ α).run.run (Journaled.amend
          (fun journal => { journal with calls := journal.calls ++ [call] }) s) := rfl
  rw [opened]
  cases planned? faults call ((Journaled.journal s).calls.count call) <;> rfl

theorem PlannedFault.couples_guarded (journals : tie.Journals) {results : α → β → Prop}
    (faults : List PlannedFault) (call : Call) {first : EngineM σ α} {second : EngineM τ β}
    (same : Couples tie.going tie.ended results first second) :
    Couples tie.going tie.ended results (guarded faults call first)
      (guarded faults call second) := by
  intro s t related
  rw [run_guarded, run_guarded, journals.same related]
  have counted := journals.amend
    (fun journal => { journal with calls := journal.calls ++ [call] }) related
  cases planned? faults call ((Journaled.journal t).calls.count call) with
  | some error => exact .error (tie.ended_of_going error counted)
  | none => exact same _ _ counted

theorem Factory.Alike.withFaults (journals : tie.Journals) (faults : List PlannedFault)
    {factory : Factory σ} {factory' : Factory τ} (alike : factory.Alike tie factory') :
    (factory.withFaults faults).Alike tie (factory'.withFaults faults) where
  transformation stylesheet kept :=
    (PlannedFault.couples_guarded journals faults _ (alike.transformation stylesheet kept)).bind
      fun _ _ same => .pure fun source kept =>
        PlannedFault.couples_guarded journals faults _ (same source kept)
  executable stylesheet :=
    (PlannedFault.couples_guarded journals faults _ (alike.executable stylesheet)).bind
      fun _ _ _ => .pure trivial

theorem Miniature.run_newFactory_withFaults (faults : List PlannedFault)
    (configuration : Configuration) (resolver : Resolver σ) (s : σ) :
    ((engine.withFaults faults).newFactory configuration resolver).run s =
      (Factory.withFaults ⟨transformation resolver configuration.sourceLineNumbering, executable⟩
          faults,
        Journaled.amend (fun journal => { journal with factories := journal.factories + 1 })
          s) := by
  rw [Engine.withFaults, StateT.run_bind, run_newFactory]
  rfl

theorem Engine.Alike.withFaults (journals : tie.Journals) (faults : List PlannedFault)
    {configuration : Configuration} {first : Engine σ} {second : Engine τ}
    (alike : Engine.Alike tie configuration resolver resolver' first second) :
    Engine.Alike tie configuration resolver resolver' (first.withFaults faults)
      (second.withFaults faults) := by
  intro s t related
  obtain ⟨factory, factory', s', t', made, made', alike, related⟩ := alike s t related
  refine ⟨factory.withFaults faults, factory'.withFaults faults, s', t', ?_, ?_,
    alike.withFaults journals faults, related⟩
  · rw [Engine.withFaults, StateT.run_bind, made]
    rfl
  · rw [Engine.withFaults, StateT.run_bind, made']
    rfl

end Schematron
