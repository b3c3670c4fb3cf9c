import Schematron.Proofs.Compiler.Running

/-!
Two compilers side by side. If the calls that a compiler makes of its resolver and its engine are
coupled with those of another one, so are their compiles: both observers see the same, and both make
the same template or fail alike. The documents that pass between the calls carry what is known of
their bases.
-/
namespace Schematron

variable {α β ε σ τ : Type}

/-- What ties two compiles together: how their states are related while they go on and after an
error, and what holds of the bases that references are resolved against. -/
structure Tie (σ τ : Type) where
  going : σ → τ → Prop
  ended : EngineError → σ → τ → Prop
  kept : Option String → Prop
  kept_none : kept none
  ended_of_going : ∀ {s t} (error : EngineError), going s t → ended error s t

namespace Tie

variable (tie : Tie σ τ)

def Same (document document' : Xml.Document) : Prop :=
  document = document' ∧ tie.kept document.baseUri

def Fails (cause : StageError) (s : σ) (t : τ) : Prop :=
  ∃ kind error, cause = .ofEngine kind error ∧ tie.ended error s t

def Transforms (transform : Transformation σ) (transform' : Transformation τ) : Prop :=
  ∀ source, tie.kept source.baseUri →
    Couples tie.going tie.ended tie.Same (transform source) (transform' source)

end Tie

structure Factory.Alike (tie : Tie σ τ) (first : Factory σ) (second : Factory τ) : Prop where
  transformation : ∀ stylesheet : Stylesheet, tie.kept (some stylesheet.systemId) →
    Couples tie.going tie.ended tie.Transforms (first.transformation stylesheet)
      (second.transformation stylesheet)
  executable : ∀ stylesheet, Couples tie.going tie.ended (fun _ _ => True)
    (first.executable stylesheet) (second.executable stylesheet)

def Resolver.Alike (tie : Tie σ τ) (first : Resolver σ) (second : Resolver τ) : Prop :=
  ∀ reference base, tie.kept base →
    Couples tie.going (fun error => tie.ended (.resolve error))
      (fun found found' => found = found' ∧ tie.kept (some found.1))
      (ExceptT.mk (first.load reference base)) (ExceptT.mk (second.load reference base))

structure Compiler.Alike (tie : Tie σ τ) (first : Compiler σ) (second : Compiler τ) : Prop where
  configuration : first.configuration = second.configuration
  resolver : first.resolver.Alike tie second.resolver
  factory : ∀ s t, tie.going s t → ∃ factory factory' s' t',
    (first.engine.newFactory first.configuration first.resolver).run s = (factory, s') ∧
    (second.engine.newFactory second.configuration second.resolver).run t = (factory', t') ∧
    Factory.Alike tie factory factory' ∧ tie.going s' t'

def Template.facts (template : Template σ) : Nat × String × Xml.Document :=
  (template.id, template.fingerprint, template.stylesheet)

namespace Compiler.Alike

variable {tie : Tie σ τ} {first : Compiler σ} {second : Compiler τ} {factory : Factory σ}
  {factory' : Factory τ}

theorem loadStylesheet (h : Compiler.Alike tie first second) (stage : Stage) :
    Couples tie.going tie.Fails
      (fun stylesheet stylesheet' => stylesheet = stylesheet' ∧
        tie.kept (some stylesheet.systemId))
      (first.loadStylesheet stage) (second.loadStylesheet stage) := by
  intro s t related
  rw [run_loadStylesheet, run_loadStylesheet, h.configuration]
  have coupled := h.resolver stage.stylesheet none tie.kept_none s t related
  simp only [ExceptT.run_mk] at coupled
  generalize (first.resolver.load stage.stylesheet none).run s = x,
    (second.resolver.load stage.stylesheet none).run t = y at coupled ⊢
  cases coupled with
  | error stopped => exact .error ⟨_, _, rfl, stopped⟩
  | ok same related =>
    obtain ⟨rfl, kept⟩ := same
    dsimp only
    cases Xml.Document.parseBytes _ second.configuration.sourceLineNumbering with
    | error error => exact .error ⟨.stylesheetCompilation, .parse error, rfl,
        tie.ended_of_going _ related⟩
    | ok document => exact .ok ⟨rfl, kept⟩ related

theorem runStage (h : Compiler.Alike tie first second) (made : factory.Alike tie factory')
    (stage : Stage) {source : Xml.Document} (kept : tie.kept source.baseUri) :
    Couples tie.going tie.Fails tie.Same (first.runStage factory stage source)
      (second.runStage factory' stage source) := by
  refine (h.loadStylesheet stage).bind ?_
  rintro stylesheet _ ⟨rfl, located⟩
  refine Couples.bind ((made.transformation stylesheet located).adapt
    fun error s t ended => ⟨_, error, rfl, ended⟩) ?_
  intro transform transform' same
  exact (same source kept).adapt fun error s t ended => ⟨_, error, rfl, ended⟩

theorem stagesFrom (h : Compiler.Alike tie first second) (made : factory.Alike tie factory')
    (stages : List Stage) {source : Xml.Document} (kept : tie.kept source.baseUri) (trace : Trace)
    {s : σ} {t : τ} (related : tie.going s t) :
    ∃ outcome outcome' seen s' t',
      first.stagesFrom factory stages source trace s = ((outcome, seen), s') ∧
      second.stagesFrom factory' stages source trace t = ((outcome', seen), t') ∧
      Coupled tie.going (fun error => tie.Fails error.cause) tie.Same (outcome, s')
        (outcome', t') := by
  induction stages generalizing source trace s t with
  | nil => exact ⟨_, _, _, _, _, rfl, rfl, .ok ⟨rfl, kept⟩ related⟩
  | cons stage rest ih =>
    have coupled := h.runStage made stage kept s t related
    rw [Compiler.stagesFrom, Compiler.stagesFrom]
    generalize (first.runStage factory stage source).run.run s = x,
      (second.runStage factory' stage source).run.run t = y at coupled ⊢
    cases coupled with
    | error stopped => exact ⟨_, _, _, _, _, rfl, rfl, .error stopped⟩
    | ok same related =>
      obtain ⟨rfl, kept⟩ := same
      exact ih kept _ related

theorem compileObserved (h : Compiler.Alike tie first second) (id : Nat) (rules : Stream) {s : σ}
    {t : τ} (related : tie.going s t) :
    ∃ outcome outcome' seen s' t',
      (first.compileObserved id rules).run s = ((outcome, seen), s') ∧
      (second.compileObserved id rules).run t = ((outcome', seen), t') ∧
      Coupled tie.going (fun error => tie.Fails error.cause)
        (fun template template' => template.facts = template'.facts) (outcome, s')
        (outcome', t') := by
  obtain ⟨factory, factory', s, t, made, made', alike, related⟩ := h.factory s t related
  rw [compileObserved_eq, compileObserved_eq, made, made', readRules_eq, readRules_eq,
    h.configuration]
  dsimp only
  cases rules.readAll with
  | error cause =>
    exact ⟨_, _, _, _, _, rfl, rfl, .error ⟨.transformation, .io cause, rfl,
      tie.ended_of_going _ related⟩⟩
  | ok bytes =>
    dsimp only
    cases parsed : Xml.Document.parseBytes bytes second.configuration.sourceLineNumbering with
    | error error =>
      exact ⟨_, _, _, _, _, rfl, rfl, .error ⟨.transformation, .parse error, rfl,
        tie.ended_of_going _ related⟩⟩
    | ok source =>
      -- The rules have no base, so the references in them are resolved from the root.
      have kept : tie.kept source.baseUri := by
        rw [Xml.Document.baseUri_of_parseBytes parsed]
        exact tie.kept_none
      obtain ⟨outcome, outcome', seen, s, t, ran, ran', coupled⟩ :=
        h.stagesFrom alike Stage.all kept .empty related
      dsimp only
      rw [ran, ran']
      cases coupled with
      | error stopped => exact ⟨_, _, _, _, _, rfl, rfl, .error stopped⟩
      | @ok stylesheet _ s t same related =>
        obtain ⟨rfl, -⟩ := same
        have coupled := alike.executable stylesheet s t related
        dsimp only
        generalize (factory.executable stylesheet).run.run s = x,
          (factory'.executable stylesheet).run.run t = y at coupled ⊢
        cases coupled with
        | error stopped => exact ⟨_, _, _, _, _, rfl, rfl, .error ⟨_, _, rfl, stopped⟩⟩
        | ok _ related => exact ⟨_, _, _, _, _, rfl, rfl, .ok rfl related⟩

end Compiler.Alike
end Schematron
