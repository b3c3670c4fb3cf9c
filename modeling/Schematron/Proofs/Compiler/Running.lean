import Schematron.Compiler.Basic
import Schematron.Proofs.Engine.Coupling

/-!
A compile spelled out. What an observed compile leaves is written as a function of the state, stage
by stage, with nothing hidden in the order of effects: a failed stage has started and not completed,
and what was observed up to there stays.
-/
namespace Schematron

variable {σ α β : Type}

def CompileM.exec (action : CompileM σ α) (trace : Trace) (s : σ) :
    (Except CompileError α × Trace) × σ :=
  (action.run.run trace).run s

namespace CompileM

theorem exec_bind (action : CompileM σ α) (next : α → CompileM σ β) (trace : Trace) (s : σ) :
    (action >>= next).exec trace s =
      match action.exec trace s with
      | ((.ok a, trace), s) => (next a).exec trace s
      | ((.error error, trace), s) => ((.error error, trace), s) := by
  simp only [exec, bind, ExceptT.bind, ExceptT.mk, ExceptT.run, StateT.bind, StateT.run]
  generalize action trace s = ended
  obtain ⟨⟨⟨⟩ | ⟨⟩, _⟩, _⟩ := ended <;> rfl

@[simp] theorem exec_pure (a : α) (trace : Trace) (s : σ) :
    (pure a : CompileM σ α).exec trace s = ((.ok a, trace), s) :=
  rfl

@[simp] theorem exec_throw (error : CompileError) (trace : Trace) (s : σ) :
    (throw error : CompileM σ α).exec trace s = ((.error error, trace), s) :=
  rfl

@[simp] theorem exec_modify (change : Trace → Trace) (trace : Trace) (s : σ) :
    (modify change : CompileM σ Unit).exec trace s = ((.ok (), change trace), s) :=
  rfl

@[simp] theorem exec_liftM (action : StateM σ α) (trace : Trace) (s : σ) :
    (liftM action : CompileM σ α).exec trace s =
      ((.ok (action.run s).1, trace), (action.run s).2) :=
  rfl

@[simp] theorem exec_inStep (step : CompileStep) (action : ExceptT StageError (StateM σ) α)
    (trace : Trace) (s : σ) :
    (Compiler.inStep step action).exec trace s =
      (((action.run.run s).1.mapError (.mk step), trace), (action.run.run s).2) :=
  rfl

theorem ext {action action' : CompileM σ α}
    (h : ∀ trace s, action.exec trace s = action'.exec trace s) : action = action' :=
  funext fun trace => funext (h trace)

theorem inStep_pure (step : CompileStep) (a : α) :
    Compiler.inStep step (pure a : ExceptT StageError (StateM σ) α) = pure a :=
  rfl

theorem inStep_bind (step : CompileStep) (action : ExceptT StageError (StateM σ) α)
    (next : α → ExceptT StageError (StateM σ) β) :
    Compiler.inStep step (action >>= next) =
      Compiler.inStep step action >>= fun a => Compiler.inStep step (next a) := by
  apply CompileM.ext
  intro trace s
  rw [exec_bind, exec_inStep, exec_inStep, run_bind]
  generalize action.run.run s = ended
  obtain ⟨⟨⟩ | ⟨⟩, _⟩ := ended <;> rfl

end CompileM

theorem Xml.Document.baseUri_of_parseBytes {bytes : List UInt8} {numbered : Bool}
    {document : Document} (h : parseBytes bytes numbered = .ok document) :
    document.baseUri = none := by
  unfold parseBytes at h
  split at h
  next text _ =>
    obtain ⟨root, _, rfl⟩ := map_eq_ok_iff.1 h
    rfl
  next => simp at h

theorem Resolver.run_load (resolver : Resolver σ) (reference : String) (base : Option String)
    (s : σ) :
    (resolver.load reference base).run s =
      match (resolver.resolve reference base).run s with
      | (.error error, s) => (.error error, s)
      | (.ok resource, s) => (resource.readAll.map (resource.systemId, ·), s) := by
  rw [load, StateT.run_bind]
  obtain ⟨⟨error⟩ | ⟨resource⟩, s⟩ := (resolver.resolve reference base).run s <;> rfl

theorem Resolver.run_ofLookup (lookup : Lookup) (nesting : Nat) (reference : String)
    (base : Option String) (s : σ) :
    ((ofLookup lookup nesting).resolve reference base).run s = (lookup reference base, s) :=
  rfl

namespace Compiler

theorem readRules_eq (compiler : Compiler σ) (rules : Stream) :
    compiler.readRules rules =
      match rules.readAll with
      | .error cause => .error (.io cause)
      | .ok bytes =>
        match Xml.Document.parseBytes bytes compiler.configuration.sourceLineNumbering with
        | .error error => .error (.parse error)
        | .ok source => .ok source := by
  rw [readRules]
  cases rules.readAll with
  | error cause => rfl
  | ok bytes =>
    cases h : Xml.Document.parseBytes bytes compiler.configuration.sourceLineNumbering <;>
      simp [bind, Except.bind, h]

theorem run_loadStylesheet (compiler : Compiler σ) (stage : Stage) (s : σ) :
    (compiler.loadStylesheet stage).run.run s =
      match (compiler.resolver.load stage.stylesheet none).run s with
      | (.error error, s) => (.error (.ofEngine .stylesheetCompilation (.resolve error)), s)
      | (.ok (systemId, bytes), s) =>
        match Xml.Document.parseBytes bytes compiler.configuration.sourceLineNumbering with
        | .error error => (.error (.stylesheetCompilation (.parse error)), s)
        | .ok document => (.ok ⟨systemId, document.withBase systemId⟩, s) := by
  rw [loadStylesheet, run_bind, run_liftM]
  obtain ⟨⟨error⟩ | ⟨systemId, bytes⟩, s⟩ := (compiler.resolver.load stage.stylesheet none).run s
  · rfl
  · dsimp only
    cases Xml.Document.parseBytes bytes compiler.configuration.sourceLineNumbering <;> rfl

theorem exec_observedStage (compiler : Compiler σ) (factory : Factory σ) (stage : Stage)
    (source : Xml.Document) (trace : Trace) (s : σ) :
    (compiler.observedStage factory source stage).exec trace s =
      match (compiler.runStage factory stage source).run.run s with
      | (.ok result, s) => ((.ok result, (trace.start stage).complete stage result), s)
      | (.error cause, s) => ((.error ⟨.stage stage, cause⟩, trace.start stage), s) := by
  simp only [observedStage, CompileM.exec_bind, CompileM.exec_modify, CompileM.exec_inStep,
    CompileM.exec_pure]
  generalize (compiler.runStage factory stage source).run.run s = ended
  obtain ⟨⟨⟩ | ⟨⟩, _⟩ := ended <;> rfl

def stagesFrom (compiler : Compiler σ) (factory : Factory σ) :
    List Stage → Xml.Document → Trace → σ → (Except CompileError Xml.Document × Trace) × σ
  | [], source, trace, s => ((.ok source, trace), s)
  | stage :: rest, source, trace, s =>
    match (compiler.runStage factory stage source).run.run s with
    | (.ok result, s) =>
      compiler.stagesFrom factory rest result ((trace.start stage).complete stage result) s
    | (.error cause, s) => ((.error ⟨.stage stage, cause⟩, trace.start stage), s)

theorem exec_foldlM_observedStage (compiler : Compiler σ) (factory : Factory σ)
    (stages : List Stage) (source : Xml.Document) (trace : Trace) (s : σ) :
    (stages.foldlM (compiler.observedStage factory) source).exec trace s =
      compiler.stagesFrom factory stages source trace s := by
  induction stages generalizing source trace s with
  | nil => rfl
  | cons stage rest ih =>
    rw [List.foldlM_cons, CompileM.exec_bind, exec_observedStage, stagesFrom]
    generalize (compiler.runStage factory stage source).run.run s = ended
    obtain ⟨⟨cause⟩ | ⟨result⟩, s⟩ := ended
    · rfl
    · exact ih result _ s

theorem compileObserved_eq (compiler : Compiler σ) (id : Nat) (rules : Stream) (s : σ) :
    (compiler.compileObserved id rules).run s =
      match (compiler.engine.newFactory compiler.configuration compiler.resolver).run s with
      | (factory, s) =>
        match compiler.readRules rules with
        | .error error => ((.error ⟨.stage .includeExpand, .transformation error⟩, .empty), s)
        | .ok source =>
          match compiler.stagesFrom factory Stage.all source .empty s with
          | ((.error error, trace), s) => ((.error error, trace), s)
          | ((.ok stylesheet, trace), s) =>
            match (factory.executable stylesheet).run.run s with
            | (.error error, s) =>
              ((.error ⟨.templates, .ofEngine .templateCompilation error⟩, trace), s)
            | (.ok apply, s) =>
              ((.ok ⟨id, fingerprint compiler.configuration stylesheet.root, stylesheet, apply⟩,
                trace), s) := by
  show (compiler.run id rules).exec .empty s = _
  rw [run, CompileM.exec_bind, CompileM.exec_liftM]
  obtain ⟨factory, s⟩ :=
    (compiler.engine.newFactory compiler.configuration compiler.resolver).run s
  dsimp only
  cases compiler.readRules rules with
  | error error => rfl
  | ok source =>
    dsimp only
    rw [CompileM.exec_bind, exec_foldlM_observedStage]
    generalize compiler.stagesFrom factory Stage.all source .empty s = ended
    obtain ⟨⟨⟨error⟩ | ⟨stylesheet⟩, trace⟩, s⟩ := ended
    · rfl
    · dsimp only
      rw [CompileM.exec_bind, CompileM.exec_inStep, run_adapt]
      generalize (factory.executable stylesheet).run.run s = made
      obtain ⟨⟨error⟩ | ⟨apply⟩, s⟩ := made <;> rfl

end Compiler
end Schematron
