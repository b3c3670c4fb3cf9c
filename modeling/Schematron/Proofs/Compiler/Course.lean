import Schematron.Proofs.Compiler.Account
import Schematron.Proofs.Compiler.Inclusion
import Schematron.Proofs.Engine.Answers

/-!
The course of a compile with the miniature engine: what shows to an observer or in the journal, in
order. Over a lookup the rules alone lay it down. Faults cannot change a course, they break it off
at a call; a compile with faults is its course, played until a fault strikes.
-/
namespace Schematron

variable {α β : Type}

/-- The faults in the way of an engine; none at all where it stands alone and counts no calls. -/
abbrev Faults := Option (List PlannedFault)

inductive Event
  | starts (stage : Stage)
  /-- The engine is called; if the call fails, it is this operation that fails. -/
  | calls (call : Call) (operation : Operation)
  /-- A stylesheet is applied. -/
  | applies (systemId : String)
  | completes (stage : Stage) (result : Xml.Document)

namespace Event

def started? : Event → Option Stage
  | starts stage => some stage
  | _ => none

def completed? : Event → Option (Stage × Xml.Document)
  | completes stage result => some (stage, result)
  | _ => none

def applied? : Event → Option String
  | applies systemId => some systemId
  | _ => none

def call? : Event → Option Call
  | calls call _ => some call
  | _ => none

end Event

abbrev Course := List Event

namespace Course

def seen (course : Course) : Trace :=
  ⟨course.filterMap Event.started?, course.filterMap Event.completed?⟩

def applied (course : Course) : List String :=
  course.filterMap Event.applied?

def made (course : Course) : List Call :=
  course.filterMap Event.call?

end Course

/-- The error that meets a call after those that were made before. -/
def Faults.strikes? (faults : Faults) (before : List Call) (call : Call) : Option EngineError :=
  faults.bind fun planned => PlannedFault.planned? planned call (before.count call)

def Journal.counting (s : Journal) (faults : Faults) (made : List Call) : Journal :=
  { s with calls := s.calls ++ if faults.isSome then made else [] }

def Faults.hinder (faults : Faults) (call : Call) (action : EngineM Journal α) :
    EngineM Journal α :=
  match faults with
  | none => action
  | some planned => PlannedFault.guarded planned call action

def Factory.hindered (factory : Factory Journal) (faults : Faults) : Factory Journal :=
  match faults with
  | none => factory
  | some planned => factory.withFaults planned

theorem Faults.run_hinder (faults : Faults) (call : Call) (action : EngineM Journal α)
    (s : Journal) :
    (faults.hinder call action).run.run s =
      match faults.strikes? s.calls call with
      | some error => (.error error, s.counting faults [call])
      | none => action.run.run (s.counting faults [call]) := by
  cases faults with
  | none => simp [hinder, strikes?, Journal.counting]
  | some planned => exact PlannedFault.run_guarded planned call action s

theorem Factory.transformation_hindered (factory : Factory Journal) (faults : Faults)
    (stylesheet : Stylesheet) :
    (factory.hindered faults).transformation stylesheet = do
      let transform ← faults.hinder .newTransformation (factory.transformation stylesheet)
      return fun source => faults.hinder .transform (transform source) := by
  cases faults with
  | none => exact (bind_pure _).symm
  | some planned => rfl

theorem Factory.executable_hindered (factory : Factory Journal) (faults : Faults)
    (stylesheet : Xml.Document) :
    (factory.hindered faults).executable stylesheet = do
      let apply ← faults.hinder .newExecutable (factory.executable stylesheet)
      return fun source => faults.hinder .apply (apply source) := by
  cases faults with
  | none => exact (bind_pure _).symm
  | some planned => rfl

namespace Course

/-- What a course leaves behind it, and the error that breaks it off if a fault strikes. -/
def play (faults : Faults) : Course → Trace → Journal → (Option CompileError × Trace) × Journal
  | [], trace, s => ((none, trace), s)
  | .starts stage :: rest, trace, s => play faults rest (trace.start stage) s
  | .completes stage result :: rest, trace, s => play faults rest (trace.complete stage result) s
  | .applies systemId :: rest, trace, s =>
    play faults rest trace { s with applied := s.applied ++ [systemId] }
  | .calls call operation :: rest, trace, s =>
    match faults.strikes? s.calls call with
    | some error => ((some (operation.report error), trace), s.counting faults [call])
    | none => play faults rest trace (s.counting faults [call])

def settle (result : Except CompileError α) :
    (Option CompileError × Trace) × Journal → (Except CompileError α × Trace) × Journal
  | ((none, trace), s) => ((result, trace), s)
  | ((some error, trace), s) => ((.error error, trace), s)

theorem play_append (faults : Faults) (course later : Course) (trace : Trace) (s : Journal) :
    play faults (course ++ later) trace s =
      match play faults course trace s with
      | ((none, trace), s) => play faults later trace s
      | ((some error, trace), s) => ((some error, trace), s) := by
  fun_induction play faults course trace s with
  | case1 => rfl
  | case2 stage rest trace s ih => exact ih
  | case3 stage result rest trace s ih => exact ih
  | case4 systemId rest trace s ih => exact ih
  | case5 call operation rest trace s error struck =>
    rw [List.cons_append, play, struck]
  | case6 call operation rest trace s struck ih =>
    rw [List.cons_append, play, struck]
    exact ih

end Course

/-- The action follows a course whatever faults are in the way, and by itself comes to a result. -/
def Follows (action : Faults → CompileM Journal α) (course : Course)
    (result : Faults → Except CompileError α) : Prop :=
  ∀ faults trace s,
    (action faults).exec trace s = Course.settle (result faults) (course.play faults trace s)

namespace Follows

variable {action : Faults → CompileM Journal α} {next : Faults → α → CompileM Journal β}
  {course later : Course}

theorem pure (a : Faults → α) :
    Follows (fun faults => pure (a faults)) [] fun faults => .ok (a faults) :=
  fun _ _ _ => rfl

theorem bind {a : Faults → α} {result : Faults → Except CompileError β}
    (h : Follows action course fun faults => .ok (a faults))
    (h' : Follows (fun faults => next faults (a faults)) later result) :
    Follows (fun faults => action faults >>= next faults) (course ++ later) result := by
  intro faults trace s
  rw [CompileM.exec_bind, h, Course.play_append]
  obtain ⟨⟨⟨⟩ | ⟨error⟩, trace⟩, s⟩ := course.play faults trace s
  · exact h' faults trace s
  · rfl

theorem bind_error {error : CompileError} (h : Follows action course fun _ => .error error) :
    Follows (fun faults => action faults >>= next faults) course fun _ => .error error := by
  intro faults trace s
  rw [CompileM.exec_bind, h]
  obtain ⟨⟨⟨⟩ | ⟨broken⟩, trace⟩, s⟩ := course.play faults trace s <;> rfl

theorem starts (stage : Stage) :
    Follows (fun _ => modify (·.start stage)) [.starts stage] fun _ => .ok () :=
  fun _ _ _ => rfl

theorem completes (stage : Stage) (result : Xml.Document) :
    Follows (fun _ => modify (·.complete stage result)) [.completes stage result]
      fun _ => .ok () :=
  fun _ _ _ => rfl

theorem answers {step : CompileStep}
    {action : Faults → ExceptT StageError (StateM Journal) α} {answer : Except StageError α}
    (h : ∀ faults, Answers (action faults) answer) :
    Follows (fun faults => Compiler.inStep step (action faults)) []
      fun _ => answer.mapError (.mk step) := by
  intro faults trace s
  rw [CompileM.exec_inStep, h]
  rfl

theorem applies (operation : Operation) {systemId : String} {action : EngineM Journal α}
    {answer : Except EngineError α}
    (h : ∀ s, action.run.run s = (answer, { s with applied := s.applied ++ [systemId] })) :
    Follows (fun _ => Compiler.inStep operation.step (action.adapt (.ofEngine operation.kind)))
      [.applies systemId] fun _ => answer.mapError operation.report := by
  intro faults trace s
  rw [CompileM.exec_inStep, run_adapt, h]
  cases answer <;> rfl

theorem calls (call : Call) (operation : Operation) {action : EngineM Journal α}
    {result : Except CompileError α}
    (h : Follows (fun _ => Compiler.inStep operation.step
      (action.adapt (.ofEngine operation.kind))) course fun _ => result) :
    Follows (fun faults => Compiler.inStep operation.step
      ((faults.hinder call action).adapt (.ofEngine operation.kind)))
      (.calls call operation :: course) fun _ => result := by
  intro faults trace s
  rw [CompileM.exec_inStep, run_adapt, Faults.run_hinder, Course.play]
  cases faults.strikes? s.calls call with
  | some error => rfl
  | none => exact h faults trace (s.counting faults [call])

end Follows

/-- The action follows a whole course to a tree, or fails by itself somewhere on the way. -/
inductive Compiles (action : Faults → CompileM Journal Xml.Document) (whole : Course) : Prop
  | through (tree : Xml.Document) : Follows action whole (fun _ => .ok tree) → Compiles action whole
  | aborted (course : Course) (error : CompileError) : course <+: whole →
    Follows action course (fun _ => .error error) → Compiles action whole

namespace Compiles

variable {action : Faults → CompileM Journal α}
  {next : Faults → α → CompileM Journal Xml.Document} {course whole : Course}

theorem after {a : Faults → α} (h : Follows action course fun faults => .ok (a faults))
    (h' : Compiles (fun faults => next faults (a faults)) whole) :
    Compiles (fun faults => action faults >>= next faults) (course ++ whole) := by
  cases h' with
  | through tree h' => exact .through tree (h.bind h')
  | aborted later error stops h' =>
    exact .aborted (course ++ later) error ((List.prefix_append_right_inj course).2 stops)
      (h.bind h')

theorem stopped {error : CompileError} (stops : course <+: whole)
    (h : Follows action course fun _ => .error error) :
    Compiles (fun faults => action faults >>= next faults) whole :=
  .aborted course error stops h.bind_error

end Compiles

/-- What a compiler with the miniature engine is made of, apart from the faults in its way. -/
structure Setup where
  lookup : Lookup
  nesting : Nat
  configuration : Configuration

def Stage.calls (stage : Stage) (systemId : String) : Course :=
  [.calls .newTransformation (.ofStage stage .compile),
    .calls .transform (.ofStage stage .transform), .applies systemId]

structure Work where
  stage : Stage
  systemId : String
  result : Xml.Document

def Work.course (work : Work) : Course :=
  .starts work.stage ::
    (work.stage.calls work.systemId ++ [.completes work.stage work.result])

def Course.whole (works : List Work) : Course :=
  works.flatMap Work.course ++ [.calls .newExecutable .template]

namespace Setup

variable (setup : Setup)

def compiler (faults : Faults) : Compiler Journal :=
  .miniature faults (.ofLookup setup.lookup setup.nesting) setup.configuration

def factory (faults : Faults) : Factory Journal :=
  Factory.hindered ⟨Miniature.transformation (.ofLookup setup.lookup setup.nesting)
    setup.configuration.sourceLineNumbering, Miniature.executable⟩ faults

theorem run_newFactory (faults : Faults) (s : Journal) :
    ((setup.compiler faults).engine.newFactory (setup.compiler faults).configuration
      (setup.compiler faults).resolver).run s =
      (setup.factory faults, { s with factories := s.factories + 1 }) := by
  cases faults with
  | none => rfl
  | some planned => exact Miniature.run_newFactory_withFaults planned _ _ s

def stylesheet (stage : Stage) : Except StageError Stylesheet :=
  match setup.lookup.load stage.stylesheet none with
  | .error error => .error (.ofEngine .stylesheetCompilation (.resolve error))
  | .ok (systemId, bytes) =>
    match Xml.Document.parseBytes bytes setup.configuration.sourceLineNumbering with
    | .error error => .error (.stylesheetCompilation (.parse error))
    | .ok document => .ok ⟨systemId, document.withBase systemId⟩

theorem answers_loadStylesheet (faults : Faults) (stage : Stage) :
    Answers ((setup.compiler faults).loadStylesheet stage) (setup.stylesheet stage) := by
  intro s
  have loads : ((setup.compiler faults).resolver.load stage.stylesheet none).run s =
      (setup.lookup.load stage.stylesheet none, s) :=
    Resolver.run_load_ofLookup setup.lookup setup.nesting stage.stylesheet none s
  have numbered : (setup.compiler faults).configuration = setup.configuration := rfl
  rw [Compiler.run_loadStylesheet, loads, numbered, stylesheet]
  cases setup.lookup.load stage.stylesheet none with
  | error error => rfl
  | ok loaded =>
    dsimp only
    cases Xml.Document.parseBytes loaded.2 setup.configuration.sourceLineNumbering <;> rfl

theorem compiles_runStage (stage : Stage) (source : Xml.Document) :
    ∃ systemId, Compiles (fun faults => Compiler.inStep (.stage stage)
      ((setup.compiler faults).runStage (setup.factory faults) stage source))
      (stage.calls systemId) := by
  simp only [Compiler.runStage, CompileM.inStep_bind]
  have loads : Follows (fun faults => Compiler.inStep (.stage stage)
      ((setup.compiler faults).loadStylesheet stage)) []
      fun _ => (setup.stylesheet stage).mapError (.mk (.stage stage)) :=
    .answers fun faults => setup.answers_loadStylesheet faults stage
  cases found : setup.stylesheet stage with
  | error cause =>
    rw [found] at loads
    exact ⟨"", .stopped List.nil_prefix loads⟩
  | ok stylesheet =>
    rw [found] at loads
    refine ⟨stylesheet.systemId, .after loads ?_⟩
    -- The transformation that is made takes the faults with it to its own call.
    simp only [factory, Factory.transformation_hindered, adapt_bind, adapt_pure,
      CompileM.inStep_bind, CompileM.inStep_pure, bind_assoc, pure_bind]
    obtain ⟨made, makes, notes⟩ := Miniature.exists_answer_transformation setup.lookup
      setup.nesting setup.configuration.sourceLineNumbering stylesheet
    have compiles := Follows.calls .newTransformation (.ofStage stage .compile)
      (.answers fun _ => makes.adapt _)
    cases made with
    | error error => exact .stopped ⟨_, rfl⟩ compiles
    | ok transform =>
      refine .after compiles ?_
      obtain ⟨answer, applies⟩ := notes transform rfl source
      have transforms := Follows.calls .transform (.ofStage stage .transform)
        (.applies (.ofStage stage .transform) applies)
      cases answer with
      | error error => exact .aborted _ _ List.prefix_rfl transforms
      | ok result => exact .through result transforms

theorem compiles_observedStage (stage : Stage) (source : Xml.Document) :
    ∃ systemId result, Compiles (fun faults =>
      (setup.compiler faults).observedStage (setup.factory faults) source stage)
      (Work.course ⟨stage, systemId, result⟩) := by
  obtain ⟨systemId, runs⟩ := setup.compiles_runStage stage source
  unfold Compiler.observedStage
  cases runs with
  | aborted course error stops follows =>
    exact ⟨systemId, source, .after (.starts stage)
      (.stopped (stops.trans (List.prefix_append _ _)) follows)⟩
  | through result follows =>
    exact ⟨systemId, result, .after (.starts stage)
      (.after follows (.through result ((Follows.completes stage result).bind (.pure _))))⟩

/-- Stages follow one after the other until one of them fails. -/
theorem compiles_stages (stages : List Stage) (source : Xml.Document) :
    ∃ works : List Work, works.map Work.stage = stages ∧ Compiles (fun faults =>
      stages.foldlM ((setup.compiler faults).observedStage (setup.factory faults)) source)
      (works.flatMap Work.course) := by
  induction stages generalizing source with
  | nil => exact ⟨[], rfl, .through source (.pure _)⟩
  | cons stage rest ih =>
    obtain ⟨systemId, result, runs⟩ := setup.compiles_observedStage stage source
    simp only [List.foldlM_cons]
    cases runs with
    | aborted course error stops follows =>
      -- Any work will do for the stages that are not come to.
      refine ⟨⟨stage, systemId, result⟩ :: rest.map (Work.mk · "" source),
        by simp [Function.comp_def], ?_⟩
      rw [List.flatMap_cons]
      exact .stopped (stops.trans (List.prefix_append _ _)) follows
    | through tree follows =>
      obtain ⟨works, complete, runs⟩ := ih tree
      refine ⟨⟨stage, systemId, result⟩ :: works, by simp [complete], ?_⟩
      rw [List.flatMap_cons]
      exact .after follows runs

def template (id : Nat) (tree : Xml.Document) (faults : Faults) : Template Journal :=
  ⟨id, fingerprint setup.configuration tree.root, tree, fun _ =>
    faults.hinder .apply (pure (Miniature.report (Miniature.patternIds tree.root)))⟩

theorem follows_executable (tree : Xml.Document) :
    ∃ result : Except CompileError Xml.Document, ∀ id, Follows (fun faults => do
      let apply ← Compiler.inStep .templates
        (((setup.factory faults).executable tree).adapt (.ofEngine .templateCompilation))
      return ⟨id, fingerprint setup.configuration tree.root, tree, apply⟩)
      [.calls .newExecutable .template] fun faults => result.map (setup.template id · faults) := by
  obtain ⟨answer, answers, reports⟩ := Miniature.exists_answer_executable tree
  have made := Follows.calls .newExecutable .template (.answers fun _ => answers.adapt _)
  simp only [factory, Factory.executable_hindered, adapt_bind, adapt_pure, CompileM.inStep_bind,
    CompileM.inStep_pure, bind_assoc, pure_bind]
  cases answer with
  | error error => exact ⟨.error (Operation.template.report error), fun id => made.bind_error⟩
  | ok apply =>
    obtain rfl := reports apply rfl
    exact ⟨.ok tree, fun id => made.bind (.pure fun faults => setup.template id tree faults)⟩

def produce (id : Nat) (source : Xml.Document) (faults : Faults) :
    CompileM Journal (Template Journal) := do
  let stylesheet ← Stage.all.foldlM
    ((setup.compiler faults).observedStage (setup.factory faults)) source
  let apply ← Compiler.inStep .templates
    (((setup.factory faults).executable stylesheet).adapt (.ofEngine .templateCompilation))
  return ⟨id, fingerprint setup.configuration stylesheet.root, stylesheet, apply⟩

theorem exists_follows (source : Xml.Document) :
    ∃ (course : Course) (result : Except CompileError Xml.Document) (works : List Work),
      works.map Work.stage = Stage.all ∧ course <+: Course.whole works ∧ ∀ id,
        Follows (setup.produce id source) course fun faults =>
          result.map (setup.template id · faults) := by
  obtain ⟨works, complete, runs⟩ := setup.compiles_stages Stage.all source
  unfold produce
  cases runs with
  | aborted course error stops follows =>
    exact ⟨course, .error error, works, complete, stops.trans (List.prefix_append _ _),
      fun id => follows.bind_error⟩
  | through tree follows =>
    obtain ⟨result, makes⟩ := setup.follows_executable tree
    exact ⟨Course.whole works, result, works, complete, List.prefix_rfl,
      fun id => follows.bind (makes id)⟩

/-- Compiles of the rules take the course and come to the result by themselves: whatever faults are
in the way and whatever was done before, they leave what the course leaves. -/
def Takes (rules : Stream) (course : Course) (result : Except CompileError Xml.Document) : Prop :=
  ∀ id faults s, ((setup.compiler faults).compileObserved id rules).run s =
    Course.settle (result.map (setup.template id · faults))
      (course.play faults .empty { s with factories := s.factories + 1 })

theorem exists_takes (rules : Stream) :
    ∃ (course : Course) (result : Except CompileError Xml.Document) (works : List Work),
      works.map Work.stage = Stage.all ∧ course <+: Course.whole works ∧
        setup.Takes rules course result := by
  have reads (faults : Faults) :
      (setup.compiler faults).readRules rules = (setup.compiler none).readRules rules := rfl
  cases read : (setup.compiler none).readRules rules with
  | error error =>
    refine ⟨[], .error ⟨.stage .includeExpand, .transformation error⟩,
      Stage.all.map (Work.mk · "" (.ofRoot (.named ""))), rfl, List.nil_prefix, ?_⟩
    intro id faults s
    rw [Compiler.compileObserved_eq, run_newFactory, reads, read]
    rfl
  | ok source =>
    obtain ⟨course, result, works, complete, stops, follows⟩ := setup.exists_follows source
    refine ⟨course, result, works, complete, stops, ?_⟩
    intro id faults s
    rw [← follows id faults .empty { s with factories := s.factories + 1 }]
    show ((setup.compiler faults).run id rules).exec .empty s = _
    rw [Compiler.run, CompileM.exec_bind, CompileM.exec_liftM, run_newFactory, reads, read]
    rfl

end Setup
end Schematron
