import Schematron.Proofs.Compiler.Recording

/-!
The account of a compile: its calls, what it shows to an observer and how it ends. Stages complete
one after the other, each on the tree that the one before returned, until an operation fails or the
template is made.
-/
namespace Schematron

variable {σ : Type}

/-- What a stage does that can fail: its stylesheet is found, read and parsed, a transformation is
made of it, and the transformation is applied. -/
inductive StageOperation
  | resolve
  | read
  | parse
  | compile
  | transform
  deriving DecidableEq

inductive Operation
  | readRules
  | parseRules
  | ofStage (stage : Stage) (operation : StageOperation)
  /-- The template is made of the last tree. -/
  | template
  deriving DecidableEq

namespace Operation

def step : Operation → CompileStep
  | .readRules | .parseRules => .stage .includeExpand
  | .ofStage stage _ => .stage stage
  | .template => .templates

def kind : Operation → EngineError → StageError
  | .readRules | .parseRules | .ofStage _ .transform => .transformation
  | .ofStage _ _ => .stylesheetCompilation
  | .template => .templateCompilation

def report (operation : Operation) (error : EngineError) : CompileError :=
  ⟨operation.step, .ofEngine operation.kind error⟩

end Operation

abbrev Failure := Operation × EngineError

def Stream.Holds (numbered : Bool) (stream : Stream) (document : Xml.Document) : Prop :=
  ∃ bytes, stream.readAll = .ok bytes ∧ Xml.Document.parseBytes bytes numbered = .ok document

def Resource.stylesheet (resource : Resource) (document : Xml.Document) : Stylesheet :=
  ⟨resource.systemId, document.withBase resource.systemId⟩

/-- The calls for one stage on a tree, and what comes of them. -/
inductive StageCalls (numbered : Bool) (stage : Stage) (source : Xml.Document) :
    List Exchange → Except Failure Xml.Document → Prop
  | unresolved {error : ResolveError} :
      StageCalls numbered stage source [.resolve stage.stylesheet none (.error error)]
        (.error (.ofStage stage .resolve, .resolve error))
  | unread {resource : Resource} {cause : String} :
      resource.stream.readAll = .error cause →
      StageCalls numbered stage source [.resolve stage.stylesheet none (.ok resource)]
        (.error (.ofStage stage .read, .resolve (.unreadable resource.systemId cause)))
  | malformed {resource : Resource} {bytes : List UInt8} {error : Xml.ParseError} :
      resource.stream.readAll = .ok bytes →
      Xml.Document.parseBytes bytes numbered = .error error →
      StageCalls numbered stage source [.resolve stage.stylesheet none (.ok resource)]
        (.error (.ofStage stage .parse, .parse error))
  | refused {resource : Resource} {document : Xml.Document} {error : EngineError} :
      resource.stream.Holds numbered document →
      StageCalls numbered stage source
        [.resolve stage.stylesheet none (.ok resource),
          .transformation (resource.stylesheet document) (some error)]
        (.error (.ofStage stage .compile, error))
  | aborted {resource : Resource} {document : Xml.Document} {error : EngineError} :
      resource.stream.Holds numbered document →
      StageCalls numbered stage source
        [.resolve stage.stylesheet none (.ok resource),
          .transformation (resource.stylesheet document) none,
          .transform (resource.stylesheet document) source (.error error)]
        (.error (.ofStage stage .transform, error))
  | completed {resource : Resource} {document result : Xml.Document} :
      resource.stream.Holds numbered document →
      StageCalls numbered stage source
        [.resolve stage.stylesheet none (.ok resource),
          .transformation (resource.stylesheet document) none,
          .transform (resource.stylesheet document) source (.ok result)]
        (.ok result)

/-- The calls for stages that run one after the other, each on the result of the one before: what
is observed of them and what comes of the last one. -/
inductive StagesCalls (numbered : Bool) :
    List Stage → Xml.Document → List Exchange → Trace → Except Failure Xml.Document → Prop
  | nil {source : Xml.Document} : StagesCalls numbered [] source [] .empty (.ok source)
  | failed {stage : Stage} {rest : List Stage} {source : Xml.Document} {calls : List Exchange}
      {failure : Failure} :
      StageCalls numbered stage source calls (.error failure) →
      StagesCalls numbered (stage :: rest) source calls ⟨[stage], []⟩ (.error failure)
  | completed {stage : Stage} {rest : List Stage} {source result : Xml.Document}
      {calls later : List Exchange} {seen : Trace} {outcome : Except Failure Xml.Document} :
      StageCalls numbered stage source calls (.ok result) →
      StagesCalls numbered rest result later seen outcome →
      StagesCalls numbered (stage :: rest) source (calls ++ later)
        ⟨stage :: seen.started, (stage, result) :: seen.results⟩ outcome

/-- The account of a compile: its calls, what an observer sees and how it ends. -/
inductive Account (configuration : Configuration) (rules : Stream) :
    List Exchange → Trace → Except Failure Xml.Document → Prop
  | rulesUnread {cause : String} :
      rules.readAll = .error cause →
      Account configuration rules [.newFactory configuration] .empty
        (.error (.readRules, .io cause))
  | rulesMalformed {bytes : List UInt8} {error : Xml.ParseError} :
      rules.readAll = .ok bytes →
      Xml.Document.parseBytes bytes configuration.sourceLineNumbering = .error error →
      Account configuration rules [.newFactory configuration] .empty
        (.error (.parseRules, .parse error))
  | stageFailed {source : Xml.Document} {calls : List Exchange} {seen : Trace}
      {failure : Failure} :
      rules.Holds configuration.sourceLineNumbering source →
      StagesCalls configuration.sourceLineNumbering Stage.all source calls seen
        (.error failure) →
      Account configuration rules (.newFactory configuration :: calls) seen (.error failure)
  | templateRefused {source tree : Xml.Document} {calls : List Exchange} {seen : Trace}
      {error : EngineError} :
      rules.Holds configuration.sourceLineNumbering source →
      StagesCalls configuration.sourceLineNumbering Stage.all source calls seen (.ok tree) →
      Account configuration rules
        (.newFactory configuration :: (calls ++ [.executable tree (some error)])) seen
        (.error (.template, error))
  | made {source tree : Xml.Document} {calls : List Exchange} {seen : Trace} :
      rules.Holds configuration.sourceLineNumbering source →
      StagesCalls configuration.sourceLineNumbering Stage.all source calls seen (.ok tree) →
      Account configuration rules (.newFactory configuration :: (calls ++ [.executable tree none]))
        seen (.ok tree)

theorem StageCalls.exists_ofStage {numbered : Bool} {stage : Stage} {source : Xml.Document}
    {calls : List Exchange} {failure : Failure}
    (h : StageCalls numbered stage source calls (.error failure)) :
    ∃ operation, failure.1 = .ofStage stage operation := by
  cases h <;> exact ⟨_, rfl⟩

theorem Compiler.stageCalls_runStage (compiler : Compiler σ) (factory : Factory σ) (stage : Stage)
    (source : Xml.Document) (s : σ) (exchanges : List Exchange) :
    ∃ calls outcome s',
      (compiler.recorded.runStage factory.recorded stage source).run.run ⟨s, exchanges⟩ =
        (outcome.mapError fun failure => .ofEngine failure.1.kind failure.2,
          ⟨s', exchanges ++ calls⟩) ∧
      StageCalls compiler.configuration.sourceLineNumbering stage source calls outcome := by
  have resolver : compiler.recorded.resolver = compiler.resolver.recorded := rfl
  have configuration : compiler.recorded.configuration = compiler.configuration := rfl
  rw [runStage, run_bind, run_loadStylesheet, Resolver.run_load, resolver, Resolver.run_recorded,
    configuration]
  -- Of each operation in turn: either it fails, which ends the account, or the next one follows.
  obtain ⟨⟨error⟩ | ⟨resource⟩, s⟩ := (compiler.resolver.resolve stage.stylesheet none).run s
  · exact ⟨_, _, s, rfl, .unresolved⟩
  dsimp only [Resource.readAll]
  cases read : resource.stream.readAll with
  | error cause => exact ⟨_, _, s, rfl, .unread read⟩
  | ok bytes =>
    dsimp only [mapError_ok, Except.map]
    cases parsed : Xml.Document.parseBytes bytes compiler.configuration.sourceLineNumbering with
    | error error => exact ⟨_, _, s, rfl, .malformed read parsed⟩
    | ok document =>
      have holds : resource.stream.Holds compiler.configuration.sourceLineNumbering document :=
        ⟨bytes, read, parsed⟩
      have stylesheet_eq : (⟨resource.systemId, document.withBase resource.systemId⟩ : Stylesheet) =
        resource.stylesheet document := rfl
      dsimp only
      rw [stylesheet_eq, run_bind, run_adapt, Factory.run_recorded_transformation]
      obtain ⟨⟨error⟩ | ⟨transform⟩, s⟩ :=
        (factory.transformation (resource.stylesheet document)).run.run s
      · refine ⟨_, .error (.ofStage stage .compile, error), s, ?_, .refused holds⟩
        simp only [List.append_assoc]
        rfl
      dsimp only [mapError_ok]
      rw [run_adapt, run_recordCall]
      obtain ⟨⟨error⟩ | ⟨result⟩, s⟩ := (transform source).run.run s
      · refine ⟨_, .error (.ofStage stage .transform, error), s, ?_, .aborted holds⟩
        simp only [List.append_assoc]
        rfl
      · refine ⟨_, .ok result, s, ?_, .completed holds⟩
        simp only [List.append_assoc]
        rfl

theorem Compiler.stagesCalls_stagesFrom (compiler : Compiler σ) (factory : Factory σ)
    (stages : List Stage) (source : Xml.Document) (trace : Trace) (s : σ)
    (exchanges : List Exchange) :
    ∃ calls seen outcome s',
      compiler.recorded.stagesFrom factory.recorded stages source trace ⟨s, exchanges⟩ =
        ((outcome.mapError fun failure => failure.1.report failure.2,
          ⟨trace.started ++ seen.started, trace.results ++ seen.results⟩),
          ⟨s', exchanges ++ calls⟩) ∧
      StagesCalls compiler.configuration.sourceLineNumbering stages source calls seen outcome := by
  induction stages generalizing source trace s exchanges with
  | nil => exact ⟨[], .empty, .ok source, s, by simp [stagesFrom, Trace.empty], .nil⟩
  | cons stage rest ih =>
    obtain ⟨calls, outcome, s', ran, account⟩ :=
      compiler.stageCalls_runStage factory stage source s exchanges
    rw [stagesFrom, ran]
    cases outcome with
    | error failure =>
      obtain ⟨operation, same⟩ := account.exists_ofStage
      refine ⟨calls, _, _, s', ?_, .failed account⟩
      simp [Operation.report, same, Operation.step, Trace.start]
    | ok result =>
      obtain ⟨later, seen, outcome, s', ran, accounts⟩ :=
        ih result ((trace.start stage).complete stage result) s' (exchanges ++ calls)
      refine ⟨calls ++ later, _, outcome, s', ?_, .completed account accounts⟩
      dsimp only [mapError_ok]
      rw [ran]
      simp [Trace.start, Trace.complete]

def Compiler.ends (compiler : Compiler σ) (id : Nat) (outcome : Except Failure Xml.Document) :
    Except CompileError (Nat × String × Xml.Document) :=
  (outcome.mapError fun failure => failure.1.report failure.2).map fun tree =>
    (id, fingerprint compiler.configuration tree.root, tree)

theorem Compiler.exists_account_recorded (compiler : Compiler σ) (id : Nat) (rules : Stream)
    (s : σ) :
    ∃ result calls seen outcome s',
      (compiler.recorded.compileObserved id rules).run ⟨s, []⟩ = ((result, seen), ⟨s', calls⟩) ∧
      Account compiler.configuration rules calls seen outcome ∧
      result.map Template.facts = compiler.ends id outcome := by
  have made : (compiler.recorded.engine.newFactory compiler.recorded.configuration
      compiler.recorded.resolver).run ⟨s, []⟩ =
      (((compiler.engine.newFactory compiler.configuration compiler.resolver).run s).1.recorded,
        ⟨((compiler.engine.newFactory compiler.configuration compiler.resolver).run s).2,
          [.newFactory compiler.configuration]⟩) := rfl
  have configuration : compiler.recorded.configuration = compiler.configuration := rfl
  rw [compileObserved_eq, made, readRules_eq, configuration]
  generalize (compiler.engine.newFactory compiler.configuration compiler.resolver).run s = made
  obtain ⟨factory, s⟩ := made
  dsimp only
  cases read : rules.readAll with
  | error cause => exact ⟨_, _, _, _, s, rfl, .rulesUnread read, rfl⟩
  | ok bytes =>
    dsimp only
    cases parsed : Xml.Document.parseBytes bytes compiler.configuration.sourceLineNumbering with
    | error error => exact ⟨_, _, _, _, s, rfl, .rulesMalformed read parsed, rfl⟩
    | ok source =>
      obtain ⟨calls, seen, outcome, s, ran, account⟩ := compiler.stagesCalls_stagesFrom factory
        Stage.all source .empty s [.newFactory compiler.configuration]
      have holds : rules.Holds compiler.configuration.sourceLineNumbering source :=
        ⟨bytes, read, parsed⟩
      dsimp only
      rw [ran]
      cases outcome with
      | error failure => exact ⟨_, _, _, _, s, rfl, .stageFailed holds account, rfl⟩
      | ok tree =>
        dsimp only [mapError_ok]
        rw [Factory.run_recorded_executable]
        obtain ⟨⟨error⟩ | ⟨apply⟩, s⟩ := (factory.executable tree).run.run s
        · exact ⟨_, _, _, _, s, rfl, .templateRefused holds account, rfl⟩
        · exact ⟨_, _, _, _, s, rfl, .made holds account, rfl⟩

def Exchange.isNewFactory : Exchange → Bool
  | .newFactory _ => true
  | _ => false

/-- What an observer sees of a compile that ends this way: nothing where the rules are at fault, up
to the failed stage where a stage fails, and all stages otherwise. -/
def Observed (seen : Trace) : Except Failure Xml.Document → Prop
  | .error (.readRules, _) | .error (.parseRules, _) => seen = .empty
  | .error (.ofStage stage _, _) => ∃ done rest, Stage.all = done ++ stage :: rest ∧
    seen.started = done ++ [stage] ∧ seen.results.map Prod.fst = done
  | .error (.template, _) | .ok _ =>
    seen.started = Stage.all ∧ seen.results.map Prod.fst = Stage.all

theorem StageCalls.countP_isNewFactory {numbered : Bool} {stage : Stage} {source : Xml.Document}
    {calls : List Exchange} {outcome : Except Failure Xml.Document}
    (h : StageCalls numbered stage source calls outcome) :
    calls.countP Exchange.isNewFactory = 0 := by
  cases h <;> rfl

theorem StagesCalls.exists_failed {numbered : Bool} {stages : List Stage} {source : Xml.Document}
    {calls : List Exchange} {seen : Trace} {failure : Failure}
    (h : StagesCalls numbered stages source calls seen (.error failure)) :
    ∃ stage tree last, StageCalls numbered stage tree last (.error failure) := by
  generalize same : Except.error failure = outcome at h
  induction h with
  | nil => cases same
  | failed account =>
    cases same
    exact ⟨_, _, _, account⟩
  | completed _ _ ih => exact ih same

theorem StagesCalls.countP_isNewFactory {numbered : Bool} {stages : List Stage}
    {source : Xml.Document} {calls : List Exchange} {seen : Trace}
    {outcome : Except Failure Xml.Document}
    (h : StagesCalls numbered stages source calls seen outcome) :
    calls.countP Exchange.isNewFactory = 0 := by
  induction h with
  | nil => rfl
  | failed account => exact account.countP_isNewFactory
  | completed account _ ih => rw [List.countP_append, account.countP_isNewFactory, ih]

theorem Account.countP_isNewFactory {configuration : Configuration} {rules : Stream}
    {calls : List Exchange} {seen : Trace} {outcome : Except Failure Xml.Document}
    (h : Account configuration rules calls seen outcome) :
    calls.countP Exchange.isNewFactory = 1 := by
  cases h with
  | rulesUnread | rulesMalformed => rfl
  | stageFailed _ account =>
    rw [List.countP_cons, account.countP_isNewFactory]
    rfl
  | templateRefused _ account | made _ account =>
    rw [List.countP_cons, List.countP_append, account.countP_isNewFactory]
    rfl

theorem StagesCalls.started_of_ok {numbered : Bool} {stages : List Stage} {source : Xml.Document}
    {calls : List Exchange} {seen : Trace} {tree : Xml.Document}
    (h : StagesCalls numbered stages source calls seen (.ok tree)) :
    seen.started = stages ∧ seen.results.map Prod.fst = stages := by
  generalize same : Except.ok tree = outcome at h
  induction h with
  | nil => exact ⟨rfl, rfl⟩
  | failed => cases same
  | completed _ _ ih =>
    obtain ⟨started, results⟩ := ih same
    simp [started, results]

theorem StagesCalls.started_of_error {numbered : Bool} {stages : List Stage}
    {source : Xml.Document} {calls : List Exchange} {seen : Trace} {failure : Failure}
    (h : StagesCalls numbered stages source calls seen (.error failure)) :
    ∃ done stage rest operation, stages = done ++ stage :: rest ∧
      failure.1 = .ofStage stage operation ∧ seen.started = done ++ [stage] ∧
      seen.results.map Prod.fst = done := by
  generalize same : Except.error failure = outcome at h
  induction h with
  | nil => cases same
  | @failed stage rest _ _ _ account =>
    cases same
    obtain ⟨operation, of⟩ := account.exists_ofStage
    exact ⟨[], stage, rest, operation, rfl, of, rfl, rfl⟩
  | @completed stage _ _ _ _ _ _ _ _ _ ih =>
    obtain ⟨done, last, rest, operation, rfl, of, started, results⟩ := ih same
    exact ⟨stage :: done, last, rest, operation, rfl, of, by simp [started], by simp [results]⟩

theorem Account.observed {configuration : Configuration} {rules : Stream} {calls : List Exchange}
    {seen : Trace} {outcome : Except Failure Xml.Document}
    (h : Account configuration rules calls seen outcome) : Observed seen outcome := by
  cases h with
  | rulesUnread | rulesMalformed => rfl
  | templateRefused _ account | made _ account => exact account.started_of_ok
  | @stageFailed _ _ _ failure _ account =>
    obtain ⟨done, stage, rest, operation, all, of, started, results⟩ := account.started_of_error
    obtain ⟨_, error⟩ := failure
    obtain rfl : _ = Operation.ofStage stage operation := of
    exact ⟨done, rest, all, started, results⟩

theorem Observed.prefixes {seen : Trace} {outcome : Except Failure Xml.Document}
    (h : Observed seen outcome) :
    seen.started <+: Stage.all ∧ seen.results.map Prod.fst <+: seen.started := by
  unfold Observed at h
  split at h
  case h_3 =>
    obtain ⟨done, rest, all, started, results⟩ := h
    rw [all, started, results]
    exact ⟨⟨rest, by simp⟩, List.prefix_append _ _⟩
  case h_1 | h_2 =>
    subst h
    exact ⟨List.nil_prefix, List.prefix_refl _⟩
  case h_4 | h_5 =>
    rw [h.1, h.2]
    exact ⟨List.prefix_refl _, List.prefix_refl _⟩

/-- Every compile has an account: that of the calls on its record. -/
theorem Compiler.exists_account (compiler : Compiler σ) (id : Nat) (rules : Stream) (s : σ) :
    ∃ result recorded seen outcome s',
      (compiler.compileObserved id rules).run s = ((result, seen), s') ∧
      (compiler.recorded.compileObserved id rules).run ⟨s, []⟩ =
        ((recorded, seen), ⟨s', compiler.exchanges id rules s⟩) ∧
      Account compiler.configuration rules (compiler.exchanges id rules s) seen outcome ∧
      result.map Template.facts = compiler.ends id outcome := by
  obtain ⟨recorded, calls, seen, outcome, s', ran, account, ends⟩ :=
    compiler.exists_account_recorded id rules s
  obtain ⟨_, result, _, _, final, ran', plain, coupled⟩ :=
    compiler.recorded_alike.compileObserved id rules (s := ⟨s, []⟩) (t := s) rfl
  obtain ⟨⟨rfl, rfl⟩, rfl⟩ := ran.symm.trans ran'
  have same : recorded.map Template.facts = result.map Template.facts ∧ s' = final := by
    cases coupled with
    | ok facts state => exact ⟨congrArg Except.ok facts, state⟩
    | error stopped =>
      obtain ⟨_, _, _, state⟩ := stopped
      exact ⟨rfl, state⟩
  obtain ⟨facts, rfl⟩ := same
  have calls_eq : compiler.exchanges id rules s = calls := by rw [exchanges, ran]
  exact ⟨result, recorded, seen, outcome, s', plain, calls_eq ▸ ran, calls_eq ▸ account,
    facts ▸ ends⟩

/-- What a compile shows and makes, the calls it makes and the state it leaves hang together as its
account says: one factory is made; where the rules are at fault nothing else is asked for; the
stages run in their order, each on the tree that the one before returned; after a failure there are
no more calls; and the template is made once, of the last tree. -/
theorem Compiler.compileObserved_account (compiler : Compiler σ) (id : Nat) (rules : Stream)
    (s : σ) :
    ∃ result recorded seen outcome s',
      (compiler.compileObserved id rules).run s = ((result, seen), s') ∧
      (compiler.recorded.compileObserved id rules).run ⟨s, []⟩ =
        ((recorded, seen), ⟨s', compiler.exchanges id rules s⟩) ∧
      Account compiler.configuration rules (compiler.exchanges id rules s) seen outcome ∧
      result.map Template.facts = compiler.ends id outcome ∧
      (compiler.exchanges id rules s).countP Exchange.isNewFactory = 1 ∧
      Observed seen outcome ∧
      seen.started <+: Stage.all ∧ seen.results.map Prod.fst <+: seen.started := by
  obtain ⟨result, recorded, seen, outcome, s', ran, ran', account, ends⟩ :=
    compiler.exists_account id rules s
  have observed := account.observed
  exact ⟨result, recorded, seen, outcome, s', ran, ran', account, ends,
    account.countP_isNewFactory, observed, observed.prefixes⟩

end Schematron
