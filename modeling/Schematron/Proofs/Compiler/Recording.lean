import Schematron.Proofs.Compiler.Coupling

/-!
Compiles whose calls are recorded. A recorded compiler makes the same calls as the compiler it is
made of and puts every one of them on record; it shows and makes the same. So the record of a
compile tells what the compiler asked of its resolver and its engine, in order.
-/
namespace Schematron

variable {α σ : Type}

/-- A call that a compiler makes, with what it hands over and what comes back. Of a transformation
that is made only a failure comes to the record. -/
inductive Exchange
  | newFactory (configuration : Configuration)
  | resolve (reference : String) (base : Option String) (answer : Except ResolveError Resource)
  | transformation (stylesheet : Stylesheet) (failure : Option EngineError)
  /-- The transformation of a stylesheet is applied. -/
  | transform (stylesheet : Stylesheet) (source : Xml.Document)
      (answer : Except EngineError Xml.Document)
  | executable (stylesheet : Xml.Document) (failure : Option EngineError)
  /-- The template of a generated stylesheet is applied. -/
  | apply (stylesheet source : Xml.Document) (answer : Except EngineError Xml.Document)

structure Recorded (σ : Type) where
  state : σ
  exchanges : List Exchange

def record (exchange : α → Exchange) (action : StateM σ α) : StateM (Recorded σ) α :=
  fun recorded =>
    let (a, state) := action.run recorded.state
    (a, ⟨state, recorded.exchanges ++ [exchange a]⟩)

def recordCall (exchange : Except EngineError α → Exchange) (action : EngineM σ α) :
    EngineM (Recorded σ) α :=
  ExceptT.mk (record exchange action.run)

def failure? {ε : Type} : Except ε α → Option ε
  | .ok _ => none
  | .error error => some error

theorem failure?_eq_some_iff {ε : Type} {outcome : Except ε α} {error : ε} :
    failure? outcome = some error ↔ outcome = .error error := by
  cases outcome <;> simp [failure?]

def Factory.recorded (factory : Factory σ) : Factory (Recorded σ) where
  transformation stylesheet := do
    let transform ← recordCall (fun answer => .transformation stylesheet (failure? answer))
      (factory.transformation stylesheet)
    return fun source => recordCall (.transform stylesheet source) (transform source)
  executable stylesheet := do
    let apply ← recordCall (fun answer => .executable stylesheet (failure? answer))
      (factory.executable stylesheet)
    return fun source => recordCall (.apply stylesheet source) (apply source)

/-- The engine with its calls put on record; what it asks of its resolver is its own affair. -/
def Engine.recorded (engine : Engine σ) (resolver : Resolver σ) : Engine (Recorded σ) where
  newFactory configuration _ := do
    let factory ← record (fun _ => .newFactory configuration)
      (engine.newFactory configuration resolver)
    return factory.recorded

def Resolver.recorded (resolver : Resolver σ) : Resolver (Recorded σ) where
  resolve reference base := record (.resolve reference base) (resolver.resolve reference base)
  nesting := resolver.nesting

def Compiler.recorded (compiler : Compiler σ) : Compiler (Recorded σ) where
  engine := compiler.engine.recorded compiler.resolver
  resolver := compiler.resolver.recorded
  configuration := compiler.configuration

def Compiler.exchanges (compiler : Compiler σ) (id : Nat) (rules : Stream) (s : σ) :
    List Exchange :=
  ((compiler.recorded.compileObserved id rules).run ⟨s, []⟩).2.exchanges

def recordTie (σ : Type) : Tie (Recorded σ) σ where
  going recorded s := recorded.state = s
  ended _ recorded s := recorded.state = s
  kept _ := True
  kept_none := trivial
  ended_of_going _ h := h

theorem run_recordCall (exchange : Except EngineError α → Exchange) (action : EngineM σ α) (s : σ)
    (exchanges : List Exchange) :
    (recordCall exchange action).run.run ⟨s, exchanges⟩ =
      ((action.run.run s).1,
        ⟨(action.run.run s).2, exchanges ++ [exchange (action.run.run s).1]⟩) :=
  rfl

theorem couples_recordCall (exchange : Except EngineError α → Exchange) (action : EngineM σ α) :
    Couples (recordTie σ).going (recordTie σ).ended (· = ·) (recordCall exchange action)
      action := by
  rintro ⟨s, exchanges⟩ _ rfl
  rw [run_recordCall]
  generalize action.run.run s = ended
  obtain ⟨⟨error⟩ | ⟨a⟩, s⟩ := ended
  · exact .error rfl
  · exact .ok rfl rfl

theorem Factory.run_recorded_transformation (factory : Factory σ) (stylesheet : Stylesheet) (s : σ)
    (exchanges : List Exchange) :
    (factory.recorded.transformation stylesheet).run.run ⟨s, exchanges⟩ =
      match (factory.transformation stylesheet).run.run s with
      | (.error error, s) =>
        (.error error, ⟨s, exchanges ++ [.transformation stylesheet (some error)]⟩)
      | (.ok transform, s) =>
        (.ok fun source => recordCall (.transform stylesheet source) (transform source),
          ⟨s, exchanges ++ [.transformation stylesheet none]⟩) := by
  rw [recorded, run_bind, run_recordCall]
  obtain ⟨⟨error⟩ | ⟨transform⟩, s⟩ := (factory.transformation stylesheet).run.run s <;> rfl

theorem Factory.run_recorded_executable (factory : Factory σ) (stylesheet : Xml.Document) (s : σ)
    (exchanges : List Exchange) :
    (factory.recorded.executable stylesheet).run.run ⟨s, exchanges⟩ =
      match (factory.executable stylesheet).run.run s with
      | (.error error, s) =>
        (.error error, ⟨s, exchanges ++ [.executable stylesheet (some error)]⟩)
      | (.ok apply, s) =>
        (.ok fun source => recordCall (.apply stylesheet source) (apply source),
          ⟨s, exchanges ++ [.executable stylesheet none]⟩) := by
  rw [recorded, run_bind, run_recordCall]
  obtain ⟨⟨error⟩ | ⟨apply⟩, s⟩ := (factory.executable stylesheet).run.run s <;> rfl

theorem Factory.recorded_alike (factory : Factory σ) :
    Factory.Alike (recordTie σ) factory.recorded factory where
  transformation stylesheet _ := by
    rw [← bind_pure (factory.transformation stylesheet)]
    refine (couples_recordCall _ _).bind ?_
    rintro transform _ rfl
    exact .pure fun source _ => (couples_recordCall _ _).mono fun _ _ same => ⟨same, trivial⟩
  executable stylesheet := by
    rw [← bind_pure (factory.executable stylesheet)]
    exact (couples_recordCall _ _).bind fun _ _ _ => .pure trivial

theorem Resolver.run_recorded (resolver : Resolver σ) (reference : String) (base : Option String)
    (s : σ) (exchanges : List Exchange) :
    (resolver.recorded.resolve reference base).run ⟨s, exchanges⟩ =
      (((resolver.resolve reference base).run s).1, ⟨((resolver.resolve reference base).run s).2,
        exchanges ++ [.resolve reference base ((resolver.resolve reference base).run s).1]⟩) :=
  rfl

theorem Resolver.recorded_alike (resolver : Resolver σ) :
    resolver.recorded.Alike (recordTie σ) resolver := by
  rintro reference base - ⟨s, exchanges⟩ _ rfl
  rw [ExceptT.run_mk, ExceptT.run_mk, run_load, run_load, run_recorded]
  obtain ⟨⟨error⟩ | ⟨resource⟩, s⟩ := (resolver.resolve reference base).run s
  · exact .error rfl
  · dsimp only
    cases resource.readAll with
    | error error => exact .error rfl
    | ok bytes => exact .ok ⟨rfl, trivial⟩ rfl

theorem Compiler.recorded_alike (compiler : Compiler σ) :
    Compiler.Alike (recordTie σ) compiler.recorded compiler where
  configuration := rfl
  resolver := compiler.resolver.recorded_alike
  factory := by
    rintro ⟨s, exchanges⟩ _ rfl
    exact ⟨_, _, _, _, rfl, rfl, Factory.recorded_alike _, rfl⟩

end Schematron
