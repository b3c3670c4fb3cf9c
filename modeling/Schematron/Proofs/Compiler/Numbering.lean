import Schematron.Proofs.Compiler.Inclusion
import Schematron.Proofs.Engine.Numbering

/-!
The flag for line numbers reaches the rules, the stylesheets of the stages and all that these
include. Whatever it is, the same calls are made and fail alike, so a compile without line numbers
is the compile with them, its lines erased.
-/
namespace Schematron

variable {σ : Type}

def Trace.eraseLines (trace : Trace) : Trace :=
  { trace with results := trace.results.map fun (stage, tree) => (stage, tree.eraseLines) }

def Template.unlined (template : Template σ) : Template σ :=
  { template with
    fingerprint := Schematron.fingerprint ⟨false⟩ template.stylesheet.root
    stylesheet := template.stylesheet.eraseLines }

@[simp] theorem Trace.eraseLines_start (trace : Trace) (stage : Stage) :
    (trace.start stage).eraseLines = trace.eraseLines.start stage :=
  rfl

@[simp] theorem Trace.eraseLines_complete (trace : Trace) (stage : Stage) (tree : Xml.Document) :
    (trace.complete stage tree).eraseLines = trace.eraseLines.complete stage tree.eraseLines := by
  simp [complete, eraseLines]

theorem fingerprint_eraseLines (configuration : Configuration) (root : Xml.Element) :
    fingerprint configuration root.eraseLines = fingerprint configuration root := by
  rw [fingerprint, fingerprintInput, Xml.Element.print_eraseLines]
  rfl

namespace Compiler

/-- Compilers over one resolver, the second without line numbers, whose factories make the same of
the same documents, lines apart. -/
structure Unlined (first second : Compiler σ) : Prop where
  resolver : second.resolver = first.resolver
  configuration : second.configuration = ⟨false⟩
  factory : ∀ s, ∃ factory factory' s',
    (first.engine.newFactory first.configuration first.resolver).run s = (factory, s') ∧
    (second.engine.newFactory second.configuration second.resolver).run s = (factory', s') ∧
    factory.Unlined factory'

namespace Unlined

variable {first second : Compiler σ} {factory factory' : Factory σ}

theorem loadStylesheet (h : Unlined first second) (stage : Stage) :
    Couples Eq (fun _ => Eq)
      (fun stylesheet stylesheet' =>
        stylesheet' = ⟨stylesheet.systemId, stylesheet.document.eraseLines⟩)
      (first.loadStylesheet stage) (second.loadStylesheet stage) := by
  rintro s _ rfl
  rw [run_loadStylesheet, run_loadStylesheet, h.resolver, h.configuration]
  generalize (first.resolver.load stage.stylesheet none).run s = loaded
  obtain ⟨⟨error⟩ | ⟨systemId, bytes⟩, s⟩ := loaded
  · exact .error rfl
  · dsimp only
    rw [← Xml.Document.eraseLines_parseBytes bytes first.configuration.sourceLineNumbering]
    cases Xml.Document.parseBytes bytes first.configuration.sourceLineNumbering with
    | error error => exact .error rfl
    | ok document => exact .ok rfl rfl

theorem runStage (h : Unlined first second) (made : factory.Unlined factory') (stage : Stage)
    (source : Xml.Document) :
    Couples Eq (fun _ => Eq) (Xml.Document.eraseLines · = ·)
      (first.runStage factory stage source)
      (second.runStage factory' stage source.eraseLines) := by
  refine (h.loadStylesheet stage).bind ?_
  rintro stylesheet _ rfl
  refine Couples.bind ((made.transformation stylesheet.systemId stylesheet.document).adapt
    fun _ _ _ same => same) ?_
  intro transform transform' unlined
  exact (unlined source).adapt fun _ _ _ same => same

theorem stagesFrom (h : Unlined first second) (made : factory.Unlined factory')
    (stages : List Stage) (source : Xml.Document) (trace : Trace) (s : σ) :
    second.stagesFrom factory' stages source.eraseLines trace.eraseLines s =
      match first.stagesFrom factory stages source trace s with
      | ((outcome, seen), s) => ((outcome.map Xml.Document.eraseLines, seen.eraseLines), s) := by
  induction stages generalizing source trace s with
  | nil => rfl
  | cons stage rest ih =>
    have coupled := h.runStage made stage source s s rfl
    rw [Compiler.stagesFrom, Compiler.stagesFrom]
    generalize (first.runStage factory stage source).run.run s = x,
      (second.runStage factory' stage source.eraseLines).run.run s = y at coupled ⊢
    cases coupled with
    | error same =>
      cases same
      rfl
    | ok erased same =>
      cases erased
      cases same
      simpa using ih _ ((trace.start stage).complete stage _) _

theorem readRules (h : Unlined first second) (rules : Stream) :
    second.readRules rules = (first.readRules rules).map Xml.Document.eraseLines := by
  rw [readRules_eq, readRules_eq, h.configuration]
  cases rules.readAll with
  | error cause => rfl
  | ok bytes =>
    dsimp only
    rw [← Xml.Document.eraseLines_parseBytes bytes first.configuration.sourceLineNumbering]
    cases Xml.Document.parseBytes bytes first.configuration.sourceLineNumbering <;> rfl

theorem compileObserved (h : Unlined first second) (id : Nat) (rules : Stream) (s : σ) :
    (second.compileObserved id rules).run s =
      match (first.compileObserved id rules).run s with
      | ((outcome, seen), s) => ((outcome.map Template.unlined, seen.eraseLines), s) := by
  obtain ⟨factory, factory', s, made, made', unlined⟩ := h.factory s
  rw [compileObserved_eq, compileObserved_eq, made, made', h.readRules]
  dsimp only
  cases first.readRules rules with
  | error error => rfl
  | ok source =>
    have ran := h.stagesFrom unlined Stage.all source .empty s
    rw [show Trace.empty.eraseLines = .empty from rfl] at ran
    simp only [Except.map]
    rw [ran]
    generalize first.stagesFrom factory Stage.all source .empty s = staged
    obtain ⟨⟨⟨error⟩ | ⟨stylesheet⟩, seen⟩, s⟩ := staged
    · rfl
    · have coupled := unlined.executable stylesheet s s rfl
      simp only [Except.map]
      generalize (factory.executable stylesheet).run.run s = x,
        (factory'.executable stylesheet.eraseLines).run.run s = y at coupled ⊢
      cases coupled with
      | error same =>
        cases same
        rfl
      | ok alike same =>
        cases alike
        cases same
        rw [h.configuration]
        simp [Template.unlined, Xml.Document.eraseLines, fingerprint_eraseLines]

end Unlined

theorem miniature_unlined [Journaled σ] (faults : Option (List PlannedFault))
    (resolver : Resolver σ) (configuration : Configuration) :
    (miniature faults resolver configuration).Unlined (miniature faults resolver ⟨false⟩) where
  resolver := rfl
  configuration := rfl
  factory s := by
    have plain := Miniature.factory_unlined resolver configuration.sourceLineNumbering
    cases faults with
    | none =>
      have made := fun configuration => Miniature.run_newFactory configuration resolver s
      exact ⟨_, _, _, made configuration, made ⟨false⟩, plain⟩
    | some faults =>
      have made := fun configuration =>
        Miniature.run_newFactory_withFaults faults configuration resolver s
      exact ⟨_, _, _, made configuration, made ⟨false⟩, plain.withFaults faults⟩

/-- A compile without line numbers leaves the state that the compile with them leaves, fails with
the same error in the same step, and shows and makes the same, lines apart. What it rests on holds
of every text: it is read in both ways or in neither, and the trees have one fingerprint. -/
theorem compileObserved_numbering [Journaled σ] (faults : Option (List PlannedFault))
    (resolver : Resolver σ) (id : Nat) (rules : Stream) (s : σ) :
    (((miniature faults resolver ⟨false⟩).compileObserved id rules).run s =
      match ((miniature faults resolver ⟨true⟩).compileObserved id rules).run s with
      | ((outcome, seen), s) => ((outcome.map Template.unlined, seen.eraseLines), s)) ∧
    ∀ text, (Xml.Document.parse text true).map Xml.Document.eraseLines =
        Xml.Document.parse text false ∧
      ∀ configuration, (Xml.Document.parse text true).map
          (fun document => fingerprint configuration document.root) =
        (Xml.Document.parse text false).map
          fun document => fingerprint configuration document.root := by
  refine ⟨(miniature_unlined faults resolver ⟨true⟩).compileObserved id rules s, fun text => ?_⟩
  have same := Xml.Document.eraseLines_parse text true
  refine ⟨same, fun configuration => ?_⟩
  rw [← same]
  cases Xml.Document.parse text true with
  | error error => rfl
  | ok document =>
    exact congrArg Except.ok (fingerprint_eraseLines configuration document.root).symm

end Compiler
end Schematron
