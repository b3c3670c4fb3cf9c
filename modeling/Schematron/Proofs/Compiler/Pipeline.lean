import Schematron.Proofs.Compiler.Course
import Schematron.Proofs.Encoding.Declared
import Schematron.Proofs.Engine.Expansion
import Schematron.Proofs.Engine.Numbering
import Schematron.Proofs.Resource.Lookup
import Schematron.Proofs.Xml.Bytes
import Schematron.Proofs.Xml.Tree

/-!
A compile with the stylesheets of the pipeline. The first stage expands the includes of the rules,
the second replaces the stamp of the first, the third wraps the tree; whether they succeed depends
on the expansion only.
-/
namespace Schematron

open Xml

def Stage.mode : Stage → String
  | .includeExpand => "include"
  | .abstractExpand => "abstract"
  | .svrlGenerate => "svrl"

/-- Where a reference leads to the path of a stylesheet of the pipeline, that is what is found. -/
def Lookup.ServesPipeline (lookup : Lookup) : Prop :=
  ∀ path content, (path, content) ∈ Miniature.pipeline → ∀ base,
    Location.resolve? path base = some path →
    lookup path base = .ok ⟨path, .whole (Utf8.encode content.toList)⟩

theorem Lookup.servesPipeline_ofContents {get? : String → Option (List UInt8)}
    (h : ∀ path content, (path, content) ∈ Miniature.pipeline →
      get? path = some (Utf8.encode content.toList)) : (ofContents get?).ServesPipeline :=
  fun path content member _ led => ofContents_eq_ok_iff.2 ⟨path, _, led, h path content member, rfl⟩

namespace Miniature

def skeletonPath : String := "lib/skeleton.xsl"

def asksFor (mode : String) (document : Document) : Bool :=
  document.root.localName == "stylesheet" && document.root.attribute? "mode" == some mode &&
    (document.root.childElements.filter isInclude).all fun marker =>
      marker.attribute? "href" == some skeletonPath

theorem asksFor_eraseLines (mode : String) (document : Document) :
    asksFor mode document.eraseLines = asksFor mode document := by
  simp [asksFor, Document.eraseLines, List.filter_map, Function.comp_def, isInclude_eraseLines]

def afterOpeningTag : Stage → String
  | .includeExpand | .abstractExpand => "/>"
  | .svrlGenerate => ">\n  <xsl:include href=\"lib/skeleton.xsl\"/>\n</xsl:stylesheet>"

theorem mem_pipeline (stage : Stage) :
    (stage.stylesheet, openingTag stage.mode ++ afterOpeningTag stage) ∈ pipeline := by
  cases stage <;> simp [pipeline, Stage.stylesheet, Stage.mode, afterOpeningTag]

theorem skeleton_mem_pipeline : (skeletonPath, openingTag "fragment" ++ "/>") ∈ pipeline := by
  simp [pipeline, skeletonPath]

theorem parseBytes_openingTag (mode rest : String) (numbered : Bool) :
    Document.parseBytes (Utf8.encode (openingTag mode ++ rest).toList) numbered =
      Document.ofText (openingTag mode ++ rest).toList numbered := by
  obtain ⟨later, text⟩ : ∃ later, (openingTag mode ++ rest).toList = '<' :: 'x' :: later := by
    delta openingTag
    simp only [String.toList_append]
    exact ⟨_, rfl⟩
  rw [text, Document.parseBytes, Encoding.decodeDocument_encode rfl rfl rfl]

theorem exists_ofText {text : List Char} {check : Document → Bool}
    (read : (Document.ofText text true).toOption.any check = true)
    (unlined : ∀ document : Document, check document.eraseLines = check document)
    (numbered : Bool) : ∃ document, Document.ofText text numbered = .ok document ∧
      check document = true := by
  cases lined : Document.ofText text true with
  | error error => simp [lined, Except.toOption] at read
  | ok document =>
    have checked : check document = true := by simpa [lined, Except.toOption] using read
    cases numbered with
    | true => exact ⟨document, lined, checked⟩
    | false =>
      refine ⟨document.eraseLines, ?_, by rw [unlined, checked]⟩
      rw [← Document.eraseLines_ofText text true, lined]
      rfl

theorem exists_stylesheet (stage : Stage) (numbered : Bool) :
    ∃ document, Document.parseBytes (Utf8.encode
      (openingTag stage.mode ++ afterOpeningTag stage).toList) numbered = .ok document ∧
      asksFor stage.mode document = true := by
  have read : (Document.ofText (openingTag stage.mode ++ afterOpeningTag stage).toList
      true).toOption.any (asksFor stage.mode) = true := by
    cases stage <;> decide +kernel
  simp only [parseBytes_openingTag]
  exact exists_ofText read (asksFor_eraseLines stage.mode) numbered

theorem exists_skeleton (numbered : Bool) :
    ∃ document, Document.parseBytes (Utf8.encode (openingTag "fragment" ++ "/>").toList)
      numbered = .ok document := by
  have read : (Document.ofText (openingTag "fragment" ++ "/>").toList true).toOption.any
      (fun _ => true) = true := by
    decide +kernel
  simp only [parseBytes_openingTag]
  obtain ⟨document, read, -⟩ := exists_ofText read (fun _ => rfl) numbered
  exact ⟨document, read⟩

section

variable {lookup : Lookup} {nesting : Nat} {numbered : Bool}

theorem answers_checkIncludes {systemId : String} {markers : List Element}
    (h : ∀ marker ∈ markers, ∃ reference document, marker.attribute? "href" = some reference ∧
      lookup.Finds numbered reference (some systemId) document) :
    Answers (checkIncludes (.ofLookup lookup nesting : Resolver Journal) numbered systemId markers)
      (.ok ()) := by
  induction markers with
  | nil => exact .pure _
  | cons marker rest ih =>
    obtain ⟨⟨reference, document, href, finds⟩, later⟩ := List.forall_mem_cons.1 h
    rw [checkIncludes, href]
    exact finds.answers.bind (ih later)

theorem answers_transformation {systemId mode : String} {document skeleton : Document}
    (asks : asksFor mode document = true)
    (finds : lookup.Finds numbered skeletonPath (some systemId) skeleton) :
    Answers (transformation (.ofLookup lookup nesting : Resolver Journal) numbered
      ⟨systemId, document⟩) (.ok fun source => do
        noteApplied systemId
        applyMode (.ofLookup lookup nesting) numbered systemId mode source) := by
  simp only [asksFor, Bool.and_eq_true, beq_iff_eq, List.all_eq_true] at asks
  obtain ⟨⟨named, asked⟩, markers⟩ := asks
  have checks : Answers (checkIncludes (.ofLookup lookup nesting : Resolver Journal) numbered
      systemId (document.root.childElements.filter isInclude)) (.ok ()) :=
    answers_checkIncludes fun marker member => ⟨_, skeleton, markers marker member, finds⟩
  unfold transformation
  simp only [named, ne_eq, not_true_eq_false, if_false, asked]
  exact checks.bind (.pure _)

theorem answers_applyMode_include {systemId : String} {source : Document} {x : Element}
    (schema : source.root.localName = "schema")
    (expands : Answers (expandIncludes (.ofLookup lookup nesting : Resolver Journal) numbered
      nesting source.baseUri source.root) (.ok x)) :
    Answers (applyMode (.ofLookup lookup nesting : Resolver Journal) numbered systemId "include"
      source) (.ok (.ofRoot (x.setAttribute stampName "include"))) := by
  simp only [applyMode, schema, if_true]
  exact expands.bind (.pure _)

theorem answers_applyMode_abstract {systemId : String} {source : Document}
    (stamped : source.root.attribute? stampName = some "include") :
    Answers (applyMode (.ofLookup lookup nesting : Resolver Journal) numbered systemId "abstract"
      source) (.ok { source with root := source.root.setAttribute stampName "abstract" }) := by
  simp only [applyMode, requireStamp, stamped, if_true]
  exact .pure _

theorem answers_applyMode_svrl {systemId : String} {source : Document}
    (stamped : source.root.attribute? stampName = some "abstract") :
    Answers (applyMode (.ofLookup lookup nesting : Resolver Journal) numbered systemId "svrl"
      source) (.ok (.ofRoot (wrapper.addChild (.element source.root)))) := by
  simp only [applyMode, requireStamp, stamped, if_true]
  exact .pure _

theorem exists_of_applyMode_include {systemId : String} {source result : Document}
    (h : MayGive (applyMode (.ofLookup lookup nesting : Resolver Journal) numbered systemId
      "include" source) result) :
    source.root.localName = "schema" ∧
      ∃ x, MayGive (expandIncludes (.ofLookup lookup nesting : Resolver Journal) numbered nesting
        source.baseUri source.root) x := by
  simp only [applyMode] at h
  split at h
  next schema =>
    obtain ⟨x, expands, -⟩ := h.of_bind
    exact ⟨schema, x, expands⟩
  next => exact absurd h MayGive.not_throw

theorem answers_expandIncludes {depth : Nat} {base : Option String} {element x : Element}
    (h : MayGive (expandIncludes (.ofLookup lookup nesting : Resolver Journal) numbered depth base
      element) x) :
    Answers (expandIncludes (.ofLookup lookup nesting : Resolver Journal) numbered depth base
      element) (.ok x) := by
  obtain ⟨answer, answers⟩ := exists_answer fun s t =>
    couples_expandIncludes (Resolver.alike_fixed lookup nesting s t) numbered depth trivial element
  rw [answers.eq_ok h] at answers
  exact answers

end

end Miniature

namespace Lookup.ServesPipeline

variable {lookup : Lookup}

theorem finds_skeleton (serves : lookup.ServesPipeline) (stage : Stage) (numbered : Bool) :
    ∃ skeleton, lookup.Finds numbered Miniature.skeletonPath (some stage.stylesheet) skeleton := by
  have led : Location.resolve? Miniature.skeletonPath (some stage.stylesheet) =
      some Miniature.skeletonPath := by
    cases stage <;> rfl
  obtain ⟨document, read⟩ := Miniature.exists_skeleton numbered
  exact ⟨_, _, document, serves _ _ Miniature.skeleton_mem_pipeline _ led, ⟨_, rfl, read⟩, rfl⟩

end Lookup.ServesPipeline

theorem Stream.Holds.baseUri_eq {numbered : Bool} {stream : Stream} {document : Document}
    (h : stream.Holds numbered document) : document.baseUri = none := by
  obtain ⟨bytes, -, parsed⟩ := h
  exact Document.baseUri_of_parseBytes parsed

theorem Stream.Holds.unique {numbered : Bool} {stream : Stream} {document other : Document}
    (h : stream.Holds numbered document) (h' : stream.Holds numbered other) : document = other := by
  obtain ⟨bytes, read, parsed⟩ := h
  obtain ⟨bytes', read', parsed'⟩ := h'
  obtain rfl := ok_unique read read'
  exact ok_unique parsed parsed'

namespace Setup

variable {setup : Setup}

theorem exists_stylesheet (serves : setup.lookup.ServesPipeline) (stage : Stage) :
    ∃ document, setup.stylesheet stage = .ok ⟨stage.stylesheet, document⟩ ∧
      Miniature.asksFor stage.mode document = true := by
  have led : Location.resolve? stage.stylesheet none = some stage.stylesheet := by
    cases stage <;> rfl
  have found := serves _ _ (Miniature.mem_pipeline stage) none led
  obtain ⟨document, read, asks⟩ :=
    Miniature.exists_stylesheet stage setup.configuration.sourceLineNumbering
  refine ⟨document.withBase stage.stylesheet, ?_, asks⟩
  have loaded : setup.lookup.load stage.stylesheet none = .ok (stage.stylesheet,
      Utf8.encode (Miniature.openingTag stage.mode ++ Miniature.afterOpeningTag stage).toList) := by
    rw [Lookup.load, found]
    rfl
  rw [stylesheet, loaded]
  dsimp only
  rw [read]

variable (setup) in
theorem factory_none : setup.factory none =
    ⟨Miniature.transformation (.ofLookup setup.lookup setup.nesting)
      setup.configuration.sourceLineNumbering, Miniature.executable⟩ := by
  rw [factory, Factory.hindered]

variable (setup) in
def applyStage (stage : Stage) (source : Document) : EngineM Journal Document :=
  Miniature.applyMode (.ofLookup setup.lookup setup.nesting)
    setup.configuration.sourceLineNumbering stage.stylesheet stage.mode source

theorem run_runStage (serves : setup.lookup.ServesPipeline) (stage : Stage) (source : Document)
    (s : Journal) :
    ((setup.compiler none).runStage (setup.factory none) stage source).run.run s =
      match (setup.applyStage stage source).run.run
          { s with applied := s.applied ++ [stage.stylesheet] } with
      | (result, s) => (result.mapError (.ofEngine .transformation), s) := by
  obtain ⟨document, made, asks⟩ := exists_stylesheet serves stage
  obtain ⟨skeleton, finds⟩ :=
    serves.finds_skeleton stage setup.configuration.sourceLineNumbering
  have loads := setup.answers_loadStylesheet none stage
  rw [made] at loads
  have makes : Answers ((setup.factory none).transformation ⟨stage.stylesheet, document⟩)
      (.ok fun source => do
        Miniature.noteApplied stage.stylesheet
        setup.applyStage stage source) := by
    rw [factory_none]
    dsimp only
    exact Miniature.answers_transformation asks finds
  rw [Compiler.runStage, run_bind, loads]
  dsimp only
  rw [run_bind, makes.adapt]
  rfl

theorem stagesFrom_cons (serves : setup.lookup.ServesPipeline) {stage : Stage}
    {source result : Document} (applies : Answers (setup.applyStage stage source) (.ok result))
    (rest : List Stage) (trace : Trace) (s : Journal) :
    (setup.compiler none).stagesFrom (setup.factory none) (stage :: rest) source trace s =
      (setup.compiler none).stagesFrom (setup.factory none) rest result
        ((trace.start stage).complete stage result)
        { s with applied := s.applied ++ [stage.stylesheet] } := by
  rw [Compiler.stagesFrom, run_runStage serves, applies]
  rfl

def stamped (x : Element) (stamp : String) : Document :=
  .ofRoot (x.setAttribute Miniature.stampName stamp)

def wrapped (x : Element) : Document :=
  .ofRoot (Miniature.wrapper.addChild (.element (stamped x "abstract").root))

def trees (x : Element) : List (Stage × Document) :=
  [(.includeExpand, stamped x "include"), (.abstractExpand, stamped x "abstract"),
    (.svrlGenerate, wrapped x)]

theorem attribute?_stamped (x : Element) (stamp : String) :
    (stamped x stamp).root.attribute? Miniature.stampName = some stamp := by
  rw [stamped, Document.ofRoot, Element.attribute?_setAttribute, if_pos rfl]

theorem restamped (x : Element) (old stamp : String) :
    { stamped x old with
      root := (stamped x old).root.setAttribute Miniature.stampName stamp } = stamped x stamp := by
  simp only [stamped, Document.ofRoot, Element.setAttribute_setAttribute]

theorem localName_wrapped (x : Element) : (wrapped x).root.localName = "stylesheet" := by
  have named : (Element.named "xsl:stylesheet").localName = "stylesheet" := rfl
  exact named

theorem answers_executable_wrapped (x : Element) :
    Answers (Miniature.executable (wrapped x) : EngineM Journal (Transformation Journal))
      (.ok fun _ => pure (Miniature.report (Miniature.patternIds (wrapped x).root))) := by
  rw [Miniature.executable, if_pos (localName_wrapped x)]
  exact .pure _

theorem readRules_eq_ok_iff {rules : Stream} {source : Document} :
    (setup.compiler none).readRules rules = .ok source ↔
      rules.Holds setup.configuration.sourceLineNumbering source := by
  have numbered : (setup.compiler none).configuration = setup.configuration := rfl
  rw [Compiler.readRules_eq, numbered, Stream.Holds]
  cases rules.readAll with
  | error cause => simp
  | ok bytes =>
    cases built : Document.parseBytes bytes setup.configuration.sourceLineNumbering <;>
      simp [built]

/-- The rules hold a schema that comes to an expansion. -/
structure Expanding (setup : Setup) (rules : Stream) (source : Document) (x : Element) :
    Prop where
  holds : rules.Holds setup.configuration.sourceLineNumbering source
  schema : source.root.localName = "schema"
  answers : Answers (Miniature.expandIncludes (.ofLookup setup.lookup setup.nesting :
    Resolver Journal) setup.configuration.sourceLineNumbering setup.nesting none source.root)
    (.ok x)

variable (setup) in
def expansion? (rules : Stream) : Option Element := do
  let bytes ← rules.readAll.toOption
  let source ← (Document.parseBytes bytes setup.configuration.sourceLineNumbering).toOption
  if source.root.localName = "schema" then
    ((Miniature.expandIncludes (.ofLookup setup.lookup setup.nesting)
      setup.configuration.sourceLineNumbering setup.nesting none source.root).run.run
        Journal.empty).1.toOption
  else none

theorem expansion?_eq_some_iff {rules : Stream} {x : Element} :
    setup.expansion? rules = some x ↔ ∃ source, setup.Expanding rules source x := by
  simp only [expansion?, Option.bind_eq_bind, Option.bind_eq_some_iff, toOption_eq_some_iff,
    Option.ite_none_right_eq_some]
  constructor
  · rintro ⟨bytes, read, source, parsed, schema, expands⟩
    exact ⟨source, ⟨bytes, read, parsed⟩, schema,
      Miniature.answers_expandIncludes ⟨Journal.empty, _, Prod.ext expands rfl⟩⟩
  · rintro ⟨source, ⟨bytes, read, parsed⟩, schema, answers⟩
    exact ⟨bytes, read, source, parsed, schema, congrArg Prod.fst (answers Journal.empty)⟩

namespace Expanding

variable {rules : Stream} {source : Document} {x : Element}

theorem expands (h : setup.Expanding rules source x) :
    Expands setup.lookup setup.configuration.sourceLineNumbering none source.root x :=
  Miniature.expands_of_mayGive ⟨Journal.empty, Journal.empty, h.answers Journal.empty⟩

theorem stagesFrom_eq (h : setup.Expanding rules source x) (serves : setup.lookup.ServesPipeline)
    (s : Journal) :
    (setup.compiler none).stagesFrom (setup.factory none) Stage.all source .empty s =
      ((.ok (wrapped x), ⟨Stage.all, trees x⟩),
        { s with applied := s.applied ++ Stage.all.map Stage.stylesheet }) := by
  have expands := h.answers
  rw [← h.holds.baseUri_eq] at expands
  have included : Answers (setup.applyStage .includeExpand source) (.ok (stamped x "include")) :=
    Miniature.answers_applyMode_include h.schema expands
  have marked : Answers (setup.applyStage .abstractExpand (stamped x "include"))
      (.ok (stamped x "abstract")) := by
    rw [← restamped x "include" "abstract"]
    exact Miniature.answers_applyMode_abstract (attribute?_stamped x "include")
  have wraps : Answers (setup.applyStage .svrlGenerate (stamped x "abstract"))
      (.ok (wrapped x)) :=
    Miniature.answers_applyMode_svrl (attribute?_stamped x "abstract")
  have staged : Stage.all = [.includeExpand, .abstractExpand, .svrlGenerate] := rfl
  rw [staged, stagesFrom_cons serves included, stagesFrom_cons serves marked,
    stagesFrom_cons serves wraps, Compiler.stagesFrom]
  simp [Trace.start, Trace.complete, Trace.empty, trees]

theorem compileObserved_eq (h : setup.Expanding rules source x)
    (serves : setup.lookup.ServesPipeline) (id : Nat) (s : Journal) :
    ((setup.compiler none).compileObserved id rules).run s =
      ((.ok (setup.template id (wrapped x) none), ⟨Stage.all, trees x⟩),
        { s with
          factories := s.factories + 1
          applied := s.applied ++ Stage.all.map Stage.stylesheet }) := by
  rw [Compiler.compileObserved_eq, run_newFactory, readRules_eq_ok_iff.2 h.holds]
  dsimp only
  rw [h.stagesFrom_eq serves]
  dsimp only
  rw [factory_none]
  dsimp only
  rw [answers_executable_wrapped x]
  rfl

theorem compile_eq (h : setup.Expanding rules source x) (serves : setup.lookup.ServesPipeline)
    (id : Nat) (s : Journal) : (((setup.compiler none).compile id rules).run s).1 =
      .ok (setup.template id (wrapped x) none) :=
  congrArg (·.1.1) (h.compileObserved_eq serves id s)

end Expanding

theorem exists_expanding (serves : setup.lookup.ServesPipeline) {id : Nat} {rules : Stream}
    {template : Template Journal} {trace : Trace} {s t : Journal}
    (compiled : ((setup.compiler none).compileObserved id rules).run s =
      ((.ok template, trace), t)) :
    ∃ source x, setup.Expanding rules source x := by
  rw [Compiler.compileObserved_eq, run_newFactory] at compiled
  cases read : (setup.compiler none).readRules rules with
  | error error =>
    rw [read] at compiled
    cases compiled
  | ok source =>
    have holds := readRules_eq_ok_iff.1 read
    have staged : Stage.all = [.includeExpand, .abstractExpand, .svrlGenerate] := rfl
    simp only [read, staged] at compiled
    rw [Compiler.stagesFrom, run_runStage serves] at compiled
    -- Only the first of the stages counts here: it decides whether there is an expansion.
    cases applied : (setup.applyStage .includeExpand source).run.run
      { s with
        factories := s.factories + 1
        applied := s.applied ++ [Stage.includeExpand.stylesheet] } with
    | mk result after =>
      cases result with
      | error error =>
        simp only [applied] at compiled
        cases compiled
      | ok tree =>
        obtain ⟨schema, x, expands⟩ := Miniature.exists_of_applyMode_include ⟨_, _, applied⟩
        rw [holds.baseUri_eq] at expands
        exact ⟨source, x, holds, schema, Miniature.answers_expandIncludes expands⟩

end Setup

end Schematron
