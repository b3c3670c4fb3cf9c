import Schematron.Proofs.Compiler.Pipeline
import Schematron.Proofs.Engine.Depth

/-!
What becomes of the patterns of a schema: the compiled stylesheet holds the expansion of the rules,
marked by the last stage but one, and reports the patterns of that expansion.
-/
namespace Schematron

open Xml

def patternId? (element : Element) : Option String :=
  if element.localName = "pattern" then element.attribute? "id" else none

def activePattern (id : String) : Element :=
  ⟨"svrl:active-pattern", [("id", id)], [], none⟩

theorem patternId?_setAttribute (element : Element) {name : String} (value : String)
    (other : "id" ≠ name) : patternId? (element.setAttribute name value) = patternId? element := by
  rw [patternId?, patternId?, Element.localName_setAttribute, Element.attribute?_setAttribute,
    if_neg other]

namespace Miniature

theorem patternIds_eq (root : Element) :
    patternIds root = root.preorder.filterMap patternId? := by
  rw [patternIds, Element.descendants_eq, List.filterMap_filter]
  simp only [beq_iff_eq]
  rfl

theorem children_foldl_addChild (child : String → Node) (ids : List String) (output : Element) :
    (ids.foldl (fun output id => output.addChild (child id)) output).children =
      output.children ++ ids.map child := by
  induction ids generalizing output with
  | nil => simp
  | cons id rest ih =>
    rw [List.foldl_cons, ih, List.map_cons, List.append_cons output.children]
    rfl

theorem children_report (ids : List String) :
    (report ids).root.children = ids.map fun id => .element (activePattern id) :=
  children_foldl_addChild (fun id => .element (activePattern id)) ids _

end Miniature

namespace Setup

theorem root_wrapped (x : Element) : (wrapped x).root =
    { Miniature.wrapper with
      children := [.element (x.setAttribute Miniature.stampName "abstract")] } :=
  rfl

theorem patternIds_wrapped (x : Element) :
    Miniature.patternIds (wrapped x).root = x.preorder.filterMap patternId? := by
  have outer : patternId? (wrapped x).root = none := by
    rw [patternId?, localName_wrapped]
    rfl
  rw [Miniature.patternIds_eq, Element.preorder_eq, List.filterMap_cons, outer]
  have inner : (wrapped x).root.childElements =
      [x.setAttribute Miniature.stampName "abstract"] := rfl
  simp only [inner, List.flatMap_singleton]
  exact x.filterMap_preorder_setAttribute _ _ (patternId?_setAttribute x _ (by decide))

end Setup

namespace Store

def withPipeline (files : List (String × List UInt8)) : Store :=
  ⟨Miniature.pipelineStore.entries ++ files⟩

theorem get?_withPipeline (files : List (String × List UInt8)) (path content : String)
    (h : (path, content) ∈ Miniature.pipeline) :
    (withPipeline files).get? path = some (Utf8.encode content.toList) := by
  simp only [Miniature.pipeline, List.mem_cons, Prod.mk.injEq, List.not_mem_nil, or_false] at h
  rcases h with ⟨rfl, rfl⟩ | ⟨rfl, rfl⟩ | ⟨rfl, rfl⟩ | ⟨rfl, rfl⟩ <;>
    simp [get?, withPipeline, Miniature.pipelineStore, Miniature.pipeline, List.lookup_cons]

end Store

def nestedFiles : Store :=
  .withPipeline [
    ("parts/a.sch", Utf8.encode
      "<part>\n<include href=\"deep/b.sch\"/><pattern id=\"second\"/>\n</part>".toList),
    ("parts/deep/b.sch", Utf8.encode "\n\n<pattern id=\"first\"/>".toList)]

def nestedRules : Stream :=
  .whole (Utf8.encode
    "<schema>\n<include href=\"parts/a.sch\"/><pattern/><pattern id=\"third\"/>\n</schema>".toList)

theorem serves_nestedFiles : Lookup.ServesPipeline nestedFiles.resolve :=
  Lookup.servesPipeline_ofContents (Store.get?_withPipeline _)

theorem Store.exists_compile_eq_ok_iff {store : Store} {configuration : Configuration}
    (stored : ∀ path content, (path, content) ∈ Miniature.pipeline →
      store.get? path = some (Utf8.encode content.toList)) (id : Nat) (rules : Stream)
    (s : Journal) :
    (∃ template, (((Setup.compiler ⟨store.resolve, store.nesting, configuration⟩ none).compile id
      rules).run s).1 = .ok template) ↔
      ∃ source x, rules.Holds configuration.sourceLineNumbering source ∧
        source.root.localName = "schema" ∧
        Expands store.resolve configuration.sourceLineNumbering none source.root x := by
  have serves : (Setup.mk store.resolve store.nesting configuration).lookup.ServesPipeline :=
    Lookup.servesPipeline_ofContents stored
  constructor
  · rintro ⟨template, compiled⟩
    obtain ⟨source, x, expanding⟩ :=
      Setup.exists_expanding serves (Prod.ext (Prod.ext compiled rfl) rfl)
    exact ⟨source, x, expanding.holds, expanding.schema, expanding.expands⟩
  · rintro ⟨source, x, holds, schema, expands⟩
    have expanding : Setup.Expanding ⟨store.resolve, store.nesting, configuration⟩ rules source x :=
      ⟨holds, schema, store.answers_of_expands expands⟩
    exact ⟨_, expanding.compile_eq serves id s⟩

namespace Setup

/-- The template of rules with an expansion: its stylesheet is the wrapper around the marked
expansion, and to whatever it is applied, it reports each pattern of the expansion with an id once,
in document order. With a store a template comes of all rules that have an expansion. -/
theorem compile_reports_expansion :
    (∀ (setup : Setup) (id : Nat) (rules : Stream) (s : Journal) (template : Template Journal),
      setup.lookup.ServesPipeline →
      (((setup.compiler none).compile id rules).run s).1 = .ok template →
      ∃ source x marked, rules.Holds setup.configuration.sourceLineNumbering source ∧
        Expands setup.lookup setup.configuration.sourceLineNumbering none source.root x ∧
        (∀ y, Expands setup.lookup setup.configuration.sourceLineNumbering none source.root y →
          y = x) ∧
        template.stylesheet.root = { Miniature.wrapper with children := [.element marked] } ∧
        marked.SameBut "stage" x ∧ marked.attribute? "stage" = some "abstract" ∧
        ∀ document t, ∃ report, (template.apply document).run.run t = (.ok report, t) ∧
          report.root.children =
            (x.preorder.filterMap patternId?).map fun id => .element (activePattern id)) ∧
    ∀ (store : Store) (configuration : Configuration) (id : Nat) (rules : Stream) (s : Journal),
      (∀ path content, (path, content) ∈ Miniature.pipeline →
        store.get? path = some (Utf8.encode content.toList)) →
      ((∃ template, (((Setup.compiler ⟨store.resolve, store.nesting, configuration⟩ none).compile
        id rules).run s).1 = .ok template) ↔
        ∃ source x, rules.Holds configuration.sourceLineNumbering source ∧
          source.root.localName = "schema" ∧
          Expands store.resolve configuration.sourceLineNumbering none source.root x) := by
  refine ⟨fun setup id rules s template serves compiled => ?_,
    fun store configuration id rules s stored => store.exists_compile_eq_ok_iff stored id rules s⟩
  have observed : ((setup.compiler none).compileObserved id rules).run s =
      ((.ok template, _), _) := Prod.ext (Prod.ext compiled rfl) rfl
  obtain ⟨source, x, expanding⟩ := exists_expanding serves observed
  rw [expanding.compileObserved_eq serves] at observed
  obtain rfl : setup.template id (wrapped x) none = template :=
    Except.ok.inj (congrArg (·.1.1) observed)
  refine ⟨source, x, x.setAttribute Miniature.stampName "abstract", expanding.holds,
    expanding.expands, fun y other => other.unique expanding.expands, root_wrapped x,
    x.sameBut_setAttribute _ _, attribute?_stamped x "abstract",
    fun document t => ⟨_, rfl, ?_⟩⟩
  rw [Miniature.children_report, patternIds_wrapped]

theorem compile_reports_expansion_nested :
    let setup : Setup := ⟨nestedFiles.resolve, nestedFiles.nesting, .standard⟩
    setup.lookup.ServesPipeline ∧
      ∃ (template : Template Journal) (x : Element),
        (((setup.compiler none).compile 0 nestedRules).run .empty).1 = .ok template ∧
        x.preorder.filterMap patternId? = ["first", "second", "third"] ∧
        ∀ document t, ∃ report, (template.apply document).run.run t = (.ok report, t) ∧
          report.root.children = ["first", "second", "third"].map
            fun id => .element (activePattern id) := by
  intro setup
  have serves : setup.lookup.ServesPipeline := serves_nestedFiles
  have ids : (setup.expansion? nestedRules).map (·.preorder.filterMap patternId?) =
      some ["first", "second", "third"] := by
    decide +kernel
  obtain ⟨x, expands, ids⟩ := Option.map_eq_some_iff.1 ids
  obtain ⟨source, expanding⟩ := expansion?_eq_some_iff.1 expands
  have compiled := expanding.compile_eq serves 0 .empty
  obtain ⟨source', x', _, holds, -, unique, -, -, -, reports⟩ :=
    compile_reports_expansion.1 setup 0 nestedRules .empty _ serves compiled
  obtain rfl := holds.unique expanding.holds
  obtain rfl := unique x expanding.expands
  rw [ids] at reports
  exact ⟨serves, _, x, compiled, ids, reports⟩

end Setup

end Schematron
