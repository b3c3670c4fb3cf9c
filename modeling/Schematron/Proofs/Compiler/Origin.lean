import Schematron.Proofs.Compiler.Report
import Schematron.Proofs.Xml.LineNumbers

/-!
Where the elements of a compile come from. An address in an expansion is followed down the file that
is expanded; at an include it goes on in the included file.
-/
namespace Schematron

open Xml

namespace Xml.Document

theorem isSome_line_of_ofText {text : List Char} {numbered : Bool} {document : Document}
    (h : ofText text numbered = .ok document) :
    ∀ element ∈ document.root.preorder, element.line.isSome = numbered := by
  obtain ⟨root, built, rfl⟩ := map_eq_ok_iff.1 h
  intro element member
  cases numbered with
  | true =>
    have listed : element.line ∈ root.lines := List.mem_map_of_mem member
    rw [(lines_of_rootOfLexed built).1, List.mem_map] at listed
    obtain ⟨place, -, line⟩ := listed
    rw [← line]
    rfl
  | false =>
    have erased := eraseLines_rootOfLexed false (Utf8.encode (dropMark text)) (lex (dropMark text))
    rw [built] at erased
    have same : root.eraseLines = root := Except.ok.inj erased
    rw [ofRoot, ← same, root.preorder_eraseLines, List.mem_map] at member
    obtain ⟨⟨_, _, _, _⟩, -, rfl⟩ := member
    rfl

def IsRead (numbered : Bool) (document : Document) : Prop :=
  ∃ bytes parsed, parseBytes bytes numbered = .ok parsed ∧ document.root = parsed.root

theorem IsRead.isSome_line {numbered : Bool} {document : Document} (h : document.IsRead numbered) :
    ∀ element ∈ document.root.preorder, element.line.isSome = numbered := by
  obtain ⟨bytes, parsed, read, same⟩ := h
  rw [same]
  unfold parseBytes at read
  cases decoded : Encoding.decodeDocument bytes with
  | error fault => simp [decoded] at read
  | ok text =>
    rw [decoded] at read
    exact isSome_line_of_ofText read

end Xml.Document

section

variable {lookup : Lookup} {numbered : Bool}

theorem Stream.Holds.isRead {stream : Stream} {document : Document}
    (h : stream.Holds numbered document) : document.IsRead numbered := by
  obtain ⟨bytes, -, parsed⟩ := h
  exact ⟨bytes, document, parsed, rfl⟩

theorem Lookup.Finds.isRead {reference : String} {base : Option String} {document : Document}
    (h : lookup.Finds numbered reference base document) : document.IsRead numbered := by
  obtain ⟨resource, parsed, -, ⟨bytes, -, read⟩, rfl⟩ := h
  exact ⟨bytes, parsed, read, rfl⟩

/-- The element that comes to stand at an address, when an element of a file is expanded, and the
file that it is an element of. -/
inductive Origin (lookup : Lookup) (numbered : Bool) (origin : Document) (inner : Element) :
    Document → Element → List Nat → Prop
  | here : Origin lookup numbered origin inner origin inner []
  | inside {file : Document} {element child : Element} {i : Nat} {address : List Nat} :
      element.children[i]? = some (.element child) → child.localName ≠ "include" →
      Origin lookup numbered origin inner file child address →
      Origin lookup numbered origin inner file element (i :: address)
  | included {file document : Document} {element marker : Element} {reference : String} {i : Nat}
      {address : List Nat} :
      element.children[i]? = some (.element marker) → marker.localName = "include" →
      marker.attribute? "href" = some reference →
      lookup.Finds numbered reference file.baseUri document →
      Origin lookup numbered origin inner document document.root address →
      Origin lookup numbered origin inner file element (i :: address)

theorem Origin.unique {origin origin' file : Document} {inner inner' element : Element}
    {address : List Nat} (h : Origin lookup numbered origin inner file element address)
    (h' : Origin lookup numbered origin' inner' file element address) :
    origin = origin' ∧ inner = inner' := by
  induction h with
  | here =>
    cases h'
    exact ⟨rfl, rfl⟩
  | inside place other _ ih =>
    cases h' with
    | inside place' _ comes =>
      cases place.symm.trans place'
      exact ih comes
    | included place' named =>
      cases place.symm.trans place'
      exact absurd named other
  | included place named href finds _ ih =>
    cases h' with
    | inside place' other =>
      cases place.symm.trans place'
      exact absurd named other
    | included place' _ href' finds' comes =>
      cases place.symm.trans place'
      cases href.symm.trans href'
      cases finds.unique finds'
      exact ih comes

theorem Expanded.of_getElem? {base : Option String} {nodes nodes' : List Node}
    (h : Expanded lookup numbered base nodes nodes') {i : Nat} {child' : Element}
    (found : nodes'[i]? = some (.element child')) :
    (∃ child, nodes[i]? = some (.element child) ∧ child.localName ≠ "include" ∧
      Expands lookup numbered base child child') ∨
    ∃ marker reference document, nodes[i]? = some (.element marker) ∧
      marker.localName = "include" ∧ marker.attribute? "href" = some reference ∧
      lookup.Finds numbered reference base document ∧
      Expands lookup numbered document.baseUri document.root child' := by
  induction h generalizing i with
  | nil => simp at found
  | text _ ih | comment _ ih =>
    cases i with
    | zero => simp at found
    | succ i => exact ih found
  | element other expanded _ _ ih =>
    cases i with
    | zero =>
      obtain rfl : _ = child' := by simpa using found
      exact .inl ⟨_, rfl, other, _, expanded, rfl⟩
    | succ i => exact ih found
  | included named href finds expanded _ _ ih =>
    cases i with
    | zero =>
      obtain rfl : _ = child' := by simpa using found
      exact .inr ⟨_, _, _, rfl, named, href, finds, _, expanded, rfl⟩
    | succ i => exact ih found

theorem Expands.exists_origin {file : Document} {element x y : Element} {address : List Nat}
    (h : Expands lookup numbered file.baseUri element x) (leads : x.at? address = some y)
    (read : file.IsRead numbered) (member : element ∈ file.root.preorder) :
    ∃ origin inner, Origin lookup numbered origin inner file element address ∧
      origin.IsRead numbered ∧ inner ∈ origin.root.preorder ∧ y.name = inner.name ∧
      y.line = inner.line := by
  -- An include changes the file, never the address that is left to go.
  induction address generalizing file element x with
  | nil =>
    obtain ⟨children, -, rfl⟩ := h
    obtain rfl := Option.some.inj leads
    exact ⟨file, element, .here, read, member, rfl, rfl⟩
  | cons i address ih =>
    obtain ⟨children, expanded, rfl⟩ := h
    obtain ⟨child', found, leads⟩ := Element.at?_cons_eq_some_iff.1 leads
    rcases expanded.of_getElem? found with ⟨child, place, other, expands⟩ |
      ⟨marker, reference, document, place, named, href, finds, expands⟩
    · have below := Element.mem_preorder_trans member (Element.mem_preorder_of_getElem? place)
      obtain ⟨origin, inner, comes, rest⟩ := ih expands leads read below
      exact ⟨origin, inner, .inside place other comes, rest⟩
    · obtain ⟨origin, inner, comes, rest⟩ := ih expands leads finds.isRead
        document.root.self_mem_preorder
      exact ⟨origin, inner, .included place named href finds comes, rest⟩

end

namespace Setup

variable {setup : Setup}

variable (setup) in
/-- The elements of the tree have the lines of those that they come from when the rules are
expanded, and lines at all just where they are kept. -/
structure KeepsLines (source : Document) (tree : Element) : Prop where
  origin : ∀ address element, tree.at? address = some element →
    ∃ origin inner, Origin setup.lookup setup.configuration.sourceLineNumbering origin inner source
      source.root address ∧ (∀ origin' inner', Origin setup.lookup
        setup.configuration.sourceLineNumbering origin' inner' source source.root address →
        origin' = origin ∧ inner' = inner) ∧ inner ∈ origin.root.preorder ∧
      element.name = inner.name ∧ element.line = inner.line
  line : ∀ element ∈ tree.preorder,
    element.line.isSome = setup.configuration.sourceLineNumbering

namespace KeepsLines

variable {source : Document} {x : Element}

theorem setAttribute (h : setup.KeepsLines source x) (name value : String) :
    setup.KeepsLines source (x.setAttribute name value) where
  origin address element leads := by
    cases address with
    | nil =>
      obtain rfl := Option.some.inj leads
      exact h.origin [] x rfl
    | cons i address => exact h.origin (i :: address) element leads
  line element member := by
    rw [Element.preorder_setAttribute, List.mem_cons] at member
    rcases member with rfl | below
    · exact h.line x x.self_mem_preorder
    · exact h.line element (List.mem_of_mem_tail below)

end KeepsLines

theorem Expanding.keepsLines {rules : Stream} {source : Document} {x : Element}
    (h : setup.Expanding rules source x) : setup.KeepsLines source x := by
  have expands := h.expands
  rw [← h.holds.baseUri_eq] at expands
  have origins := fun (address : List Nat) (element : Element)
      (leads : x.at? address = some element) =>
    expands.exists_origin leads h.holds.isRead source.root.self_mem_preorder
  constructor
  · intro address element leads
    obtain ⟨origin, inner, comes, -, rest⟩ := origins address element leads
    exact ⟨origin, inner, comes, fun _ _ other => other.unique comes, rest⟩
  · intro element member
    obtain ⟨address, leads⟩ := Element.mem_preorder_iff.1 member
    obtain ⟨origin, inner, -, read, within, -, same⟩ := origins address element leads
    rw [same]
    exact read.isSome_line inner within

/-- Lines survive a compile. The trees of the first two stages have their lines from the rules and
from what these include, and so has the tree that the last one wraps; the wrapper has no line. -/
theorem compileObserved_keeps_lines (serves : setup.lookup.ServesPipeline) {id : Nat}
    {rules : Stream} {template : Template Journal} {trace : Trace} {s t : Journal}
    (compiled : ((setup.compiler none).compileObserved id rules).run s =
      ((.ok template, trace), t)) :
    ∃ source, rules.Holds setup.configuration.sourceLineNumbering source ∧
      trace.results.map Prod.fst = Stage.all ∧
      (∀ stage tree, (stage, tree) ∈ trace.results → stage ≠ .svrlGenerate →
        setup.KeepsLines source tree.root) ∧
      (∀ tree, (.svrlGenerate, tree) ∈ trace.results ∨ tree = template.stylesheet →
        ∃ marked, tree.root = { Miniature.wrapper with children := [.element marked] } ∧
          tree.root.line = none ∧ setup.KeepsLines source marked) := by
  obtain ⟨source, x, expanding⟩ := exists_expanding serves compiled
  rw [expanding.compileObserved_eq serves] at compiled
  cases compiled
  have kept := fun stamp => expanding.keepsLines.setAttribute Miniature.stampName stamp
  refine ⟨source, expanding.holds, rfl, fun stage tree member before => ?_, fun tree last => ?_⟩
  · simp only [trees, List.mem_cons, Prod.mk.injEq, List.not_mem_nil, or_false] at member
    rcases member with ⟨-, rfl⟩ | ⟨-, rfl⟩ | ⟨wrapping, -⟩
    · exact kept "include"
    · exact kept "abstract"
    · exact absurd wrapping before
  · have wraps : tree = wrapped x := by
      simpa [trees, template] using last
    rw [wraps]
    exact ⟨_, root_wrapped x, rfl, kept "abstract"⟩

theorem compileObserved_keeps_lines_nested :
    let setup : Setup := ⟨nestedFiles.resolve, nestedFiles.nesting, .standard⟩
    let lines (tree : Document) := tree.root.preorder.map fun inner => (inner.name, inner.line)
    let expected := [("schema", some 1), ("part", some 1), ("pattern", some 3),
      ("pattern", some 2), ("pattern", some 2), ("pattern", some 2)]
    setup.lookup.ServesPipeline ∧ ∃ template trace t source,
      ((setup.compiler none).compileObserved 0 nestedRules).run .empty =
        ((.ok template, trace), t) ∧
      (∀ stage tree, (stage, tree) ∈ trace.results → stage ≠ .svrlGenerate →
        setup.KeepsLines source tree.root) ∧
      trace.results.map (fun result => lines result.2) =
        [expected, expected, ("xsl:stylesheet", none) :: expected] := by
  intro setup lines expected
  have serves : setup.lookup.ServesPipeline := serves_nestedFiles
  have seen : (setup.expansion? nestedRules).map (fun x => (trees x).map fun result =>
      lines result.2) = some [expected, expected, ("xsl:stylesheet", none) :: expected] := by
    decide +kernel
  obtain ⟨x, expands, seen⟩ := Option.map_eq_some_iff.1 seen
  obtain ⟨source, expanding⟩ := expansion?_eq_some_iff.1 expands
  have compiled := expanding.compileObserved_eq serves 0 .empty
  obtain ⟨source, -, -, kept, -⟩ := compileObserved_keeps_lines serves compiled
  exact ⟨serves, _, _, _, source, compiled, kept, seen⟩

end Setup

end Schematron
