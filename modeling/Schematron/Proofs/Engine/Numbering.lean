import Schematron.Proofs.Engine.Miniature
import Schematron.Proofs.Xml.Numbering

/-!
The miniature engine with and without line numbers. Two runs that start in one state keep to one
state, because the engine asks nothing of an element that depends on its line.
-/
namespace Schematron

variable {α β σ : Type}

def Tie.equal (σ : Type) : Tie σ σ where
  going := Eq
  ended _ := Eq
  kept _ := True
  kept_none := trivial
  ended_of_going _ same := same

theorem Tie.journals_equal [Journaled σ] : (Tie.equal σ).Journals where
  same h := congrArg Journaled.journal h
  amend change h := congrArg (Journaled.amend change) h

/-- Actions that do the same to the state and fail alike; their results are so related. -/
abbrev Agree (results : α → β → Prop) (first : EngineM σ α) (second : EngineM σ β) : Prop :=
  Couples (Tie.equal σ).going (Tie.equal σ).ended results first second

theorem Agree.refl (action : EngineM σ α) : Agree (· = ·) action action := by
  rintro s _ rfl
  generalize action.run.run s = ended
  obtain ⟨⟨error⟩ | ⟨a⟩, s⟩ := ended
  · exact .error rfl
  · exact .ok rfl rfl

def Transformation.Unlined (transform transform' : Transformation σ) : Prop :=
  ∀ source, Agree (Xml.Document.eraseLines · = ·) (transform source) (transform' source.eraseLines)

/-- Factories of which the second makes of stylesheets without lines what the first makes of them;
what they make of a generated stylesheet is the same. -/
structure Factory.Unlined (first second : Factory σ) : Prop where
  transformation : ∀ systemId document,
    Agree Transformation.Unlined (first.transformation ⟨systemId, document⟩)
      (second.transformation ⟨systemId, document.eraseLines⟩)
  executable : ∀ stylesheet,
    Agree (· = ·) (first.executable stylesheet) (second.executable stylesheet.eraseLines)

theorem Resolver.agree_loadDocument (resolver : Resolver σ) (numbered : Bool) (reference : String)
    (base : Option String) :
    Agree (Xml.Document.eraseLines · = ·) (resolver.loadDocument numbered reference base)
      (resolver.loadDocument false reference base) := by
  rintro s _ rfl
  rw [loadDocument, loadDocument, run_bind, run_bind, run_liftM]
  generalize (resolver.load reference base).run s = loaded
  obtain ⟨⟨error⟩ | ⟨systemId, bytes⟩, s⟩ := loaded
  · exact .error rfl
  · dsimp only
    rw [← Xml.Document.eraseLines_parseBytes bytes numbered]
    cases Xml.Document.parseBytes bytes numbered with
    | error error => exact .error rfl
    | ok document => exact .ok rfl rfl

namespace Miniature

open Xml

section

variable {replacement replacement' : Element → EngineM σ Element}

theorem isInclude_eraseLines (element : Element) :
    isInclude element.eraseLines = isInclude element := by
  simp [isInclude]

mutual

theorem agree_replaceIncludes (same : ∀ marker, Agree (Element.eraseLines · = ·)
    (replacement marker) (replacement' marker.eraseLines)) :
    ∀ element, Agree (Element.eraseLines · = ·) (replaceIncludes replacement element)
      (replaceIncludes replacement' element.eraseLines)
  | ⟨name, attributes, children, line⟩ => by
    rw [Element.eraseLines, replaceIncludes, replaceIncludes]
    refine (agree_replaceInNodes same children).bind ?_
    rintro children _ rfl
    exact .pure rfl

theorem agree_replaceInNode (same : ∀ marker, Agree (Element.eraseLines · = ·)
    (replacement marker) (replacement' marker.eraseLines)) :
    ∀ node, Agree (Node.eraseLines · = ·) (replaceInNode replacement node)
      (replaceInNode replacement' node.eraseLines)
  | .element inner => by
    rw [Node.eraseLines, replaceInNode, replaceInNode, isInclude_eraseLines]
    split
    · exact (same inner).bind fun _ _ replaced => .pure (congrArg Node.element replaced)
    · exact (agree_replaceIncludes same inner).bind fun _ _ replaced =>
        .pure (congrArg Node.element replaced)
  | .text content => by
    rw [Node.eraseLines, replaceInNode, replaceInNode]
    exact .pure rfl
  | .comment content => by
    rw [Node.eraseLines, replaceInNode, replaceInNode]
    exact .pure rfl

theorem agree_replaceInNodes (same : ∀ marker, Agree (Element.eraseLines · = ·)
    (replacement marker) (replacement' marker.eraseLines)) :
    ∀ nodes, Agree (eraseLinesNodes · = ·) (replaceInNodes replacement nodes)
      (replaceInNodes replacement' (eraseLinesNodes nodes))
  | [] => by
    rw [eraseLinesNodes, replaceInNodes, replaceInNodes]
    exact .pure rfl
  | node :: rest => by
    rw [eraseLinesNodes, replaceInNodes, replaceInNodes]
    refine (agree_replaceInNode same node).bind ?_
    rintro node _ rfl
    refine (agree_replaceInNodes same rest).bind ?_
    rintro rest _ rfl
    exact .pure rfl

end

end

theorem agree_expandIncludes (resolver : Resolver σ) (numbered : Bool) (depth : Nat)
    (base : Option String) (element : Element) :
    Agree (Element.eraseLines · = ·) (expandIncludes resolver numbered depth base element)
      (expandIncludes resolver false depth base element.eraseLines) := by
  -- The depth bounds the nesting of documents; in each of them the lemma above goes on.
  induction depth generalizing base element with
  | zero =>
    rw [expandIncludes, expandIncludes]
    refine agree_replaceIncludes (fun marker => ?_) element
    rw [Element.attribute?_eraseLines]
    cases marker.attribute? "href" with
    | none => exact Tie.couples_throw _ _
    | some reference =>
      exact (resolver.agree_loadDocument numbered reference base).bind fun _ _ _ =>
        Tie.couples_throw _ _
  | succ depth ih =>
    rw [expandIncludes, expandIncludes]
    refine agree_replaceIncludes (fun marker => ?_) element
    rw [Element.attribute?_eraseLines]
    cases marker.attribute? "href" with
    | none => exact Tie.couples_throw _ _
    | some reference =>
      refine (resolver.agree_loadDocument numbered reference base).bind ?_
      rintro document _ rfl
      exact ih document.baseUri document.root

theorem agree_checkIncludes (resolver : Resolver σ) (numbered : Bool) (systemId : String)
    (markers : List Element) :
    Agree (· = ·) (checkIncludes resolver numbered systemId markers)
      (checkIncludes resolver false systemId (markers.map Element.eraseLines)) := by
  induction markers with
  | nil => exact .pure rfl
  | cons marker rest ih =>
    rw [List.map_cons, checkIncludes, checkIncludes, Element.attribute?_eraseLines]
    cases marker.attribute? "href" with
    | none => exact Tie.couples_throw _ _
    | some reference =>
      exact (resolver.agree_loadDocument numbered reference (some systemId)).bind fun _ _ _ => ih

theorem requireStamp_eraseLines (source : Document) (expected : String) :
    requireStamp (σ := σ) source.eraseLines expected = requireStamp source expected := by
  simp [requireStamp, Document.eraseLines]

theorem agree_applyMode (resolver : Resolver σ) (numbered : Bool) (systemId mode : String)
    (source : Document) :
    Agree (Document.eraseLines · = ·) (applyMode resolver numbered systemId mode source)
      (applyMode resolver false systemId mode source.eraseLines) := by
  have stamped := fun expected => Agree.refl (requireStamp (σ := σ) source expected)
  unfold applyMode
  split
  next =>
    rw [show source.eraseLines.root.localName = source.root.localName from
      source.root.localName_eraseLines]
    split
    · refine (agree_expandIncludes resolver numbered _ source.baseUri source.root).bind ?_
      rintro root _ rfl
      refine .pure ?_
      simp [Document.eraseLines, Document.ofRoot]
    · rw [show source.eraseLines.root.name = source.root.name from source.root.name_eraseLines]
      exact Tie.couples_throw _ _
  next =>
    rw [requireStamp_eraseLines]
    refine (stamped _).bind fun _ _ _ => .pure ?_
    simp [Document.eraseLines]
  next =>
    rw [requireStamp_eraseLines]
    refine (stamped _).bind fun _ _ _ => .pure ?_
    simp [Document.eraseLines, Document.ofRoot, Node.eraseLines, wrapper, Element.eraseLines,
      Element.named, Element.setAttribute, eraseLinesNodes]
  next => exact .pure rfl
  next => exact Tie.couples_throw _ _
  next => exact Tie.couples_throw _ _

variable [Journaled σ]

theorem agree_transformation (resolver : Resolver σ) (numbered : Bool) (systemId : String)
    (document : Document) :
    Agree Transformation.Unlined (transformation resolver numbered ⟨systemId, document⟩)
      (transformation resolver false ⟨systemId, document.eraseLines⟩) := by
  have markers : (document.root.eraseLines.childElements.filter isInclude) =
      (document.root.childElements.filter isInclude).map Element.eraseLines := by
    rw [Element.childElements_eraseLines, List.filter_map]
    congr 2
    funext element
    exact isInclude_eraseLines element
  unfold transformation
  simp only [Document.eraseLines, Element.localName_eraseLines, Element.attribute?_eraseLines,
    markers]
  split
  · exact Tie.couples_throw_bind _ _
  · refine (agree_checkIncludes resolver numbered systemId _).bind fun _ _ _ => ?_
    split
    next => exact Tie.couples_throw _ _
    next mode _ =>
      refine .pure fun source => ?_
      exact (couples_noteApplied Tie.journals_equal systemId).bind fun _ _ _ =>
        agree_applyMode resolver numbered systemId mode source

theorem patternIds_eraseLines (root : Element) : patternIds root.eraseLines = patternIds root := by
  rw [patternIds, patternIds, Element.descendants_eraseLines, List.filter_map, List.filterMap_map]
  simp [Function.comp_def]

omit [Journaled σ] in
theorem executable_eraseLines (stylesheet : Document) :
    executable (σ := σ) stylesheet.eraseLines = executable stylesheet := by
  simp [executable, Document.eraseLines, patternIds_eraseLines]

theorem factory_unlined (resolver : Resolver σ) (numbered : Bool) :
    Factory.Unlined ⟨transformation resolver numbered, executable⟩
      ⟨transformation resolver false, executable⟩ where
  transformation := agree_transformation resolver numbered
  executable stylesheet := by
    dsimp only
    rw [executable_eraseLines]
    exact Agree.refl _

end Miniature

theorem Factory.Unlined.withFaults [Journaled σ] (faults : List PlannedFault)
    {factory factory' : Factory σ} (unlined : factory.Unlined factory') :
    (factory.withFaults faults).Unlined (factory'.withFaults faults) where
  transformation systemId document :=
    (PlannedFault.couples_guarded Tie.journals_equal faults _
      (unlined.transformation systemId document)).bind fun _ _ same => .pure fun source =>
        PlannedFault.couples_guarded Tie.journals_equal faults _ (same source)
  executable stylesheet := by
    refine (PlannedFault.couples_guarded Tie.journals_equal faults _
      (unlined.executable stylesheet)).bind ?_
    rintro apply _ rfl
    exact .pure rfl

end Schematron
