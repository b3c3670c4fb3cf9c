import Mathlib.Data.List.Induction
import Schematron.Proofs.Keys
import Schematron.Proofs.Xml.Markup
import Schematron.Proofs.Xml.RoundTrip

namespace Schematron.Xml

theorem names_setIn (name value : String) (attributes : List (String × String)) :
    (setIn name value attributes).map Prod.fst =
      if name ∈ attributes.map Prod.fst then attributes.map Prod.fst
      else attributes.map Prod.fst ++ [name] := by
  induction attributes with
  | nil => simp [setIn]
  | cons pair rest ih =>
    obtain ⟨key, old⟩ := pair
    by_cases same : key = name
    · simp [setIn, same]
    · by_cases known : name ∈ rest.map Prod.fst
      · simp [setIn, same, ih, known]
      · simp [setIn, same, ih, known, Ne.symm same]

namespace Element

def attributeNames (element : Element) : List String :=
  element.attributes.map Prod.fst

def setAll (element : Element) (calls : List (String × String)) : Element :=
  calls.foldl (fun element call => element.setAttribute call.1 call.2) element

def LastCall (calls : List (String × String)) (name value : String) : Prop :=
  ∃ before later, calls = before ++ (name, value) :: later ∧ ∀ call ∈ later, call.1 ≠ name

inductive Original : Element → Prop
  | new (name : String) : Original (named name)
  | read {text : String} {numbered : Bool} {document : Document} {element : Element}
      (parsed : Document.parse text numbered = .ok document)
      (inside : element ∈ document.root.descendants) : Original element

variable {element : Element} {calls : List (String × String)} {name value : String}

theorem Original.distinct (original : element.Original) : element.attributeNames.Nodup := by
  cases original with
  | new name => exact .nil
  | read parsed inside =>
    rw [descendants_eq] at inside
    have heading := List.mem_map_of_mem (f := Element.heading) inside
    rw [← headings_events, List.mem_filterMap] at heading
    obtain ⟨event, member, same⟩ := heading
    have sound := Document.soundMarkup_of_parse parsed event member
    cases event with
    | opened =>
      cases same
      exact sound.2.2
    | _ => contradiction

/-- A name that is there stays in its place, and a new one comes last. -/
theorem attributeNames_setAttribute :
    (element.setAttribute name value).attributeNames =
      if name ∈ element.attributeNames then element.attributeNames
      else element.attributeNames ++ [name] :=
  names_setIn name value element.attributes

theorem nodup_setAttribute (distinct : element.attributeNames.Nodup) :
    (element.setAttribute name value).attributeNames.Nodup := by
  rw [attributeNames_setAttribute]
  split
  next => exact distinct
  next fresh => exact List.nodup_middle.2 (by simpa using List.nodup_cons.2 ⟨fresh, distinct⟩)

@[simp] theorem setAll_concat (call : String × String) :
    element.setAll (calls ++ [call]) = (element.setAll calls).setAttribute call.1 call.2 := by
  simp [setAll]

theorem lastCall_iff_lookup :
    LastCall calls name value ↔ calls.reverse.lookup name = some value := by
  rw [List.lookup_eq_some_iff]
  constructor
  · rintro ⟨before, later, rfl, others⟩
    refine ⟨later.reverse, before.reverse, by simp, fun call member => ?_⟩
    exact bne_iff_ne.2 (others call (List.mem_reverse.1 member)).symm
  · rintro ⟨later, before, split, others⟩
    refine ⟨before.reverse, later.reverse, ?_, fun call member => ?_⟩
    · simpa using congrArg List.reverse split
    · exact (bne_iff_ne.1 (others call (List.mem_reverse.1 member))).symm

/-- A name has the value of the last call for it, or else the one it had. -/
theorem attribute?_setAll (element : Element) (calls : List (String × String)) (name : String) :
    (element.setAll calls).attribute? name =
      (calls.reverse.lookup name).or (element.attribute? name) := by
  induction calls using List.reverseRecOn with
  | nil => rfl
  | append_singleton calls call ih =>
    rw [setAll_concat, attribute?_setAttribute, List.reverse_append, List.reverse_singleton,
      List.singleton_append, lookup_cons_eq, ih]
    split <;> rfl

theorem nodup_setAll (distinct : element.attributeNames.Nodup) :
    (element.setAll calls).attributeNames.Nodup := by
  induction calls using List.reverseRecOn with
  | nil => exact distinct
  | append_singleton calls call ih =>
    rw [setAll_concat]
    exact nodup_setAttribute ih

/-- The names are in the order in which they first appeared. -/
theorem attributeNames_setAll (distinct : element.attributeNames.Nodup) :
    (element.setAll calls).attributeNames =
      (element.attributeNames ++ calls.map Prod.fst).eraseDups := by
  induction calls using List.reverseRecOn with
  | nil => simp [setAll, eraseDups_of_nodup distinct]
  | append_singleton calls call ih =>
    rw [setAll_concat, attributeNames_setAttribute, List.map_append, ← List.append_assoc,
      List.map_singleton, eraseDups_concat]
    simp only [ih, List.mem_eraseDups]

theorem setAll_keeps (element : Element) (calls : List (String × String)) :
    (element.setAll calls).name = element.name ∧
    (element.setAll calls).children = element.children ∧
    (element.setAll calls).line = element.line := by
  induction calls using List.reverseRecOn with
  | nil => exact ⟨rfl, rfl, rfl⟩
  | append_singleton calls call ih =>
    rw [setAll_concat]
    exact ih

/-- Of a new element, or one that was read, after any calls: its names are different from each other
and in the order of their first appearance; a name has the value of the last call for it, or without
one the value that it was read with, or without that none; and nothing else has changed. -/
theorem attributes_after (original : element.Original) (calls : List (String × String)) :
    (element.setAll calls).attributeNames.Nodup ∧
    (element.setAll calls).attributeNames =
      (element.attributeNames ++ calls.map Prod.fst).eraseDups ∧
    (∀ name value, (element.setAll calls).attribute? name = some value ↔
      LastCall calls name value ∨
      name ∉ calls.map Prod.fst ∧ (name, value) ∈ element.attributes) ∧
    (∀ name, (element.setAll calls).attribute? name = none ↔
      name ∉ calls.map Prod.fst ∧ name ∉ element.attributeNames) ∧
    (element.setAll calls).name = element.name ∧
    (element.setAll calls).children = element.children ∧
    (element.setAll calls).line = element.line := by
  have distinct := original.distinct
  have uncalled (name : String) :
      calls.reverse.lookup name = none ↔ name ∉ calls.map Prod.fst := by
    rw [lookup_eq_none_iff_not_mem, List.map_reverse, List.mem_reverse]
  refine ⟨nodup_setAll distinct, attributeNames_setAll distinct, fun name value => ?_,
    fun name => ?_, setAll_keeps element calls⟩
  · rw [attribute?_setAll, Option.or_eq_some_iff, lastCall_iff_lookup, uncalled, attribute?,
      lookup_iff_mem distinct]
  · rw [attribute?_setAll, Option.or_eq_none_iff, uncalled, attribute?,
      lookup_eq_none_iff_not_mem, attributeNames]

def revisions : List (String × String) :=
  [("b", "3"), ("y", "4"), ("x", "5"), ("b", "6")]

theorem attributes_after_revisions :
    ∃ document, Document.parse "<r><e x=\"1\" y=\"&lt;\" z=\"2\"/></r>" true = .ok document ∧
      ∃ element ∈ document.root.descendants, element.Original ∧
        element.attributes = [("x", "1"), ("y", "<"), ("z", "2")] ∧
        (element.setAll revisions).attributeNames = ["x", "y", "z", "b"] ∧
        (element.setAll revisions).attribute? "b" = some "6" ∧
        (element.setAll revisions).attribute? "z" = some "2" ∧
        (element.setAll revisions).attribute? "a" = none ∧
        (element.setAll revisions).line = some 1 := by
  have read : Document.parse "<r><e x=\"1\" y=\"&lt;\" z=\"2\"/></r>" true =
      .ok (.ofRoot ⟨"r", [], [.element
        ⟨"e", [("x", "1"), ("y", "<"), ("z", "2")], [], some 1⟩], some 1⟩) := by
    decide +kernel
  refine ⟨_, read, ⟨"e", [("x", "1"), ("y", "<"), ("z", "2")], [], some 1⟩, ?_⟩
  have inside : (⟨"e", [("x", "1"), ("y", "<"), ("z", "2")], [], some 1⟩ : Element) ∈
      (Document.ofRoot ⟨"r", [], [.element
        ⟨"e", [("x", "1"), ("y", "<"), ("z", "2")], [], some 1⟩], some 1⟩).root.descendants := by
    simp [descendants_eq, Document.ofRoot, preorder, preorderNodes, Node.preorder]
  have original := Original.read read inside
  obtain ⟨-, names, values, missing, -, -, line⟩ := attributes_after original revisions
  refine ⟨inside, original, rfl, names.trans (by decide), ?_, ?_, ?_, line⟩
  · exact (values _ _).2 (.inl ⟨[("b", "3"), ("y", "4"), ("x", "5")], [], rfl, by simp⟩)
  · exact (values _ _).2 (.inr ⟨by decide, by decide⟩)
  · exact (missing _).2 ⟨by decide, by decide⟩

end Element
end Schematron.Xml
