import Schematron.Xml.Tree

/-!
Elements in their trees. An address is the list of the child indices that lead from the root to an
element; the elements at the addresses are those of the walk. Setting an attribute changes the value
of that one attribute and nothing below the element.
-/
namespace Schematron.Xml

namespace Element

def at? (element : Element) : List Nat → Option Element
  | [] => some element
  | i :: address => (element.children[i]?.bind Node.element?).bind (·.at? address)

theorem at?_cons_eq_some_iff {element inner : Element} {i : Nat} {address : List Nat} :
    element.at? (i :: address) = some inner ↔
      ∃ child, element.children[i]? = some (.element child) ∧ child.at? address = some inner := by
  rw [at?]
  cases element.children[i]? with
  | none => simp
  | some node => cases node <;> simp [Node.element?]

end Element

mutual

theorem Element.exists_at?_of_mem : ∀ {element inner : Element}, inner ∈ element.preorder →
    ∃ address, element.at? address = some inner
  | ⟨name, attributes, children, line⟩, inner, h => by
    rw [Element.preorder, List.mem_cons] at h
    rcases h with rfl | below
    · exact ⟨[], rfl⟩
    · obtain ⟨i, child, address, found, leads⟩ := exists_at?_of_mem_nodes below
      exact ⟨i :: address, Element.at?_cons_eq_some_iff.2 ⟨child, found, leads⟩⟩

theorem exists_at?_of_mem_nodes : ∀ {nodes : List Node} {inner : Element},
    inner ∈ preorderNodes nodes →
    ∃ (i : Nat) (child : Element) (address : List Nat), nodes[i]? = some (.element child) ∧
      child.at? address = some inner
  | [], inner, h => by simp [preorderNodes] at h
  | node :: rest, inner, h => by
    rw [preorderNodes, List.mem_append] at h
    rcases h with first | later
    · cases node with
      | element child =>
        obtain ⟨address, leads⟩ := Element.exists_at?_of_mem first
        exact ⟨0, child, address, rfl, leads⟩
      | text => simp [Node.preorder] at first
      | comment => simp [Node.preorder] at first
    · obtain ⟨i, child, address, found, leads⟩ := exists_at?_of_mem_nodes later
      exact ⟨i + 1, child, address, found, leads⟩

end

namespace Element

theorem mem_childElements_of_getElem? {element child : Element} {i : Nat}
    (h : element.children[i]? = some (.element child)) : child ∈ element.childElements :=
  List.mem_filterMap.2 ⟨_, List.mem_of_getElem? h, rfl⟩

theorem mem_preorder_iff {element inner : Element} :
    inner ∈ element.preorder ↔ ∃ address, element.at? address = some inner := by
  refine ⟨Element.exists_at?_of_mem, ?_⟩
  rintro ⟨address, leads⟩
  induction address generalizing element with
  | nil =>
    obtain rfl := Option.some.inj leads
    rw [preorder_eq]
    exact List.mem_cons_self
  | cons i address ih =>
    obtain ⟨child, found, leads⟩ := at?_cons_eq_some_iff.1 leads
    rw [preorder_eq, List.mem_cons, List.mem_flatMap]
    exact .inr ⟨child, mem_childElements_of_getElem? found, ih leads⟩

theorem at?_append (element : Element) (front rest : List Nat) :
    element.at? (front ++ rest) = (element.at? front).bind (·.at? rest) := by
  induction front generalizing element with
  | nil => rfl
  | cons i front ih =>
    rw [List.cons_append, at?, at?]
    cases element.children[i]?.bind Node.element? with
    | none => rfl
    | some child => exact ih child

theorem self_mem_preorder (element : Element) : element ∈ element.preorder :=
  mem_preorder_iff.2 ⟨[], rfl⟩

theorem mem_preorder_trans {element inner innermost : Element} (h : inner ∈ element.preorder)
    (h' : innermost ∈ inner.preorder) : innermost ∈ element.preorder := by
  obtain ⟨front, leads⟩ := mem_preorder_iff.1 h
  obtain ⟨rest, leads'⟩ := mem_preorder_iff.1 h'
  exact mem_preorder_iff.2 ⟨front ++ rest, by rw [at?_append, leads]; exact leads'⟩

theorem mem_preorder_of_getElem? {element child : Element} {i : Nat}
    (h : element.children[i]? = some (.element child)) : child ∈ element.preorder :=
  mem_preorder_iff.2 ⟨[i], at?_cons_eq_some_iff.2 ⟨child, h, rfl⟩⟩

theorem descendants_eq (element : Element) : element.descendants = element.preorder := by
  rw [descendants, walk_eq_flatMap, List.flatMap_singleton]

end Element

section

variable (name value : String) (attributes : List (String × String))

theorem lookup_cons_eq (pair : String × String) :
    (pair :: attributes).lookup name =
      if name = pair.1 then some pair.2 else attributes.lookup name := by
  obtain ⟨key, old⟩ := pair
  by_cases h : name = key
  · simp [h]
  · simp [List.lookup_cons, beq_false_of_ne h, h]

theorem lookup_setIn (other : String) : (setIn name value attributes).lookup other =
    if other = name then some value else attributes.lookup other := by
  induction attributes with
  | nil => rw [setIn, lookup_cons_eq]
  | cons pair rest ih =>
    rw [setIn, lookup_cons_eq]
    split
    next same =>
      rw [lookup_cons_eq, same]
      split <;> rfl
    next differs =>
      rw [lookup_cons_eq, ih]
      split
      next h =>
        have other_name : other ≠ name := fun same => differs (h.symm.trans same)
        rw [if_neg other_name]
      next => rfl

theorem setIn_setIn (old : String) :
    setIn name value (setIn name old attributes) = setIn name value attributes := by
  induction attributes with
  | nil => simp [setIn]
  | cons pair rest ih =>
    obtain ⟨key, former⟩ := pair
    by_cases same : key = name <;> simp [setIn, same, ih]

theorem filter_setIn : (setIn name value attributes).filter (·.1 != name) =
    attributes.filter (·.1 != name) := by
  induction attributes with
  | nil => simp [setIn]
  | cons pair rest ih =>
    obtain ⟨key, old⟩ := pair
    by_cases same : key = name <;> simp [setIn, same, ih]

end

namespace Element

variable (element : Element) (name value : String)

@[simp] theorem localName_setAttribute :
    (element.setAttribute name value).localName = element.localName :=
  rfl

@[simp] theorem childElements_setAttribute :
    (element.setAttribute name value).childElements = element.childElements :=
  rfl

theorem attribute?_setAttribute (other : String) :
    (element.setAttribute name value).attribute? other =
      if other = name then some value else element.attribute? other :=
  lookup_setIn name value element.attributes other

theorem setAttribute_setAttribute (old : String) :
    (element.setAttribute name old).setAttribute name value = element.setAttribute name value := by
  rw [setAttribute, setAttribute, setIn_setIn]
  rfl

theorem preorder_setAttribute : (element.setAttribute name value).preorder =
    element.setAttribute name value :: element.preorder.tail := by
  rw [preorder_eq, preorder_eq element, List.tail_cons, childElements_setAttribute]

theorem filterMap_preorder_setAttribute {β : Type} {f : Element → Option β}
    (same : f (element.setAttribute name value) = f element) :
    (element.setAttribute name value).preorder.filterMap f = element.preorder.filterMap f := by
  rw [preorder_setAttribute, preorder_eq element, List.tail_cons, List.filterMap_cons, same,
    List.filterMap_cons]

structure SameBut (name : String) (element other : Element) : Prop where
  name_eq : element.name = other.name
  children_eq : element.children = other.children
  line_eq : element.line = other.line
  others_eq : element.attributes.filter (·.1 != name) = other.attributes.filter (·.1 != name)

theorem sameBut_setAttribute :
    (element.setAttribute name value).SameBut name element :=
  ⟨rfl, rfl, rfl, filter_setIn name value element.attributes⟩

end Element
end Schematron.Xml
