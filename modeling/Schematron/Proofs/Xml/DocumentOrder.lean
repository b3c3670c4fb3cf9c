import Schematron.Proofs.Xml.Tree
import Schematron.Xml.Document

/-!
A node has an address, the indices of the children that lead to it. In the order of the addresses a
node comes before what is below it, and siblings come as they are written.
-/
namespace Schematron.Xml

/-- What is met while elements are pending: the last one is next, and its children take its place,
the first of them last. -/
inductive Visits : List Element → List Element → Prop
  | done : Visits [] []
  | step {pending visited : List Element} {element : Element}
      (later : Visits (pending ++ element.childElements.reverse) visited) :
      Visits (pending ++ [element]) (element :: visited)

theorem visits_walk (pending : List Element) : Visits pending.reverse (walk pending) := by
  fun_induction walk pending with
  | case1 => exact .done
  | case2 element pending ih =>
    rw [List.reverse_cons]
    refine .step ?_
    rwa [← List.reverse_append]

/-- Whatever is pending, the walk ends, and it has met what the recursive walks from the pending
elements meet one after the other. -/
theorem visits_iff {pending visited : List Element} :
    Visits pending visited ↔ visited = pending.reverse.flatMap Element.preorder := by
  constructor
  · intro visits
    induction visits with
    | done => rfl
    | step later ih =>
      rw [List.reverse_append, List.reverse_reverse, List.flatMap_append] at ih
      rw [List.reverse_append, List.reverse_singleton, List.singleton_append, List.flatMap_cons,
        Element.preorder_eq, ih, List.cons_append]
  · rintro rfl
    rw [← walk_eq_flatMap]
    simpa using visits_walk pending.reverse

def Node.text? : Node → Option String
  | .text content => some content
  | .element _ | .comment _ => none

theorem Node.element?_element (inner : Element) : (Node.element inner).element? = some inner :=
  rfl

theorem Node.element?_eq_some_iff {node : Node} {inner : Element} :
    node.element? = some inner ↔ node = .element inner := by
  cases node <;> simp [Node.element?]

def Node.at? (node : Node) : List Nat → Option Node
  | [] => some node
  | i :: address => (node.element?.bind (·.children[i]?)).bind (·.at? address)

mutual

def Node.places : Node → List (List Nat × Node)
  | .element inner => ([], .element inner) :: inner.placesBelow
  | .text content => [([], .text content)]
  | .comment content => [([], .comment content)]

def Element.placesBelow : Element → List (List Nat × Node)
  | ⟨_, _, children, _⟩ => placesOfNodes 0 children

def placesOfNodes (i : Nat) : List Node → List (List Nat × Node)
  | [] => []
  | node :: rest =>
    node.places.map (fun place => (i :: place.1, place.2)) ++ placesOfNodes (i + 1) rest

end

theorem Element.placesBelow_eq (element : Element) :
    element.placesBelow = placesOfNodes 0 element.children := by
  cases element
  rfl

/-- These are all nodes of a tree with their addresses, in document order. -/
structure InDocumentOrder (root : Node) (places : List (List Nat × Node)) : Prop where
  rising : (places.map Prod.fst).Pairwise (· < ·)
  mem_iff : ∀ address node, (address, node) ∈ places ↔ root.at? address = some node

theorem mem_placesOfNodes_iff {i : Nat} {nodes : List Node} {address : List Nat} {node : Node} :
    (address, node) ∈ placesOfNodes i nodes ↔
      ∃ j inner rest, address = (i + j) :: rest ∧ nodes[j]? = some inner ∧
        (rest, node) ∈ inner.places := by
  induction nodes generalizing i with
  | nil => simp [placesOfNodes]
  | cons first nodes ih =>
    rw [placesOfNodes, List.mem_append, ih, List.mem_map]
    constructor
    · rintro (⟨⟨rest, _⟩, member, same⟩ | ⟨j, inner, rest, rfl, found, member⟩)
      · cases same
        exact ⟨0, first, rest, rfl, rfl, member⟩
      · exact ⟨j + 1, inner, rest, by rw [Nat.add_assoc, Nat.add_comm 1], found, member⟩
    · rintro ⟨j, inner, rest, rfl, found, member⟩
      cases j with
      | zero =>
        cases found
        exact .inl ⟨(rest, node), member, rfl⟩
      | succ j =>
        exact .inr ⟨j, inner, rest, by rw [Nat.add_assoc, Nat.add_comm 1], found, member⟩

theorem Node.nil_mem_places_iff {root node : Node} : ([], node) ∈ root.places ↔ root = node := by
  cases root with
  | element inner =>
    simp [Node.places, Element.placesBelow_eq, mem_placesOfNodes_iff, eq_comm]
  | text | comment => simp [Node.places, eq_comm]

theorem Node.mem_places_iff {root node : Node} {address : List Nat} :
    (address, node) ∈ root.places ↔ root.at? address = some node := by
  induction address generalizing root with
  | nil => rw [Node.nil_mem_places_iff, Node.at?, Option.some.injEq]
  | cons i address ih =>
    cases root with
    | element inner =>
      have below : (i :: address, node) ∈ (Node.element inner).places ↔
          ∃ child, inner.children[i]? = some child ∧ (address, node) ∈ child.places := by
        simp [Node.places, Element.placesBelow_eq, mem_placesOfNodes_iff, and_assoc]
      simp only [below, ih, Node.at?, Node.element?, Option.bind_some, Option.bind_eq_some_iff]
    | text | comment => simp [Node.places, Node.at?, Node.element?]

theorem exists_index_of_mem {i : Nat} {nodes : List Node} {address : List Nat}
    (h : address ∈ (placesOfNodes i nodes).map Prod.fst) :
    ∃ j rest, address = (i + j) :: rest := by
  obtain ⟨⟨_, node⟩, member, rfl⟩ := List.mem_map.1 h
  obtain ⟨j, _, rest, same, -⟩ := mem_placesOfNodes_iff.1 member
  exact ⟨j, rest, same⟩

mutual

theorem Node.rising_places : ∀ node : Node, (node.places.map Prod.fst).Pairwise (· < ·)
  | .element ⟨_, _, children, _⟩ => by
    rw [Node.places, Element.placesBelow, List.map_cons, List.pairwise_cons]
    refine ⟨fun address member => ?_, rising_placesOfNodes 0 children⟩
    obtain ⟨j, rest, rfl⟩ := exists_index_of_mem member
    exact List.nil_lt_cons _ _
  | .text _ | .comment _ => by simp [Node.places]

theorem rising_placesOfNodes : ∀ (i : Nat) (nodes : List Node),
    ((placesOfNodes i nodes).map Prod.fst).Pairwise (· < ·)
  | _, [] => .nil
  | i, node :: rest => by
    rw [placesOfNodes, List.map_append, List.map_map, List.pairwise_append]
    refine ⟨?_, rising_placesOfNodes (i + 1) rest, fun first member second later => ?_⟩
    · have rising := node.rising_places
      rw [List.pairwise_map] at rising ⊢
      exact rising.imp fun before => List.cons_lt_cons_iff.2 (.inr ⟨rfl, before⟩)
    · obtain ⟨place, -, rfl⟩ := List.mem_map.1 member
      obtain ⟨j, _, rfl⟩ := exists_index_of_mem later
      exact List.cons_lt_cons_iff.2 (.inl (by omega))

end

theorem Node.inDocumentOrder_places (node : Node) : InDocumentOrder node node.places :=
  ⟨node.rising_places, fun _ _ => Node.mem_places_iff⟩

mutual

theorem Node.elements_places : ∀ node : Node,
    node.places.filterMap (·.2.element?) = node.preorder
  | .element ⟨name, attributes, children, line⟩ => by
    simp only [Node.places, Element.placesBelow, List.filterMap_cons, Node.element?_element,
      elements_placesOfNodes 0 children, Node.preorder, Element.preorder]
  | .text _ | .comment _ => rfl

theorem elements_placesOfNodes : ∀ (i : Nat) (nodes : List Node),
    (placesOfNodes i nodes).filterMap (·.2.element?) = preorderNodes nodes
  | _, [] => rfl
  | i, node :: rest => by
    simp only [placesOfNodes, List.filterMap_append, List.filterMap_map, Function.comp_def,
      node.elements_places, elements_placesOfNodes (i + 1) rest, preorderNodes]

end

mutual

theorem Node.texts_places : ∀ node : Node,
    String.join (node.places.filterMap (·.2.text?)) = node.textContent
  | .element ⟨_, _, children, _⟩ => by
    rw [Node.places, Element.placesBelow, List.filterMap_cons_none rfl,
      texts_placesOfNodes 0 children, Node.textContent, Element.text]
  | .text _ | .comment _ => by simp [Node.places, Node.text?, Node.textContent]

theorem texts_placesOfNodes : ∀ (i : Nat) (nodes : List Node),
    String.join ((placesOfNodes i nodes).filterMap (·.2.text?)) = textOfNodes nodes
  | _, [] => rfl
  | i, node :: rest => by
    simp only [placesOfNodes, List.filterMap_append, List.filterMap_map, Function.comp_def,
      String.join_append, node.texts_places, texts_placesOfNodes (i + 1) rest, textOfNodes]

end

namespace InDocumentOrder

variable {root : Node} {places : List (List Nat × Node)} {found : Element}

theorem mem_before_iff {before after : List (List Nat × Node)} {address earlier : List Nat}
    {node other : Node} (order : InDocumentOrder root (before ++ (address, node) :: after)) :
    (earlier, other) ∈ before ↔ earlier < address ∧ root.at? earlier = some other := by
  have rising := order.rising
  rw [List.map_append, List.map_cons, List.pairwise_append, List.pairwise_cons] at rising
  obtain ⟨-, ⟨later, -⟩, sooner⟩ := rising
  rw [← order.mem_iff, List.mem_append, List.mem_cons]
  constructor
  · intro member
    exact ⟨sooner _ (List.mem_map_of_mem member) _ List.mem_cons_self, .inl member⟩
  · rintro ⟨less, member | same | member⟩
    · exact member
    · cases same
      exact absurd less (List.lt_irrefl _)
    · exact absurd (List.lt_trans less (later _ (List.mem_map_of_mem member))) (List.lt_irrefl _)

theorem find?_eq_some_iff {p : Element → Bool} (order : InDocumentOrder root places) :
    (places.filterMap (·.2.element?)).find? p = some found ↔
      ∃ address, root.at? address = some (.element found) ∧ p found = true ∧
        ∀ earlier other, earlier < address → root.at? earlier = some (.element other) →
          p other = false := by
  rw [List.find?_eq_some_iff_append]
  constructor
  · rintro ⟨property, first, last, listed, lacks⟩
    obtain ⟨front, rest, rfl, rfl, remaining⟩ := List.filterMap_eq_append_iff.1 listed
    obtain ⟨between, ⟨address, node⟩, after, rfl, plain, same, -⟩ :=
      List.filterMap_eq_cons_iff.1 remaining
    rw [Node.element?_eq_some_iff] at same
    dsimp only at same
    subst same
    rw [← List.append_assoc] at order
    refine ⟨address, (order.mem_iff _ _).1 (by simp), property, fun earlier other less leads => ?_⟩
    rcases List.mem_append.1 (order.mem_before_iff.2 ⟨less, leads⟩) with member | member
    · simpa using lacks other (List.mem_filterMap.2 ⟨_, member, rfl⟩)
    · exact absurd (plain _ member) (by simp [Node.element?])
  · rintro ⟨address, leads, property, lacks⟩
    obtain ⟨before, after, rfl⟩ := List.append_of_mem ((order.mem_iff _ _).2 leads)
    refine ⟨property, before.filterMap (·.2.element?), after.filterMap (·.2.element?),
      by simp [Node.element?], fun other member => ?_⟩
    obtain ⟨⟨earlier, node⟩, member, same⟩ := List.mem_filterMap.1 member
    obtain rfl := Node.element?_eq_some_iff.1 same
    obtain ⟨less, leads⟩ := order.mem_before_iff.1 member
    rw [lacks earlier other less leads]
    rfl

theorem find?_eq_none_iff {p : Element → Bool} (order : InDocumentOrder root places) :
    (places.filterMap (·.2.element?)).find? p = none ↔
      ∀ address other, root.at? address = some (.element other) → p other = false := by
  rw [List.find?_eq_none]
  constructor
  · intro lacks address other leads
    simpa using lacks other (List.mem_filterMap.2 ⟨_, (order.mem_iff _ _).2 leads, rfl⟩)
  · intro lacks other member
    obtain ⟨⟨address, node⟩, member, same⟩ := List.mem_filterMap.1 member
    obtain rfl := Node.element?_eq_some_iff.1 same
    simpa using lacks address other ((order.mem_iff _ _).1 member)

end InDocumentOrder

mutual

def Element.withoutComments : Element → Element
  | ⟨name, attributes, children, line⟩ => ⟨name, attributes, withoutCommentsNodes children, line⟩

def withoutCommentsNodes : List Node → List Node
  | [] => []
  | .element inner :: rest => .element inner.withoutComments :: withoutCommentsNodes rest
  | .text content :: rest => .text content :: withoutCommentsNodes rest
  | .comment _ :: rest => withoutCommentsNodes rest

end

mutual

theorem Element.text_withoutComments : ∀ element : Element,
    element.withoutComments.text = element.text
  | ⟨_, _, children, _⟩ => by
    rw [Element.withoutComments, Element.text, Element.text, textOfNodes_withoutComments children]

theorem textOfNodes_withoutComments : ∀ nodes : List Node,
    textOfNodes (withoutCommentsNodes nodes) = textOfNodes nodes
  | [] => rfl
  | .element inner :: rest => by
    simp only [withoutCommentsNodes, textOfNodes, Node.textContent, inner.text_withoutComments,
      textOfNodes_withoutComments rest]
  | .text _ :: rest => by
    simp only [withoutCommentsNodes, textOfNodes, textOfNodes_withoutComments rest]
  | .comment _ :: rest => by
    simp only [withoutCommentsNodes, textOfNodes, Node.textContent, String.empty_append,
      textOfNodes_withoutComments rest]

end

/-- The walk from an element ends, and what it meets are the elements of the tree in document order,
as the recursive walk lists them. A search in a document finds the element of the name with the
least address, and nothing exactly if no element has the name. The text of the element is that of
all its texts in document order, and comments do not change it. -/
theorem descendants_in_order (element : Element) :
    (∀ visited, Visits [element] visited ↔ visited = element.descendants) ∧
    element.descendants = element.preorder ∧
    (∃ places, InDocumentOrder (.element element) places ∧
      element.descendants = places.filterMap (·.2.element?) ∧
      element.text = String.join (places.filterMap (·.2.text?))) ∧
    (∀ base name found, Document.findFirst? ⟨base, element⟩ name = some found ↔
      ∃ address, (Node.element element).at? address = some (.element found) ∧
        found.localName = name ∧
        ∀ earlier other, earlier < address →
          (Node.element element).at? earlier = some (.element other) → other.localName ≠ name) ∧
    (∀ base name, Document.findFirst? ⟨base, element⟩ name = none ↔
      ∀ address other, (Node.element element).at? address = some (.element other) →
        other.localName ≠ name) ∧
    element.withoutComments.text = element.text := by
  have order := (Node.element element).inDocumentOrder_places
  have listed : element.descendants =
      (Node.element element).places.filterMap (·.2.element?) := by
    rw [Node.elements_places, Element.descendants_eq, Node.preorder]
  refine ⟨fun visited => ?_, element.descendants_eq, ⟨_, order, listed, ?_⟩,
    fun base name found => ?_, fun base name => ?_, element.text_withoutComments⟩
  · rw [visits_iff, Element.descendants_eq, List.reverse_singleton, List.flatMap_singleton]
  · rw [Node.texts_places, Node.textContent]
  · rw [Document.findFirst?, Element.findFirst?, listed, order.find?_eq_some_iff]
    simp
  · rw [Document.findFirst?, Element.findFirst?, listed, order.find?_eq_none_iff]
    simp

end Schematron.Xml
