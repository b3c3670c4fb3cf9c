import Schematron.Proofs.Xml.Event
import Schematron.Xml.Print

namespace Schematron.Xml

def textNodes (content : String) : List Node :=
  if content = "" then [] else [.text content]

mutual

def Element.normal : Element → Element
  | ⟨name, attributes, children, _⟩ => ⟨name, attributes, normalFrom "" children, none⟩

/-- The normal form of nodes that follow a pending text. -/
def normalFrom (pending : String) : List Node → List Node
  | [] => textNodes pending
  | .text content :: rest => normalFrom (pending ++ content) rest
  | .comment content :: rest => textNodes pending ++ .comment content :: normalFrom "" rest
  | .element inner :: rest => textNodes pending ++ .element inner.normal :: normalFrom "" rest

end

theorem soundMarkup_textNodes (content : String) :
    ∀ event ∈ eventsOfNodes (textNodes content), event.SoundMarkup := by
  unfold textNodes
  split <;> simp [eventsOfNodes, Node.events, Event.SoundMarkup]

mutual

theorem Element.soundMarkup_normal : ∀ element : Element,
    (∀ event ∈ element.normal.events, event.SoundMarkup) ↔
      ∀ event ∈ element.events, event.SoundMarkup
  | ⟨name, attributes, children, line⟩ => by
    simpa [Element.normal, Element.events, or_imp, forall_and, Event.SoundMarkup] using
      fun _ _ _ => soundMarkup_normalFrom "" children

theorem soundMarkup_normalFrom : ∀ (pending : String) (nodes : List Node),
    (∀ event ∈ eventsOfNodes (normalFrom pending nodes), event.SoundMarkup) ↔
      ∀ event ∈ eventsOfNodes nodes, event.SoundMarkup
  | pending, [] => by
    simpa [normalFrom, eventsOfNodes] using soundMarkup_textNodes pending
  | pending, .text content :: rest => by
    simpa [normalFrom, eventsOfNodes, Node.events, Event.SoundMarkup] using
      soundMarkup_normalFrom (pending ++ content) rest
  | pending, .comment content :: rest => by
    have ih := soundMarkup_normalFrom "" rest
    have texts := eq_true (soundMarkup_textNodes pending)
    simp [normalFrom, eventsOfNodes, Node.events, or_imp, forall_and, ih, texts]
  | pending, .element inner :: rest => by
    have ih := soundMarkup_normalFrom "" rest
    have texts := eq_true (soundMarkup_textNodes pending)
    have same := inner.soundMarkup_normal
    simp [normalFrom, eventsOfNodes, Node.events, or_imp, forall_and, ih, texts, same]

end

/-- An element with children that are all empty texts: it is written with two tags and nothing
between them. -/
def Element.Hollow (element : Element) : Prop :=
  element.children ≠ [] ∧ ∀ node ∈ element.children, node = .text ""

instance (element : Element) : Decidable element.Hollow :=
  inferInstanceAs <| Decidable <|
    element.children ≠ [] ∧ ∀ node ∈ element.children, node = .text ""

@[simp] theorem escape_append (first second : List Char) :
    escape (first ++ second) = escape first ++ escape second :=
  List.flatMap_append

theorem printNodes_textNodes (content : String) :
    printNodes (textNodes content) = escape content.toList := by
  unfold textNodes
  split
  next h => simp [h, printNodes, escape]
  · simp [printNodes, Node.print]

theorem printNodes_append (first second : List Node) :
    printNodes (first ++ second) = printNodes first ++ printNodes second := by
  induction first with
  | nil => simp [printNodes]
  | cons node rest ih => simp [printNodes, ih]

theorem normalFrom_eq_nil_iff {pending : String} {nodes : List Node} :
    normalFrom pending nodes = [] ↔ pending = "" ∧ ∀ node ∈ nodes, node = .text "" := by
  induction nodes generalizing pending with
  | nil => simp [normalFrom, textNodes]
  | cons node rest ih => cases node <;> simp [normalFrom, ih, and_assoc]

theorem Element.print_of_children {element : Element} (h : element.children ≠ []) :
    element.print =
      '<' :: element.name.toList ++ element.attributes.flatMap printAttribute ++
        '>' :: printNodes element.children ++ '<' :: '/' :: element.name.toList ++ ['>'] := by
  obtain ⟨name, attributes, children, line⟩ := element
  cases children with
  | nil => exact absurd rfl h
  | cons node rest => simp [Element.print, printNodes]

theorem Element.print_of_no_children {element : Element} (h : element.children = []) :
    element.print =
      '<' :: element.name.toList ++ element.attributes.flatMap printAttribute ++ ['/', '>'] := by
  obtain ⟨name, attributes, children, line⟩ := element
  cases h
  simp [Element.print]

@[simp] theorem Element.name_normal (element : Element) : element.normal.name = element.name := by
  cases element
  rfl

@[simp] theorem Element.attributes_normal (element : Element) :
    element.normal.attributes = element.attributes := by
  cases element
  rfl

@[simp] theorem Element.children_normal (element : Element) :
    element.normal.children = normalFrom "" element.children := by
  cases element
  rfl

theorem Element.hollow_iff {element : Element} :
    element.Hollow ↔ element.children ≠ [] ∧ element.normal.children = [] := by
  simp [Element.Hollow, normalFrom_eq_nil_iff]

mutual

theorem Element.print_normal : ∀ {element : Element},
    (∀ inner ∈ element.preorder, ¬inner.Hollow) → element.normal.print = element.print
  | ⟨name, attributes, children, line⟩, filled => by
    have whole : ¬(Element.mk name attributes children line).Hollow :=
      filled _ (by simp [Element.preorder])
    have inside : ∀ inner ∈ preorderNodes children, ¬inner.Hollow :=
      fun inner h => filled inner (by simp [Element.preorder, h])
    have content := printNodes_normalFrom "" inside
    cases children with
    | nil => rfl
    | cons node rest =>
      have kept : normalFrom "" (node :: rest) ≠ [] := by
        simpa [Element.hollow_iff] using whole
      rw [Element.print_of_children (by simpa using kept), Element.print_of_children (by simp)]
      simp [content, escape]

theorem printNodes_normalFrom : ∀ (pending : String) {nodes : List Node},
    (∀ inner ∈ preorderNodes nodes, ¬inner.Hollow) →
      printNodes (normalFrom pending nodes) = escape pending.toList ++ printNodes nodes
  | pending, [], _ => by simp [normalFrom, printNodes, printNodes_textNodes]
  | pending, .text content :: rest, filled => by
    have ih := printNodes_normalFrom (pending ++ content)
      (by simpa [preorderNodes, Node.preorder] using filled)
    simp [normalFrom, printNodes, Node.print, ih]
  | pending, .comment content :: rest, filled => by
    have ih := printNodes_normalFrom ""
      (by simpa [preorderNodes, Node.preorder] using filled)
    simp [normalFrom, printNodes, printNodes_append, printNodes_textNodes, ih, escape]
  | pending, .element inner :: rest, filled => by
    simp only [preorderNodes, Node.preorder, List.mem_append, or_imp, forall_and] at filled
    have ih := printNodes_normalFrom "" filled.2
    have same := Element.print_normal filled.1
    simp [normalFrom, printNodes, printNodes_append, printNodes_textNodes, Node.print, ih, same,
      escape]

end

mutual

theorem Element.length_print_normal : ∀ element : Element,
    element.normal.print.length ≤ element.print.length ∧
      (element.normal.print.length = element.print.length →
        ∀ inner ∈ element.preorder, ¬inner.Hollow)
  | ⟨name, attributes, children, line⟩ => by
    have ih := length_printNodes_normalFrom "" children
    simp only [String.toList_empty, escape, List.flatMap_nil, List.length_nil, Nat.zero_add] at ih
    by_cases hollow : (Element.mk name attributes children line).Hollow
    · obtain ⟨some, none⟩ := Element.hollow_iff.1 hollow
      rw [Element.print_of_no_children none, Element.print_of_children some]
      simp only [Element.name_normal, Element.attributes_normal, List.length_append,
        List.length_cons, List.length_nil]
      constructor <;> omega
    · cases children with
      | nil => simp [Element.normal, normalFrom, textNodes, Element.print, Element.preorder,
          preorderNodes, hollow]
      | cons node rest =>
        have kept : normalFrom "" (node :: rest) ≠ [] := by
          simpa [Element.hollow_iff] using hollow
        rw [Element.print_of_children (by simpa using kept), Element.print_of_children (by simp)]
        simp only [Element.name_normal, Element.attributes_normal, Element.children_normal,
          List.length_append, List.length_cons, List.length_nil]
        refine ⟨by omega, fun same => ?_⟩
        have inside := ih.2 (by omega)
        simpa [Element.preorder, hollow] using inside

theorem length_printNodes_normalFrom : ∀ (pending : String) (nodes : List Node),
    (printNodes (normalFrom pending nodes)).length ≤
        (escape pending.toList).length + (printNodes nodes).length ∧
      ((printNodes (normalFrom pending nodes)).length =
          (escape pending.toList).length + (printNodes nodes).length →
        ∀ inner ∈ preorderNodes nodes, ¬inner.Hollow)
  | pending, [] => by simp [normalFrom, printNodes, printNodes_textNodes, preorderNodes]
  | pending, .text content :: rest => by
    have ih := length_printNodes_normalFrom (pending ++ content) rest
    simp only [String.toList_append, escape_append, List.length_append] at ih
    simp only [normalFrom, printNodes, Node.print, List.length_append, preorderNodes,
      Node.preorder, List.nil_append]
    exact ⟨by omega, fun same => ih.2 (by omega)⟩
  | pending, .comment content :: rest => by
    have ih := length_printNodes_normalFrom "" rest
    simp only [String.toList_empty, escape, List.flatMap_nil, List.length_nil, Nat.zero_add] at ih
    simp only [normalFrom, printNodes, printNodes_append, printNodes_textNodes,
      List.length_append, preorderNodes, Node.preorder, List.nil_append]
    exact ⟨by omega, fun same => ih.2 (by omega)⟩
  | pending, .element inner :: rest => by
    have ih := length_printNodes_normalFrom "" rest
    have first := inner.length_print_normal
    simp only [String.toList_empty, escape, List.flatMap_nil, List.length_nil, Nat.zero_add] at ih
    simp only [normalFrom, printNodes, printNodes_append, printNodes_textNodes, Node.print,
      List.length_append, preorderNodes, Node.preorder, List.mem_append]
    refine ⟨by omega, fun same below h => ?_⟩
    rcases h with h | h
    · exact first.2 (by omega) below h
    · exact ih.2 (by omega) below h

end

theorem Element.print_normal_eq_iff {element : Element} :
    element.normal.print = element.print ↔ ∀ inner ∈ element.preorder, ¬inner.Hollow :=
  ⟨fun h => element.length_print_normal.2 (congrArg List.length h), Element.print_normal⟩

end Schematron.Xml
