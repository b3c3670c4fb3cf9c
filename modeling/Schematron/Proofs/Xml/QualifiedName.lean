import Schematron.Proofs.Outcome
import Schematron.Proofs.Text.Split
import Schematron.Xml.Document

namespace Schematron.Xml.Element

/-- There is no prefix and the local name is the whole name, or the name is the prefix, a colon and
the local name. -/
def Recombines (element : Element) : Prop :=
  element.prefixName? = none ∧ element.localName = element.name ∨
  ∃ front, element.prefixName? = some front ∧ element.name = front ++ ":" ++ element.localName

variable {element : Element} {front rest : List Char}

theorem prefixName?_eq_none_iff : element.prefixName? = none ↔ ':' ∉ element.name.toList := by
  simp [prefixName?]

theorem takeWhile_of_no_colon (free : ':' ∉ front) (stop : ∀ c ∈ rest.head?, c = ':') :
    (front ++ rest).takeWhile (· != ':') = front := by
  refine (Text.span_iff.2 ⟨rfl, fun c member => ?_, fun c first => ?_⟩).1
  · rw [bne_iff_ne]
    rintro rfl
    exact free member
  · simp [stop c first]

theorem prefixName?_of_first (split : element.name.toList = front ++ ':' :: rest)
    (first : ':' ∉ front) : element.prefixName? = some (String.ofList front) := by
  have colon : ':' ∈ element.name.toList := by simp [split]
  rw [prefixName?, if_pos colon, split, takeWhile_of_no_colon first (by simp)]

theorem localName_of_last (split : element.name.toList = front ++ rest) (last : ':' ∉ rest)
    (stop : ∀ c ∈ front.getLast?, c = ':') : element.localName = String.ofList rest := by
  rw [localName, split, List.reverse_append, takeWhile_of_no_colon (by simpa using last)
    (by simpa using stop), List.reverse_reverse]

theorem localName_of_no_colon (h : ':' ∉ element.name.toList) :
    element.localName = element.name := by
  rw [localName_of_last (List.nil_append _).symm h (by simp), String.ofList_toList]

theorem exists_parts (colon : ':' ∈ element.name.toList) :
    ∃ front between, element.prefixName? = some front ∧
      element.name.toList = front.toList ++ between ++ element.localName.toList ∧
      ':' ∉ front.toList ∧ ':' ∉ element.localName.toList ∧
      (between = [':'] ∨ ∃ middle, between = ':' :: middle ++ [':']) := by
  obtain ⟨front, rest, split, first⟩ := List.eq_append_cons_of_mem colon
  refine ⟨String.ofList front, ?_⟩
  rw [prefixName?_of_first split first]
  by_cases more : ':' ∈ rest.reverse
  · obtain ⟨last, middle, split', absent⟩ := List.eq_append_cons_of_mem more
    have again : element.name.toList =
        front ++ (':' :: middle.reverse ++ [':']) ++ last.reverse := by
      rw [split, List.reverse_eq_iff.1 split']
      simp
    have stop : ∀ c ∈ (front ++ (':' :: middle.reverse ++ [':'])).getLast?, c = ':' := by
      rw [← List.append_assoc, List.getLast?_concat]
      simp
    have named := localName_of_last again (by simpa using absent) stop
    refine ⟨':' :: middle.reverse ++ [':'], rfl, ?_, by simpa using first, ?_, .inr ⟨_, rfl⟩⟩
    · rw [again, named]
      simp
    · simpa [named] using absent
  · rw [List.mem_reverse] at more
    rw [List.append_cons] at split
    have named := localName_of_last split more (by simp)
    refine ⟨[':'], rfl, ?_, by simpa using first, ?_, .inl rfl⟩
    · rw [split, named]
      simp
    · simpa [named] using more

theorem recombines_iff_count_le : element.Recombines ↔ element.name.toList.count ':' ≤ 1 := by
  by_cases colon : ':' ∈ element.name.toList
  · obtain ⟨front, between, found, split, first, last, ends⟩ := exists_parts colon
    have count : element.name.toList.count ':' = between.count ':' := by
      rw [split, List.count_append, List.count_append, List.count_eq_zero.2 first,
        List.count_eq_zero.2 last]
      omega
    rw [count]
    constructor
    · rintro (⟨absent, -⟩ | ⟨front', found', joined⟩)
      · exact absurd colon (prefixName?_eq_none_iff.1 absent)
      · obtain rfl : front = front' := Option.some.inj (found.symm.trans found')
        rw [joined, String.toList_append, String.toList_append] at split
        rw [← List.append_cancel_left (List.append_cancel_right split)]
        decide
    · intro few
      obtain rfl | ⟨middle, rfl⟩ := ends
      · refine .inr ⟨front, found, String.toList_inj.1 ?_⟩
        rw [split, String.toList_append, String.toList_append]
        rfl
      · simp at few
  · have few : element.name.toList.count ':' ≤ 1 := by simp [List.count_eq_zero.2 colon]
    exact iff_of_true (.inl ⟨prefixName?_eq_none_iff.2 colon, localName_of_no_colon colon⟩) few

/-- For every element: a name without a colon is its own local name and has no prefix. In a name
with colons neither the prefix nor the local name has one, and what stands between them begins with
the first colon and ends with the last. So they make up the name exactly if that is one colon. -/
theorem recombines_iff (element : Element) :
    (':' ∉ element.name.toList → element.prefixName? = none ∧ element.localName = element.name) ∧
    (':' ∈ element.name.toList →
      ∃ front between, element.prefixName? = some front ∧
        element.name.toList = front.toList ++ between ++ element.localName.toList ∧
        ':' ∉ front.toList ∧ ':' ∉ element.localName.toList ∧
        (between = [':'] ∨ ∃ middle, between = ':' :: middle ++ [':'])) ∧
    (element.Recombines ↔ element.name.toList.count ':' ≤ 1) :=
  ⟨fun absent => ⟨prefixName?_eq_none_iff.2 absent, localName_of_no_colon absent⟩, exists_parts,
    recombines_iff_count_le⟩

theorem not_recombines_of_parse :
    ∃ document, Document.parse "<a:b:c/>" false = .ok document ∧
      ∃ element ∈ document.root.descendants, ¬element.Recombines := by
  have read : Document.parse "<a:b:c/>" false = .ok (.ofRoot (named "a:b:c")) := by
    decide +kernel
  refine ⟨_, read, named "a:b:c", by simp [descendants, walk, Document.ofRoot], ?_⟩
  rw [recombines_iff_count_le]
  decide

end Schematron.Xml.Element
