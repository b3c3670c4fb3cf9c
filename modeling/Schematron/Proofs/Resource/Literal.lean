import Schematron.Proofs.Resource.Lookup

/-!
A path that was led to is a reference too, but not always to itself: blanks at its ends are trimmed,
and what comes first in it may look like a scheme.
-/
namespace Schematron

namespace Text

theorem trimEnd_sublist (text : List Char) : (trimEnd text).Sublist text := by
  have shorter := (List.dropWhile_sublist (l := text.reverse) isBlank).reverse
  rwa [List.reverse_reverse] at shorter

theorem trim_sublist (text : List Char) : (trim text).Sublist text :=
  (trimEnd_sublist _).trans (List.dropWhile_sublist _)

theorem dropWhile_eq_self_iff {p : Char → Bool} {text : List Char} :
    text.dropWhile p = text ↔ ∀ c ∈ text.head?, p c = false := by
  constructor
  · intro same c first
    have stop := List.head?_dropWhile_not p text
    rw [same, Option.mem_def.1 first] at stop
    simpa using stop
  · intro stop
    exact (span_iff.2 ⟨(List.nil_append text).symm, by simp, stop⟩).2

theorem trim_eq_self_iff {text : List Char} :
    trim text = text ↔
      (∀ c ∈ text.head?, isBlank c = false) ∧ ∀ c ∈ text.getLast?, isBlank c = false := by
  have start : trimStart text = text ↔ ∀ c ∈ text.head?, isBlank c = false :=
    dropWhile_eq_self_iff
  have back : trimEnd text = text ↔ ∀ c ∈ text.getLast?, isBlank c = false := by
    rw [trimEnd, List.reverse_eq_iff, dropWhile_eq_self_iff, List.head?_reverse]
  rw [← start, ← back]
  constructor
  · intro same
    have long := (trimEnd_sublist (trimStart text)).length_le
    rw [← trim, same] at long
    have kept : trimStart text = text := (List.dropWhile_sublist _).eq_of_length_le long
    exact ⟨kept, by rwa [trim, kept] at same⟩
  · rintro ⟨kept, kept'⟩
    rw [trim, kept, kept']

end Text

namespace Location

def extent : List Segment → Nat
  | [] => 0
  | segment :: rest => segment.length + 1 + extent rest

@[simp] theorem extent_nil : extent [] = 0 := rfl

@[simp] theorem extent_cons (segment : Segment) (rest : List Segment) :
    extent (segment :: rest) = segment.length + 1 + extent rest := rfl

@[simp] theorem extent_append (first second : List Segment) :
    extent (first ++ second) = extent first + extent second := by
  induction first with
  | nil => simp
  | cons segment rest ih => simp [ih, Nat.add_assoc]

theorem extent_splitOn (text : List Char) : extent (Text.splitOn '/' text) = text.length + 1 := by
  induction text with
  | nil => rfl
  | cons c rest ih =>
    simp only [Text.splitOn]
    split
    · simp [ih]
      omega
    · cases pieces : Text.splitOn '/' rest with
      | nil => exact absurd pieces (Text.splitOn_ne_nil '/' rest)
      | cons piece pieces' =>
        rw [pieces] at ih
        simp only [extent_cons, List.length_cons] at ih ⊢
        omega

theorem Walks.extent_le {place segments goal : List Segment} (h : Walks place segments goal) :
    extent goal ≤ extent place + extent segments := by
  induction h with
  | nil => simp
  | stay _ _ ih =>
    rw [extent_cons]
    omega
  | up _ ih =>
    simp only [extent_append, extent_cons]
    omega
  | down _ _ ih =>
    simp only [extent_append, extent_cons, extent_nil] at ih ⊢
    omega

theorem walks_names {place segments : List Segment} (names : ∀ segment ∈ segments, IsName segment) :
    Walks place segments (place ++ segments) := by
  induction segments generalizing place with
  | nil => simpa using Walks.nil
  | cons name rest ih =>
    rw [List.forall_mem_cons] at names
    have further : Walks (place ++ [name]) rest (place ++ [name] ++ rest) := ih names.2
    rw [List.append_assoc, List.singleton_append] at further
    exact .down names.1 further

/-- Read as a reference, the text is taken as it stands and from the root. -/
structure Literal (path : String) : Prop where
  first : ∀ c ∈ path.toList.head?, Text.isBlank c = false ∧ c ≠ '\\'
  last : ∀ c ∈ path.toList.getLast?, Text.isBlank c = false
  schemeless : ¬CarriesScheme path.toList

theorem literal_iff {path : String} (some_char : path ≠ "") :
    Literal path ↔ trimmed path = path.toList ∧ ¬Barred path := by
  have some_char' : path.toList ≠ [] := fun none => some_char (String.toList_eq_nil_iff.1 none)
  rw [trimmed, Text.trim_eq_self_iff, Barred]
  constructor
  · rintro ⟨first, last, schemeless⟩
    have same : trimmed path = path.toList :=
      Text.trim_eq_self_iff.2 ⟨fun c h => (first c h).1, last⟩
    rw [same]
    refine ⟨⟨fun c h => (first c h).1, last⟩, ?_⟩
    rintro (none | scheme | share)
    · exact some_char' none
    · exact schemeless scheme
    · exact (first _ share).2 rfl
  · rintro ⟨ends, free⟩
    have same : trimmed path = path.toList := Text.trim_eq_self_iff.2 ends
    rw [same] at free
    refine ⟨fun c h => ⟨ends.1 c h, ?_⟩, ends.2, fun scheme => free (.inr (.inl scheme))⟩
    rintro rfl
    exact free (.inr (.inr h))

theorem origin_none (reference : String) : origin reference none = [] := by
  unfold origin
  split <;> rfl

theorem resolve?_self_iff {path : String} :
    resolve? path none = some path ↔ IsPath path ∧ Literal path := by
  rw [resolve?_eq_some_iff (by simp), origin_none]
  constructor
  · rintro ⟨free, named, walk⟩
    -- What is left of the path after trimming leads to all of it, so nothing was trimmed.
    have long := walk.extent_le
    rw [route, extent_nil, extent_splitOn, extent_splitOn] at long
    have same : trimmed path = path.toList :=
      (Text.trim_sublist _).eq_of_length_le (by rw [← trimmed]; omega)
    exact ⟨named, (literal_iff named.ne_empty).2 ⟨same, free⟩⟩
  · rintro ⟨named, literal⟩
    obtain ⟨same, free⟩ := (literal_iff named.ne_empty).1 literal
    have walk : Walks [] (Text.splitOn '/' path.toList) (Text.splitOn '/' path.toList) :=
      walks_names named
    exact ⟨free, named, by rwa [route, same]⟩

/-- What a reference leads to leads to itself exactly if it has names only, which it has if the base
is settled, and is literal; and exactly then what was found in a store is found again under its
system id, which the store then contains. -/
theorem leads_to_itself_iff {reference path : String} {base : Option String}
    (led : resolve? reference base = some path) :
    (resolve? path none = some path ↔ IsPath path ∧ Literal path) ∧
      (Settled base → IsPath path) ∧
      ∀ (store : Store) (resource : Resource), store.resolve reference base = .ok resource →
        resource.systemId = path ∧
        (store.resolve path none = .ok resource ↔ IsPath path ∧ Literal path) ∧
        (IsPath path ∧ Literal path → store.contains path = true) := by
  refine ⟨resolve?_self_iff, fun settled => settled.isPath led, fun store resource found => ?_⟩
  rw [Store.resolve_eq, Lookup.ofContents_eq_ok_iff] at found
  obtain ⟨path', content, led', stored, rfl⟩ := found
  obtain rfl : path = path' := Option.some.inj (led.symm.trans led')
  refine ⟨rfl, ?_, fun literal => ?_⟩
  · rw [Store.resolve_eq, Lookup.ofContents_eq_ok_iff, ← resolve?_self_iff]
    constructor
    · rintro ⟨path', content', again, -, same⟩
      obtain rfl : path = path' := congrArg Resource.systemId same
      exact again
    · exact fun again => ⟨path, content, again, stored, rfl⟩
  · simp [Store.contains, resolve?_self_iff.2 literal, stored]

theorem leads_to_itself_dotted :
    resolve? " ../x/./a b:c..d " (some "lib/main.xsl") = some "x/a b:c..d" ∧
      IsPath "x/a b:c..d" ∧ Literal "x/a b:c..d" ∧
      (Store.mk [("x/a b:c..d", [7])]).resolve "x/a b:c..d" none =
        .ok ⟨"x/a b:c..d", .whole [7]⟩ := by
  have led : resolve? " ../x/./a b:c..d " (some "lib/main.xsl") = some "x/a b:c..d" := rfl
  have again : resolve? "x/a b:c..d" none = some "x/a b:c..d" := rfl
  obtain ⟨itself, -, finds⟩ := leads_to_itself_iff led
  obtain ⟨named, literal⟩ := itself.1 again
  have found : (Store.mk [("x/a b:c..d", [7])]).resolve " ../x/./a b:c..d " (some "lib/main.xsl") =
      .ok ⟨"x/a b:c..d", .whole [7]⟩ := rfl
  exact ⟨led, named, literal, (finds _ _ found).2.1.2 ⟨named, literal⟩⟩

theorem not_leads_to_itself :
    ¬∀ (reference path : String) (base : Option String),
      (base = none ∨ ∃ reference' base', resolve? reference' base' = base) →
      resolve? reference base = some path → resolve? path none = some path := by
  intro all
  have again := all "./a:b" "a:b" none (.inl rfl) rfl
  have refused : resolve? "a:b" none = none := rfl
  rw [refused] at again
  contradiction

end Location
end Schematron
