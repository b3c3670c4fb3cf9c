import Mathlib.Data.List.Basic
import Schematron.Proofs.Text.Split
import Schematron.Resource.Location

/-!
Where references lead. A walk is told from the root: it stays, goes up or goes down, and at the root
it cannot go up.
-/
namespace Schematron.Location

/-- What an entry can be called: neither one of the segments that only move a walk nor two names. -/
structure IsName (segment : Segment) : Prop where
  ne_nil : segment ≠ []
  ne_dot : segment ≠ ['.']
  ne_up : segment ≠ ['.', '.']
  whole : '/' ∉ segment

/-- Every segment of the path is a name, so it leads down from the root all the way. -/
def IsPath (path : String) : Prop :=
  ∀ segment ∈ Text.splitOn '/' path.toList, IsName segment

/-- The walks from a place along some segments, both places told from the root. -/
inductive Walks : List Segment → List Segment → List Segment → Prop
  | nil {place : List Segment} : Walks place [] place
  | stay {place rest goal : List Segment} {segment : Segment} :
      segment = [] ∨ segment = ['.'] → Walks place rest goal → Walks place (segment :: rest) goal
  | up {place rest goal : List Segment} {name : Segment} :
      Walks place rest goal → Walks (place ++ [name]) (['.', '.'] :: rest) goal
  | down {place rest goal : List Segment} {name : Segment} :
      IsName name → Walks (place ++ [name]) rest goal → Walks place (name :: rest) goal

def ClimbsOut (place segments : List Segment) : Prop :=
  ∃ before after, segments = before ++ ['.', '.'] :: after ∧ Walks place before []

def CarriesScheme (text : List Char) : Prop :=
  ∃ scheme rest, text = scheme ++ ':' :: rest ∧ scheme ≠ [] ∧
    ∀ c ∈ scheme, c.isAlphanum = true ∨ c ∈ ['+', '-', '.']

def trimmed (reference : String) : List Char :=
  Text.trim reference.toList

def route (reference : String) : List Segment :=
  Text.splitOn '/' (trimmed reference)

def origin (reference : String) (base : Option String) : List Segment :=
  if (trimmed reference).head? = some '/' then []
  else match base with
    | none => []
    | some path => (Text.splitOn '/' path.toList).dropLast

/-- What keeps a reference from being walked at all. -/
def Barred (reference : String) : Prop :=
  trimmed reference = [] ∨ CarriesScheme (trimmed reference) ∨
    (trimmed reference).head? = some '\\'

/-- The paths that references lead to, the first one at the root and every other one in what the
one before it led to. -/
inductive Reached : Option String → Prop
  | root : Reached none
  | follow {base : Option String} {reference path : String} :
      Reached base → resolve? reference base = some path → Reached (some path)

theorem walks_nil_iff {place goal : List Segment} : Walks place [] goal ↔ place = goal := by
  constructor
  · rintro ⟨⟩
    rfl
  · rintro rfl
    exact .nil

theorem walks_stay_iff {place rest goal : List Segment} {segment : Segment}
    (idle : segment = [] ∨ segment = ['.']) :
    Walks place (segment :: rest) goal ↔ Walks place rest goal := by
  constructor
  · intro h
    cases h with
    | stay _ h => exact h
    | up => simp at idle
    | down name => exact absurd idle (by simp [name.ne_nil, name.ne_dot])
  · exact .stay idle

theorem walks_up_iff {place rest goal : List Segment} :
    Walks place (['.', '.'] :: rest) goal ↔
      ∃ outer name, place = outer ++ [name] ∧ Walks outer rest goal := by
  constructor
  · intro h
    cases h with
    | stay idle => simp at idle
    | up h => exact ⟨_, _, rfl, h⟩
    | down name => exact absurd rfl name.ne_up
  · rintro ⟨outer, name, rfl, h⟩
    exact .up h

theorem walks_name_iff {place rest goal : List Segment} {name : Segment} (h : IsName name) :
    Walks place (name :: rest) goal ↔ Walks (place ++ [name]) rest goal := by
  constructor
  · intro walk
    cases walk with
    | stay idle => exact absurd idle (by simp [h.ne_nil, h.ne_dot])
    | up => exact absurd rfl h.ne_up
    | down _ walk => exact walk
  · exact .down h

theorem not_climbsOut_nil {place : List Segment} : ¬ClimbsOut place [] := by
  simp [ClimbsOut]

theorem climbsOut_cons_iff {place rest : List Segment} {segment : Segment} :
    ClimbsOut place (segment :: rest) ↔ segment = ['.', '.'] ∧ place = [] ∨
      ∃ before after, rest = before ++ ['.', '.'] :: after ∧
        Walks place (segment :: before) [] := by
  constructor
  · rintro ⟨before, after, split, walk⟩
    cases before with
    | nil =>
      obtain ⟨rfl, rfl⟩ := List.cons.inj split
      exact .inl ⟨rfl, walks_nil_iff.1 walk⟩
    | cons first before =>
      obtain ⟨rfl, rfl⟩ := List.cons.inj split
      exact .inr ⟨before, after, rfl, walk⟩
  · rintro (⟨rfl, rfl⟩ | ⟨before, after, rfl, walk⟩)
    · exact ⟨[], rest, rfl, .nil⟩
    · exact ⟨segment :: before, after, rfl, walk⟩

theorem step_stay {place : List Segment} {segment : Segment} (h : segment = [] ∨ segment = ['.']) :
    step place segment = some place := by
  simp [step, h]

theorem step_name {place : List Segment} {name : Segment} (h : IsName name) :
    step place name = some (name :: place) := by
  simp [step, h.ne_nil, h.ne_dot, h.ne_up]

theorem segment_cases {segment : Segment} (whole : '/' ∉ segment) :
    (segment = [] ∨ segment = ['.']) ∨ segment = ['.', '.'] ∨ IsName segment := by
  by_cases idle : segment = [] ∨ segment = ['.']
  · exact .inl idle
  · by_cases up : segment = ['.', '.']
    · exact .inr (.inl up)
    · exact .inr (.inr ⟨fun h => idle (.inl h), fun h => idle (.inr h), up, whole⟩)

/-- The steps end where the walk does. -/
theorem foldlM_step_eq_some_iff {segments place goal : List Segment}
    (whole : ∀ segment ∈ segments, '/' ∉ segment) :
    segments.foldlM step place = some goal ↔ Walks place.reverse segments goal.reverse := by
  induction segments generalizing place with
  | nil => simp [walks_nil_iff]
  | cons segment rest ih =>
    simp only [List.forall_mem_cons] at whole
    rw [List.foldlM_cons]
    rcases segment_cases whole.1 with idle | rfl | name
    · rw [step_stay idle, walks_stay_iff idle]
      exact ih whole.2
    · rw [walks_up_iff]
      cases place with
      | nil => simp [step]
      | cons name place => simpa [step] using ih whole.2
    · rw [step_name name, walks_name_iff name, ← List.reverse_cons]
      exact ih whole.2

/-- The steps fail only where they would leave the root. -/
theorem foldlM_step_eq_none_iff {segments place : List Segment}
    (whole : ∀ segment ∈ segments, '/' ∉ segment) :
    segments.foldlM step place = none ↔ ClimbsOut place.reverse segments := by
  induction segments generalizing place with
  | nil => simp [not_climbsOut_nil]
  | cons segment rest ih =>
    simp only [List.forall_mem_cons] at whole
    rw [List.foldlM_cons, climbsOut_cons_iff]
    rcases segment_cases whole.1 with idle | rfl | name
    · have moves : segment ≠ ['.', '.'] := by rintro rfl; simp at idle
      simp only [step_stay idle, walks_stay_iff idle, moves, false_and, false_or]
      exact ih whole.2
    · simp only [walks_up_iff, true_and]
      cases place with
      | nil => simp [step]
      | cons name place => simpa [step, ClimbsOut] using ih whole.2
    · simp only [step_name name, walks_name_iff name, name.ne_up, false_and, false_or,
        ← List.reverse_cons]
      exact ih whole.2

theorem Walks.names {place segments goal : List Segment} (h : Walks place segments goal)
    (names : ∀ segment ∈ place, IsName segment) : ∀ segment ∈ goal, IsName segment := by
  induction h with
  | nil => exact names
  | stay _ _ ih => exact ih names
  | up _ ih => exact ih fun segment h => names segment (List.mem_append_left _ h)
  | down name _ ih => exact ih (List.forall_mem_append.2 ⟨names, by simpa using name⟩)

theorem IsPath.ne_empty {path : String} (h : IsPath path) : path ≠ "" := by
  rintro rfl
  exact (h [] (by simp [Text.splitOn])).ne_nil rfl

theorem splitOn_pathOf {place : List Segment} (some_name : place ≠ [])
    (names : ∀ segment ∈ place, IsName segment) :
    Text.splitOn '/' (pathOf place) = place.reverse :=
  Text.splitOn_joinWith (by simpa using some_name) fun segment h =>
    (names segment (List.mem_reverse.1 h)).whole

theorem IsPath.segments_eq {path : String} (h : IsPath path) :
    segments path.toList = Text.splitOn '/' path.toList :=
  List.filter_eq_self.2 fun segment member => by simpa using (h segment member).ne_nil

theorem startOf_eq {reference : String} {base : Option String}
    (based : ∀ path ∈ base, IsPath path) :
    (startOf (trimmed reference) (base.map String.toList)).reverse = origin reference base := by
  unfold startOf origin
  split
  · rfl
  · cases base with
    | none => rfl
    | some path => simp [directoryOf, (based path rfl).segments_eq]

theorem names_origin {reference : String} {base : Option String}
    (based : ∀ path ∈ base, IsPath path) : ∀ segment ∈ origin reference base, IsName segment := by
  unfold origin
  split
  · simp
  · cases base with
    | none => simp
    | some path => exact fun segment h => based path rfl segment (List.dropLast_subset _ h)

theorem hasScheme_iff {text : List Char} : hasScheme text = true ↔ CarriesScheme text := by
  unfold hasScheme CarriesScheme
  constructor
  · intro h
    split at h
    next scheme rest found =>
      obtain ⟨split, _⟩ := Text.cutAt?_singleton_iff.1 found
      simp only [Bool.and_eq_true, Bool.not_eq_true', List.isEmpty_eq_false_iff, List.all_eq_true,
        Bool.or_eq_true, beq_iff_eq] at h
      refine ⟨scheme, rest, split, h.1, fun c member => ?_⟩
      simpa [or_assoc] using h.2 c member
    next => simp at h
  · rintro ⟨scheme, rest, rfl, some_char, all⟩
    -- A colon is no character of a scheme, so the scheme ends at the first one.
    have absent : ':' ∉ scheme := fun member => by simpa using all ':' member
    rw [Text.cutAt?_singleton_iff.2 ⟨rfl, absent⟩]
    simp only [Bool.and_eq_true, Bool.not_eq_true', List.isEmpty_eq_false_iff, List.all_eq_true,
      Bool.or_eq_true, beq_iff_eq]
    refine ⟨some_char, fun c member => ?_⟩
    simpa [or_assoc] using all c member

theorem barred_iff {reference : String} :
    Barred reference ↔ (trimmed reference).isEmpty = true ∨ hasScheme (trimmed reference) = true ∨
      (trimmed reference).head? = some '\\' := by
  rw [Barred, hasScheme_iff, List.isEmpty_iff]

theorem resolve?_of_barred {reference : String} {base : Option String}
    (barred : Barred reference) : resolve? reference base = none := by
  rw [resolve?, ← trimmed, resolveTrimmed?, if_pos (barred_iff.1 barred)]
  rfl

theorem resolve?_of_not_barred {reference : String} {base : Option String}
    (free : ¬Barred reference) :
    resolve? reference base =
      (((route reference).foldlM step (startOf (trimmed reference) (base.map String.toList))).filter
        (· ≠ [])).map fun place => String.ofList (pathOf place) := by
  rw [resolve?, ← trimmed, resolveTrimmed?, if_neg fun h => free (barred_iff.2 h), ← route]
  cases List.foldlM step _ _ with
  | none => rfl
  | some place => cases place <;> rfl

theorem whole_route {reference : String} : ∀ segment ∈ route reference, '/' ∉ segment :=
  fun _ => Text.not_mem_of_mem_splitOn

theorem walks_of_resolve? {reference path : String} {base : Option String}
    (named : ∀ segment ∈ startOf (trimmed reference) (base.map String.toList), IsName segment)
    (found : resolve? reference base = some path) :
    ¬Barred reference ∧ IsPath path ∧
      Walks (startOf (trimmed reference) (base.map String.toList)).reverse (route reference)
        (Text.splitOn '/' path.toList) := by
  have free : ¬Barred reference := fun barred => by simp [resolve?_of_barred barred] at found
  rw [resolve?_of_not_barred free, Option.map_eq_some_iff] at found
  obtain ⟨place, ended, rfl⟩ := found
  obtain ⟨ended, some_name⟩ := Option.filter_eq_some_iff.1 ended
  have walk := (foldlM_step_eq_some_iff whole_route).1 ended
  have names := walk.names (by simpa using named)
  have split : Text.splitOn '/' (String.ofList (pathOf place)).toList = place.reverse := by
    rw [String.toList_ofList]
    exact splitOn_pathOf (by simpa using some_name) (by simpa using names)
  exact ⟨free, by rwa [IsPath, split], by rwa [split]⟩

theorem resolve?_eq_some_iff {reference : String} {base : Option String}
    (based : ∀ path ∈ base, IsPath path) {path : String} :
    resolve? reference base = some path ↔ ¬Barred reference ∧ IsPath path ∧
      Walks (origin reference base) (route reference) (Text.splitOn '/' path.toList) := by
  constructor
  · intro found
    rw [← startOf_eq based]
    refine walks_of_resolve? (fun segment member => ?_) found
    exact names_origin based segment (startOf_eq based ▸ List.mem_reverse.2 member)
  · rintro ⟨free, -, walk⟩
    have ended : (route reference).foldlM step
        (startOf (trimmed reference) (base.map String.toList)) =
          some (Text.splitOn '/' path.toList).reverse := by
      rw [foldlM_step_eq_some_iff whole_route, startOf_eq based, List.reverse_reverse]
      exact walk
    rw [resolve?_of_not_barred free, ended, Option.filter_some,
      if_pos (by simpa using Text.splitOn_ne_nil '/' path.toList), Option.map_some, pathOf,
      List.reverse_reverse, Text.joinWith_splitOn, String.ofList_toList]

theorem resolve?_eq_none_iff {reference : String} {base : Option String}
    (based : ∀ path ∈ base, IsPath path) :
    resolve? reference base = none ↔
      Barred reference ∨ ClimbsOut (origin reference base) (route reference) ∨
        Walks (origin reference base) (route reference) [] := by
  by_cases barred : Barred reference
  · simp [resolve?_of_barred barred, barred]
  · have climbs : (route reference).foldlM step
        (startOf (trimmed reference) (base.map String.toList)) = none ↔ _ :=
      foldlM_step_eq_none_iff whole_route
    have ends : (route reference).foldlM step
        (startOf (trimmed reference) (base.map String.toList)) = some [] ↔ _ :=
      foldlM_step_eq_some_iff whole_route
    rw [startOf_eq based] at climbs
    rw [startOf_eq based, List.reverse_nil] at ends
    rw [resolve?_of_not_barred barred, or_iff_right barred, ← climbs, ← ends,
      Option.map_eq_none_iff]
    cases List.foldlM step _ _ with
    | none => simp
    | some place => simp [Option.filter]

/-- The directory of the base is told by names: no segment but the last is one that moves a walk. -/
def Settled (base : Option String) : Prop :=
  ∀ path ∈ base, ∀ segment ∈ (segments path.toList).dropLast,
    segment ≠ ['.'] ∧ segment ≠ ['.', '.']

theorem settled_of_isPath {base : Option String} (based : ∀ path ∈ base, IsPath path) :
    Settled base := by
  intro path given segment member
  rw [(based path given).segments_eq] at member
  have name := based path given segment (List.dropLast_subset _ member)
  exact ⟨name.ne_dot, name.ne_up⟩

theorem Settled.isPath {reference path : String} {base : Option String} (settled : Settled base)
    (found : resolve? reference base = some path) : IsPath path := by
  refine (walks_of_resolve? (fun segment member => ?_) found).2.1
  unfold startOf at member
  split at member
  · simp at member
  · cases base with
    | none => simp at member
    | some base =>
      have inner : segment ∈ (segments base.toList).dropLast := by
        simpa [startOf, directoryOf, List.tail_reverse] using member
      have kept := List.mem_filter.1 (List.dropLast_subset _ inner)
      obtain ⟨ne_dot, ne_up⟩ := settled base rfl segment inner
      exact ⟨by simpa using kept.2, ne_dot, ne_up, Text.not_mem_of_mem_splitOn kept.1⟩

theorem Reached.isPath {base : Option String} (h : Reached base) : ∀ path ∈ base, IsPath path := by
  induction h with
  | root => simp
  | follow _ found ih =>
    rintro _ ⟨⟩
    exact ((resolve?_eq_some_iff ih).1 found).2.1

end Schematron.Location
