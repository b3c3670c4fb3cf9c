import Schematron.Json.Configuration
import Schematron.Proofs.Json.Value

namespace Schematron.Json

/-- A member of an object: its key as it reads, its value as it is written. -/
structure Member where
  key : String
  value : List Char

inductive MemberText : Member → List Char → Prop
  | spelled {body key after before value : List Char} : Means body key → Blank after →
      Blank before → Value value → MemberText ⟨String.ofList key, value⟩
        ('"' :: (body ++ '"' :: (after ++ ':' :: (before ++ value))))

def Separator (first : Bool) (text : List Char) : Prop :=
  if first then Blank text
  else ∃ before after, Blank before ∧ Blank after ∧ text = before ++ ',' :: after

inductive MembersText : Bool → List Member → List Char → Prop
  | nil {first : Bool} {blanks : List Char} : Blank blanks → MembersText first [] blanks
  | cons {first : Bool} {member : Member} {members : List Member}
      {separator text more : List Char} : Separator first separator → MemberText member text →
      MembersText false members more →
      MembersText first (member :: members) (separator ++ (text ++ more))

def ObjectText (members : List Member) (text : List Char) : Prop :=
  ∃ inside, MembersText true members inside ∧ text = '\x7b' :: (inside ++ ['\x7d'])

inductive ShortListText : List (List Char) → List Char → Prop
  | empty {blanks : List Char} : Blank blanks → ShortListText [] ('[' :: (blanks ++ [']']))
  | single {before value after : List Char} : Blank before → Value value → Blank after →
      ShortListText [value] ('[' :: (before ++ (value ++ (after ++ [']']))))

variable {first : Bool} {member : Member} {members : List Member}
  {text rest before after : List Char}

theorem StringForm.of_escapes {spelled : List Char} {c : Char} (escapes : Escapes spelled c)
    (form : StringForm rest) : StringForm ('\\' :: (spelled ++ rest)) := by
  cases escapes with
  | short short => exact .escape (.short short) form
  | unit hex => exact .escape (.unit hex) form
  | pair hex hex' =>
    have low := StringForm.escape (.unit hex') form
    simpa using StringForm.escape (.unit hex) low

theorem Means.form {body content : List Char} (means : Means body content) : StringForm body := by
  induction means with
  | nil => exact .nil
  | plain quote backslash printed _ ih => exact .plain quote backslash printed ih
  | escape escapes _ ih => exact .of_escapes escapes ih

theorem MemberText.exists_item {blanks : List Char} (blank : Blank blanks)
    (written : MemberText member text) :
    ∃ lead before value, Frame.object.Lead lead ∧ Blank before ∧ Value value ∧
      ∀ rest, blanks ++ (text ++ rest) = lead ++ (before ++ (value ++ rest)) := by
  cases written with
  | @spelled body key after before value means blank' blank'' value' =>
    exact ⟨blanks ++ '"' :: (body ++ '"' :: (after ++ [':'])), before, value,
      ⟨_, _, _, blank, means.form, blank', rfl⟩, blank'', value', by simp⟩

theorem MembersText.items {lead before value : List Char} (written : MembersText false members text)
    (form : Frame.object.Lead lead) (blank : Blank before) (inside : Value value) :
    Items .object (lead ++ (before ++ (value ++ text))) := by
  generalize behind : false = first at written
  induction written generalizing lead before value with
  | nil blank' => exact .last form blank inside blank'
  | @cons _ _ _ _ text more separator member _ ih =>
    subst behind
    obtain ⟨blanks, blanks', blank', blank'', rfl⟩ := separator
    obtain ⟨lead', before', value', form', blank''', inside', same⟩ := member.exists_item blank''
    have others := ih form' blank''' inside' rfl
    rw [← same] at others
    simpa using Items.cons form blank inside blank' others

theorem ObjectText.value (written : ObjectText members text) : Value text := by
  obtain ⟨inside, written, rfl⟩ := written
  cases written with
  | nil blank => exact .empty .object blank
  | cons separator member others =>
    obtain ⟨lead, before, value, form, blank, inside, same⟩ := member.exists_item separator
    rw [same]
    exact .filled (others.items form blank inside)

theorem ShortListText.value {values : List (List Char)} (written : ShortListText values text) :
    Value text := by
  cases written with
  | empty blank => exact .empty .list blank
  | single blank inside blank' =>
    have item : Items .list _ := .last rfl blank inside blank'
    simpa [Frame.opening, Frame.closing] using Value.filled item

theorem nextMember_eq_end_iff :
    Configuration.nextMember first text = .ok (false, rest) ↔
      ∃ blanks, Blank blanks ∧ text = blanks ++ '\x7d' :: rest := by
  constructor
  · intro h
    unfold Configuration.nextMember at h
    split at h
    · contradiction
    next c more left =>
      obtain ⟨-, blanks, blank, rfl⟩ := skipBlanks_eq_cons_iff.1 left
      split at h
      next closing =>
        cases h
        exact ⟨blanks, blank, by rw [closing]⟩
      · grind
  · rintro ⟨blanks, blank, rfl⟩
    rw [Configuration.nextMember, skipBlanks_append blank, skipBlanks_cons (by decide)]
    rfl

theorem nextMember_eq_member_iff :
    Configuration.nextMember first text = .ok (true, rest) ↔
      ∃ separator, Separator first separator ∧ text = separator ++ '"' :: rest := by
  constructor
  · intro h
    unfold Configuration.nextMember at h
    split at h
    · contradiction
    next c more left =>
      obtain ⟨-, before, blank, rfl⟩ := skipBlanks_eq_cons_iff.1 left
      split at h
      · cases h
      split at h
      next isFirst =>
        split at h
        next quote =>
          cases h
          exact ⟨before, by simpa [Separator, isFirst] using blank, by rw [quote]⟩
        · contradiction
      next notFirst =>
        split at h
        next comma =>
          split at h
          · contradiction
          next d _ left' =>
            obtain ⟨-, after, blank', rfl⟩ := skipBlanks_eq_cons_iff.1 left'
            split at h
            next quote =>
              cases h
              refine ⟨before ++ ',' :: after, ?_, by simp [comma, quote]⟩
              simpa [Separator, notFirst] using ⟨before, blank, after, blank', rfl⟩
            · grind
        · contradiction
  · rintro ⟨separator, form, rfl⟩
    cases first with
    | true =>
      have blank : Blank separator := by simpa [Separator] using form
      rw [Configuration.nextMember, skipBlanks_append blank, skipBlanks_cons (by decide)]
      rfl
    | false =>
      obtain ⟨before, after, blank, blank', rfl⟩ := form
      rw [Configuration.nextMember, List.append_assoc, skipBlanks_append blank, List.cons_append,
        skipBlanks_cons (by decide)]
      simp [skipBlanks_append blank', skipBlanks_cons (c := '"') (by decide)]

def lineValues (members : List Member) : List (List Char) :=
  (members.filter (·.key == Configuration.lineNumberingKey)).map (·.value)

/-- What is known of the line numbering, as it would be written. -/
def knownValues (known : Option Bool) : List (List Char) :=
  known.toList.map truth

theorem Value.truth (value : Bool) : Value (truth value) :=
  .scalar (.truth value)

theorem truth_inj {value value' : Bool} : truth value = truth value' ↔ value = value' := by
  cases value <;> cases value' <;> simp [truth]

theorem knownValues_inj {known known' : Option Bool} :
    knownValues known = knownValues known' ↔ known = known' := by
  cases known <;> cases known' <;> simp [knownValues, truth_inj]

theorem knownValues_eq_concat_iff {known next : Option Bool} {value : List Char} :
    knownValues next = knownValues known ++ [value] ↔
      known = none ∧ ∃ set, next = some set ∧ truth set = value := by
  cases known <;> cases next <;> simp [knownValues]

theorem exists_of_readMember {known next : Option Bool}
    (h : Configuration.readMember known text = .ok (next, rest)) :
    ∃ member written, MemberText member ('"' :: written) ∧ text = written ++ rest ∧
      knownValues next = knownValues known ++ lineValues [member] := by
  unfold Configuration.readMember at h
  split at h
  · contradiction
  next key more read =>
    obtain ⟨body, means, rfl⟩ := string_eq_ok_iff.1 read
    split at h
    next sets =>
      split at h
      · contradiction
      next unknown =>
        split at h
        · contradiction
        next colon =>
          obtain ⟨after, blank, rfl⟩ := skipColon_eq_ok_iff.1 colon
          obtain ⟨⟨value, _⟩, read', pair⟩ := map_eq_ok_iff.1 h
          cases pair
          obtain ⟨before, blank', rfl⟩ := boolean_eq_ok_iff.1 read'
          refine ⟨_, _, .spelled means blank blank' (.truth value), by simp, ?_⟩
          simp_all [lineValues, knownValues]
    next other =>
      split at h
      · contradiction
      next colon =>
        obtain ⟨after, blank, rfl⟩ := skipColon_eq_ok_iff.1 colon
        obtain ⟨rfl, skipped⟩ := map_pair_eq_ok_iff.1 h
        obtain ⟨before, value, blank', inside, rfl⟩ := exists_of_skipValue skipped
        refine ⟨_, _, .spelled means blank blank' inside, by simp, ?_⟩
        simp [lineValues, other]

theorem readMember_append {known next : Option Bool} {written : List Char}
    (form : MemberText member ('"' :: written)) (ends : EndsNumber rest)
    (told : knownValues next = knownValues known ++ lineValues [member]) :
    Configuration.readMember known (written ++ rest) = .ok (next, rest) := by
  cases form with
  | @spelled body key after before value means blank blank' inside =>
    have read := string_eq_ok_iff.2
      ⟨body, means, Eq.refl (body ++ '"' :: (after ++ ':' :: (before ++ (value ++ rest))))⟩
    have colon := skipColon_eq_ok_iff.2
      ⟨after, blank, Eq.refl (after ++ ':' :: (before ++ (value ++ rest)))⟩
    simp only [List.append_assoc, List.cons_append]
    rw [Configuration.readMember, read]
    dsimp only
    split
    next sets =>
      have told : knownValues next = knownValues known ++ [value] := by
        simpa [lineValues, sets] using told
      obtain ⟨rfl, set, rfl, rfl⟩ := knownValues_eq_concat_iff.1 told
      rw [if_neg (by decide), colon]
      dsimp only
      rw [boolean_eq_ok_iff.2 ⟨before, blank', rfl⟩]
      rfl
    next other =>
      have same : next = known := knownValues_inj.1 (by simpa [lineValues, other] using told)
      rw [colon]
      dsimp only
      rw [skipValue_append inside blank' ends, same]
      rfl

/-- The configuration that some values of the line numbering make: without any the standard one, of
two or more none. -/
def Settles (values : List (List Char)) (configuration : Configuration) : Prop :=
  values = [] ∧ configuration = .standard ∨ ∃ set, values = [truth set] ∧ configuration = ⟨set⟩

variable {known next : Option Bool} {configuration : Configuration}

theorem settles_knownValues_iff :
    Settles (knownValues known) configuration ↔
      configuration = ⟨known.getD Configuration.standard.sourceLineNumbering⟩ := by
  cases known with
  | none => simp [Settles, knownValues, Configuration.standard]
  | some set => simp [Settles, knownValues, truth_inj]

theorem Settles.exists_known {values more : List (List Char)}
    (h : Settles (values ++ more) configuration) : ∃ known, knownValues known = values := by
  obtain ⟨empty, -⟩ | ⟨set, one, -⟩ := h
  · exact ⟨none, (List.append_eq_nil_iff.1 empty).1.symm⟩
  · obtain ⟨rfl, -⟩ | ⟨rfl, -⟩ := List.append_eq_singleton_iff.1 one
    · exact ⟨none, rfl⟩
    · exact ⟨some set, rfl⟩

theorem lineValues_cons (member : Member) (members : List Member) :
    lineValues (member :: members) = lineValues [member] ++ lineValues members := by
  unfold lineValues
  rw [← List.map_append, ← List.filter_append]
  rfl

theorem exists_of_readMembers
    (h : Configuration.readMembers first known text = .ok (configuration, rest)) :
    ∃ members inside, MembersText first members inside ∧ text = inside ++ '\x7d' :: rest ∧
      Settles (knownValues known ++ lineValues members) configuration := by
  fun_induction Configuration.readMembers first known text with
  | case1 | case3 => contradiction
  | case2 first known text _ ended =>
    cases h
    obtain ⟨blanks, blank, rfl⟩ := nextMember_eq_end_iff.1 ended
    refine ⟨[], blanks, .nil blank, rfl, ?_⟩
    simpa [lineValues] using settles_knownValues_iff.2 rfl
  | case4 first known text _ goesOn _ _ read ih =>
    obtain ⟨separator, form, rfl⟩ := nextMember_eq_member_iff.1 goesOn
    obtain ⟨member, written, form', rfl, told⟩ := exists_of_readMember read
    obtain ⟨members, inside, others, rfl, settled⟩ := ih h
    refine ⟨member :: members, _, .cons form form' others, by simp, ?_⟩
    rwa [lineValues_cons, ← List.append_assoc, ← told]

theorem readMembers_end (h : Configuration.nextMember first text = .ok (false, rest))
    (known : Option Bool) :
    Configuration.readMembers first known text =
      .ok (⟨known.getD Configuration.standard.sourceLineNumbering⟩, rest) := by
  rw [Configuration.readMembers]
  split <;> simp_all

theorem readMembers_member {member : List Char}
    (h : Configuration.nextMember first text = .ok (true, member))
    (read : Configuration.readMember known member = .ok (next, rest)) :
    Configuration.readMembers first known text = Configuration.readMembers false next rest := by
  rw [Configuration.readMembers]
  split
  · simp_all
  · simp_all
  next goesOn =>
    cases ok_unique h goesOn
    split
    · simp_all
    next read' =>
      cases ok_unique read read'
      rfl

theorem MembersText.endsNumber {inside : List Char} (written : MembersText false members inside)
    (rest : List Char) : EndsNumber (inside ++ '\x7d' :: rest) := by
  cases written with
  | nil blank => exact .of_blanks blank (by simp) rest
  | cons separator =>
    obtain ⟨before, after, blank, -, rfl⟩ := separator
    simp only [List.append_assoc, List.cons_append]
    exact .of_blanks blank (by simp) _

theorem readMembers_append {inside : List Char} (written : MembersText first members inside)
    (settled : Settles (knownValues known ++ lineValues members) configuration) (rest : List Char) :
    Configuration.readMembers first known (inside ++ '\x7d' :: rest) =
      .ok (configuration, rest) := by
  induction written generalizing known with
  | nil blank =>
    have told : Settles (knownValues known) configuration := by simpa [lineValues] using settled
    rw [readMembers_end (nextMember_eq_end_iff.2 ⟨_, blank, rfl⟩), settles_knownValues_iff.1 told]
  | @cons first member members separator text more form written others ih =>
    rw [lineValues_cons, ← List.append_assoc] at settled
    -- The values up to this member are few enough to be known behind it.
    obtain ⟨next, told⟩ := settled.exists_known
    obtain ⟨behind, rfl⟩ : ∃ behind, text = '"' :: behind := by
      cases written with
      | spelled => exact ⟨_, rfl⟩
    simp only [List.append_assoc, List.cons_append]
    rw [readMembers_member (nextMember_eq_member_iff.2 ⟨separator, form, rfl⟩)
      (readMember_append written (others.endsNumber rest) told)]
    exact ih (told ▸ settled)

theorem readMembers_eq_ok_iff :
    Configuration.readMembers true none text = .ok (configuration, rest) ↔
      ∃ members object, ObjectText members ('\x7b' :: object) ∧ text = object ++ rest ∧
        Settles (lineValues members) configuration := by
  constructor
  · intro h
    obtain ⟨members, inside, written, rfl, settled⟩ := exists_of_readMembers h
    exact ⟨members, _, ⟨inside, written, rfl⟩, by simp, settled⟩
  · rintro ⟨members, object, ⟨inside, written, same⟩, rfl, settled⟩
    cases same
    have settled : Settles (knownValues none ++ lineValues members) configuration := settled
    simpa using readMembers_append written settled rest

theorem endList_eq_ok_iff :
    Configuration.endList text = .ok rest ↔
      ∃ blanks, Blank blanks ∧ text = blanks ++ ']' :: rest := by
  constructor
  · intro h
    unfold Configuration.endList at h
    split at h
    · contradiction
    next c more left =>
      obtain ⟨-, blanks, blank, rfl⟩ := skipBlanks_eq_cons_iff.1 left
      split at h
      next closing =>
        cases h
        exact ⟨blanks, blank, by rw [closing]⟩
      · grind
  · rintro ⟨blanks, blank, rfl⟩
    rw [Configuration.endList, skipBlanks_append blank, skipBlanks_cons (by decide)]
    rfl

theorem readItems_eq_ok_iff :
    Configuration.readItems text = .ok (configuration, rest) ↔
      ∃ values list, ShortListText values ('[' :: list) ∧ text = list ++ rest ∧
        Settles values configuration := by
  constructor
  · intro h
    unfold Configuration.readItems at h
    split at h
    · contradiction
    next c more left =>
      obtain ⟨-, before, blank, rfl⟩ := skipBlanks_eq_cons_iff.1 left
      split at h
      next closing =>
        cases h
        exact ⟨[], _, .empty blank, by simp [closing], .inl ⟨rfl, rfl⟩⟩
      · split at h
        · contradiction
        next set _ read =>
          obtain ⟨before', blank', split⟩ := boolean_eq_ok_iff.1 read
          obtain ⟨rfl, ended⟩ := map_pair_eq_ok_iff.1 h
          obtain ⟨after, blank'', rfl⟩ := endList_eq_ok_iff.1 ended
          have blanks : Blank (before ++ before') := List.forall_mem_append.2 ⟨blank, blank'⟩
          refine ⟨_, _, .single blanks (.truth set) blank'', ?_, .inr ⟨set, rfl, rfl⟩⟩
          simp [split]
  · rintro ⟨values, list, form, rfl, settled⟩
    cases form with
    | empty blank =>
      obtain rfl : configuration = .standard := by simpa [Settles] using settled
      rw [List.append_assoc, Configuration.readItems, skipBlanks_append blank]
      rfl
    | @single before value after blank _ blank' =>
      obtain ⟨set, rfl, rfl⟩ : ∃ set, value = truth set ∧ configuration = ⟨set⟩ := by
        simpa [Settles] using settled
      obtain ⟨c, more, begins, notBlank, other⟩ := (Value.truth set).exists_cons
      have read : boolean (c :: (more ++ (after ++ ']' :: rest))) =
          .ok (set, after ++ ']' :: rest) :=
        boolean_eq_ok_iff.2 ⟨[], by simp [Blank], by simp [begins]⟩
      have ended := endList_eq_ok_iff.2 ⟨after, blank', Eq.refl (after ++ ']' :: rest)⟩
      simp only [begins, List.append_assoc, List.cons_append, List.nil_append]
      rw [Configuration.readItems, skipBlanks_append blank, skipBlanks_cons notBlank]
      dsimp only
      rw [if_neg other, read]
      dsimp only
      rw [ended]
      rfl

theorem complete_eq_ok_iff {α : Type} {result : Read α} {a : α} :
    complete result = .ok a ↔ ∃ rest, result = .ok (a, rest) ∧ Blank rest := by
  cases result with
  | error => simp [complete]
  | ok read =>
    obtain ⟨value, rest⟩ := read
    simp only [complete, ← skipBlanks_eq_nil_iff]
    split
    next nothing =>
      constructor
      · rintro ⟨⟩
        exact ⟨rest, rfl, nothing⟩
      · rintro ⟨_, ⟨⟩, -⟩
        rfl
    next something =>
      constructor
      · intro h
        contradiction
      · rintro ⟨_, ⟨⟩, nothing⟩
        exact absurd nothing something

theorem read_eq_ok_iff :
    Configuration.read text = .ok (configuration, rest) ↔
      ∃ before written values, Blank before ∧ text = before ++ (written ++ rest) ∧
        Settles values configuration ∧ (ShortListText values written ∨
          ∃ members, ObjectText members written ∧ values = lineValues members) := by
  constructor
  · intro h
    unfold Configuration.read at h
    split at h
    · contradiction
    next c more left =>
      obtain ⟨-, before, blank, rfl⟩ := skipBlanks_eq_cons_iff.1 left
      split at h
      next opening =>
        obtain ⟨values, list, form, rfl, settled⟩ := readItems_eq_ok_iff.1 h
        exact ⟨before, _, values, blank, by simp [opening], settled, .inl form⟩
      split at h
      next opening =>
        obtain ⟨members, object, form, rfl, settled⟩ := readMembers_eq_ok_iff.1 h
        exact ⟨before, _, _, blank, by simp [opening], settled, .inr ⟨members, form, rfl⟩⟩
      · contradiction
  · rintro ⟨before, written, values, blank, rfl, settled, form | ⟨members, form, rfl⟩⟩
    · obtain ⟨list, rfl⟩ : ∃ list, written = '[' :: list := by cases form <;> exact ⟨_, rfl⟩
      rw [Configuration.read, skipBlanks_append blank, List.cons_append,
        skipBlanks_cons (by decide)]
      exact readItems_eq_ok_iff.2 ⟨values, list, form, rfl, settled⟩
    · obtain ⟨object, rfl⟩ : ∃ object, written = '\x7b' :: object := by
        obtain ⟨inside, -, rfl⟩ := form
        exact ⟨_, rfl⟩
      rw [Configuration.read, skipBlanks_append blank, List.cons_append,
        skipBlanks_cons (by decide)]
      exact readMembers_eq_ok_iff.2 ⟨members, object, form, rfl, settled⟩

/-- A configuration is read from an object that sets the line numbering at most once, among any
other members, or from a list of at most one item, with blanks around it. What is set is a truth
value; where nothing is set the configuration is the standard one. -/
theorem ofJson_eq_ok_iff (json : String) (configuration : Configuration) :
    Configuration.ofJson json = .ok configuration ↔
      ∃ before written after values, Blank before ∧ Blank after ∧
        json.toList = before ++ (written ++ after) ∧ Settles values configuration ∧
        (ShortListText values written ∨
          ∃ members, ObjectText members written ∧ values = lineValues members) := by
  rw [Configuration.ofJson, complete_eq_ok_iff]
  constructor
  · rintro ⟨after, read, blank⟩
    obtain ⟨before, written, values, blank', split, settled, form⟩ := read_eq_ok_iff.1 read
    exact ⟨before, written, after, values, blank', blank, split, settled, form⟩
  · rintro ⟨before, written, after, values, blank, blank', split, settled, form⟩
    exact ⟨after, read_eq_ok_iff.2 ⟨before, written, values, blank, split, settled, form⟩, blank'⟩

theorem exists_value_of_ofJson {json : String}
    (h : Configuration.ofJson json = .ok configuration) :
    ∃ before value after, Blank before ∧ Value value ∧ Blank after ∧
      json.toList = before ++ (value ++ after) := by
  obtain ⟨after, read, blank'⟩ := complete_eq_ok_iff.1 h
  obtain ⟨before, written, values, blank, split, -, list | ⟨members, object, -⟩⟩ :=
    read_eq_ok_iff.1 read
  · exact ⟨before, written, after, blank, list.value, blank', split⟩
  · exact ⟨before, written, after, blank, object.value, blank', split⟩

theorem ofJson_emptyList :
    Configuration.ofJson "[]" = .ok .standard ∧
      ¬∃ before written after members, Blank before ∧ Blank after ∧
        "[]".toList = before ++ (written ++ after) ∧ ObjectText members written := by
  refine ⟨by decide, ?_⟩
  rintro ⟨before, written, after, members, blank, -, split, inside, -, rfl⟩
  cases before with
  | nil => simp at split
  | cons c before =>
    have first : '[' = c := by simpa using congrArg List.head? split
    subst first
    exact absurd (blank '[' List.mem_cons_self) (by decide)

end Schematron.Json
