import Schematron.Proofs.Json.Number

/-!
JSON values as they are written, lists and objects nested without limit. Skipping keeps the open
frames on a stack.
-/
namespace Schematron.Json

inductive Scalar : List Char → Prop
  | null : Scalar ['n', 'u', 'l', 'l']
  | truth (value : Bool) : Scalar (truth value)
  | number {digits : List Char} : Unsigned digits → Scalar digits
  | negative {digits : List Char} : Unsigned digits → Scalar ('-' :: digits)
  | string {body : List Char} : StringForm body → Scalar ('"' :: (body ++ ['"']))

def Frame.opening : Frame → Char
  | .list => '['
  | .object => '\x7b'

/-- What stands in a frame before the value of an item: in an object, its key and a colon. -/
def Frame.Lead (frame : Frame) (text : List Char) : Prop :=
  match frame with
  | .list => text = []
  | .object => ∃ before body after, Blank before ∧ StringForm body ∧ Blank after ∧
      text = before ++ '"' :: (body ++ '"' :: (after ++ [':']))

mutual

inductive Value : List Char → Prop
  | scalar {text : List Char} : Scalar text → Value text
  | empty (frame : Frame) {blanks : List Char} : Blank blanks →
      Value (frame.opening :: (blanks ++ [frame.closing]))
  | filled {frame : Frame} {items : List Char} : Items frame items →
      Value (frame.opening :: (items ++ [frame.closing]))

inductive Items : Frame → List Char → Prop
  | last {frame : Frame} {lead before value after : List Char} : frame.Lead lead → Blank before →
      Value value → Blank after → Items frame (lead ++ (before ++ (value ++ after)))
  | cons {frame : Frame} {lead before value after more : List Char} : frame.Lead lead →
      Blank before → Value value → Blank after → Items frame more →
      Items frame (lead ++ (before ++ (value ++ (after ++ ',' :: more))))

end

variable {fresh : Bool} {frame : Frame} {frames outer : List Frame}
  {text rest before after value : List Char}

theorem exists_of_skipStart {opened : Option Frame} (h : skipStart text = .ok (opened, rest)) :
    ∃ before, Blank before ∧
      ((∃ scalar, opened = none ∧ Scalar scalar ∧ text = before ++ (scalar ++ rest)) ∨
        ∃ frame, opened = some frame ∧ text = before ++ frame.opening :: rest) := by
  unfold skipStart at h
  split at h
  · contradiction
  next c more left =>
    obtain ⟨-, before, blank, rfl⟩ := skipBlanks_eq_cons_iff.1 left
    refine ⟨before, blank, ?_⟩
    split at h
    next first =>
      obtain ⟨rfl, read⟩ := map_pair_eq_ok_iff.1 h
      exact .inl ⟨_, rfl, .null, by simp [first, literal_eq_ok_iff.1 read]⟩
    split at h
    next first =>
      obtain ⟨rfl, read⟩ := map_pair_eq_ok_iff.1 h
      exact .inl ⟨_, rfl, .truth true, by simp [truth, first, literal_eq_ok_iff.1 read]⟩
    split at h
    next first =>
      obtain ⟨rfl, read⟩ := map_pair_eq_ok_iff.1 h
      exact .inl ⟨_, rfl, .truth false, by simp [truth, first, literal_eq_ok_iff.1 read]⟩
    split at h
    next first =>
      obtain ⟨rfl, read⟩ := map_pair_eq_ok_iff.1 h
      obtain ⟨digits, written, rfl⟩ := exists_of_skipNumber read
      exact .inl ⟨_, rfl, .negative written, by simp [first]⟩
    split at h
    next digit =>
      obtain ⟨rfl, read⟩ := map_pair_eq_ok_iff.1 h
      obtain ⟨digits, written, split⟩ := exists_of_skipNumber read
      exact .inl ⟨_, rfl, .number written, by rw [split]⟩
    split at h
    next first =>
      obtain ⟨rfl, read⟩ := map_pair_eq_ok_iff.1 h
      obtain ⟨body, form, rfl⟩ := skipString_eq_ok_iff.1 read
      exact .inl ⟨_, rfl, .string form, by simp [first]⟩
    split at h
    next first =>
      cases h
      exact .inr ⟨.list, rfl, by rw [first]; rfl⟩
    split at h
    next first =>
      cases h
      exact .inr ⟨.object, rfl, by rw [first]; rfl⟩
    · contradiction

theorem skipStart_opening (blank : Blank before) (frame : Frame) (rest : List Char) :
    skipStart (before ++ frame.opening :: rest) = .ok (some frame, rest) := by
  rw [skipStart, skipBlanks_append blank]
  cases frame <;> rfl

theorem skipStart_digits (blank : Blank before) {digits : List Char} (written : Unsigned digits)
    (ends : EndsNumber rest) : skipStart (before ++ (digits ++ rest)) = .ok (none, rest) := by
  have skipped := skipNumber_append written ends
  obtain ⟨c, more, rfl, digit⟩ := written.exists_cons
  rw [skipStart, skipBlanks_append blank, List.cons_append,
    skipBlanks_cons (not_blank_of_isDigit digit)]
  simp only [List.cons_append] at skipped
  simp [ne_of_isDigit digit, digit, skipped, Except.map]

theorem skipStart_scalar (blank : Blank before) (scalar : Scalar text) (ends : EndsNumber rest) :
    skipStart (before ++ (text ++ rest)) = .ok (none, rest) := by
  cases scalar with
  | null =>
    rw [skipStart, skipBlanks_append blank]
    rfl
  | truth value =>
    rw [skipStart, skipBlanks_append blank]
    cases value <;> rfl
  | number written => exact skipStart_digits blank written ends
  | negative written =>
    rw [skipStart, skipBlanks_append blank, List.cons_append, skipBlanks_cons (by decide)]
    simp [skipNumber_append written ends, Except.map]
  | string form =>
    have skipped := skipString_eq_ok_iff.2 ⟨_, form, Eq.refl (_ ++ '"' :: rest)⟩
    rw [skipStart, skipBlanks_append blank, List.cons_append, skipBlanks_cons (by decide)]
    simp [skipped, Except.map]

theorem skipKey_eq_ok_iff :
    skipKey text = .ok rest ↔ ∃ lead, Frame.object.Lead lead ∧ text = lead ++ rest := by
  constructor
  · intro h
    unfold skipKey at h
    split at h
    · contradiction
    next c more left =>
      obtain ⟨-, before, blank, rfl⟩ := skipBlanks_eq_cons_iff.1 left
      split at h
      next quote =>
        split at h
        · contradiction
        next key =>
          obtain ⟨body, form, rfl⟩ := skipString_eq_ok_iff.1 key
          obtain ⟨after, blank', rfl⟩ := skipColon_eq_ok_iff.1 h
          exact ⟨_, ⟨before, body, after, blank, form, blank', rfl⟩, by simp [quote]⟩
      · contradiction
  · rintro ⟨lead, ⟨before, body, after, blank, form, blank', rfl⟩, rfl⟩
    have key := skipString_eq_ok_iff.2 ⟨body, form, Eq.refl (body ++ '"' :: (after ++ ':' :: rest))⟩
    have colon := skipColon_eq_ok_iff.2 ⟨after, blank', Eq.refl (after ++ ':' :: rest)⟩
    simp only [List.append_assoc, List.cons_append, List.nil_append]
    rw [skipKey, skipBlanks_append blank, skipBlanks_cons (by decide)]
    simp [key, colon]

theorem Frame.skipToValue_eq_ok_iff :
    frame.skipToValue text = .ok rest ↔ ∃ lead, frame.Lead lead ∧ text = lead ++ rest := by
  cases frame with
  | list => simp [skipToValue, Lead]
  | object => exact skipKey_eq_ok_iff

def proceed : List Frame × List Char → Except Fault (List Char)
  | ([], rest) => .ok rest
  | (frame :: outer, rest) => skipWithin (frame :: outer) rest

/-- What follows all that is left of some frames. -/
def resume (fresh : Bool) (frames : List Frame) (text : List Char) : Except Fault (List Char) :=
  skipEnds fresh frames text >>= proceed

def skipItem (frame : Frame) (outer : List Frame) (text : List Char) : Except Fault (List Char) :=
  frame.skipToValue text >>= skipWithin (frame :: outer)

theorem skipWithin_eq (frames : List Frame) (text : List Char) :
    skipWithin frames text = skipStart text >>= fun (opened, inside) =>
      resume opened.isSome (opened.toList ++ frames) inside := by
  rw [skipWithin]
  split
  next failed =>
    rw [failed]
    rfl
  next opened inside start =>
    rw [start]
    change _ = skipEnds _ _ _ >>= proceed
    split
    next failed =>
      rw [failed]
      rfl
    next ended =>
      rw [ended]
      rfl
    next goesOn =>
      rw [goesOn]
      rfl

theorem resume_nil (fresh : Bool) (text : List Char) : resume fresh [] text = .ok text :=
  rfl

theorem resume_cons (fresh : Bool) (frame : Frame) (outer : List Frame) (text : List Char) :
    resume fresh (frame :: outer) text =
      match skipBlanks text with
      | [] => .error (beforeNext frame.unfinished [])
      | c :: rest =>
        if c = frame.closing then resume false outer rest
        else if fresh then skipItem frame outer (c :: rest)
        else if c = ',' then skipItem frame outer rest
        else .error (beforeNext frame.unclosed (c :: rest)) := by
  have enter : ∀ inside, (frame.skipToValue inside).map (frame :: outer, ·) >>= proceed =
      skipItem frame outer inside := by
    intro inside
    unfold skipItem
    cases frame.skipToValue inside <;> rfl
  unfold resume
  rw [skipEnds]
  cases skipBlanks text with
  | nil => rfl
  | cons c rest =>
    dsimp only
    split
    · rfl
    split
    · exact enter _
    split
    · exact enter _
    · rfl

theorem skipItem_eq_ok_iff :
    skipItem frame outer text = .ok rest ↔
      ∃ lead inside, frame.Lead lead ∧ text = lead ++ inside ∧
        skipWithin (frame :: outer) inside = .ok rest := by
  simp only [skipItem, bind_eq_ok_iff, Frame.skipToValue_eq_ok_iff]
  constructor
  · rintro ⟨inside, ⟨lead, form, rfl⟩, following⟩
    exact ⟨lead, inside, form, rfl, following⟩
  · rintro ⟨lead, inside, form, rfl, following⟩
    exact ⟨inside, ⟨lead, form, rfl⟩, following⟩

theorem resume_closing (fresh : Bool) (outer : List Frame) (blank : Blank before) :
    resume fresh (frame :: outer) (before ++ frame.closing :: text) = resume false outer text := by
  rw [resume_cons, skipBlanks_append blank, skipBlanks_cons (by cases frame <;> rfl)]
  simp

theorem resume_comma (frame : Frame) (outer : List Frame) (blank : Blank before) :
    resume false (frame :: outer) (before ++ ',' :: text) = skipItem frame outer text := by
  rw [resume_cons, skipBlanks_append blank, skipBlanks_cons (by decide)]
  cases frame <;> simp [Frame.closing]

theorem exists_of_resume (h : resume false (frame :: outer) text = .ok rest) :
    ∃ before more, Blank before ∧
      (text = before ++ frame.closing :: more ∧ resume false outer more = .ok rest ∨
        text = before ++ ',' :: more ∧ skipItem frame outer more = .ok rest) := by
  rw [resume_cons] at h
  split at h
  · contradiction
  next c more left =>
    obtain ⟨-, before, blank, rfl⟩ := skipBlanks_eq_cons_iff.1 left
    refine ⟨before, more, blank, ?_⟩
    split at h
    next closing => exact .inl ⟨by rw [closing], h⟩
    rw [if_neg (by decide)] at h
    split at h
    next comma => exact .inr ⟨by rw [comma], h⟩
    · contradiction

theorem skipItem_blanks (frame : Frame) (outer : List Frame) (blank : Blank before)
    (text : List Char) : skipItem frame outer (before ++ text) = skipItem frame outer text := by
  cases frame with
  | list =>
    change skipWithin _ (before ++ text) = skipWithin _ text
    rw [skipWithin_eq, skipWithin_eq, skipStart, skipStart, skipBlanks_append blank]
  | object =>
    change skipKey (before ++ text) >>= _ = skipKey text >>= _
    rw [skipKey, skipKey, skipBlanks_append blank]

theorem exists_of_resume_fresh (h : resume true (frame :: outer) text = .ok rest) :
    (∃ before more, Blank before ∧ text = before ++ frame.closing :: more ∧
      resume false outer more = .ok rest) ∨ skipItem frame outer text = .ok rest := by
  rw [resume_cons] at h
  split at h
  · contradiction
  next c more left =>
    obtain ⟨-, before, blank, rfl⟩ := skipBlanks_eq_cons_iff.1 left
    split at h
    next closing => exact .inl ⟨before, more, blank, by rw [closing], h⟩
    rw [if_pos rfl] at h
    exact .inr (by rw [skipItem_blanks frame outer blank, h])

theorem EndsNumber.of_blanks (blank : Blank before) {c : Char} (h : c ∈ [',', ']', '\x7d'])
    (rest : List Char) : EndsNumber (before ++ c :: rest) := by
  intro d first
  have known : d ∈ [' ', '\t', '\r', '\n'] ∨ d ∈ [',', ']', '\x7d'] := by
    cases before with
    | nil =>
      cases first
      exact .inr h
    | cons b before =>
      cases first
      exact .inl (blank d List.mem_cons_self)
  simp only [List.mem_cons, List.not_mem_nil, or_false] at known
  obtain (rfl | rfl | rfl | rfl) | rfl | rfl | rfl := known <;> decide

theorem Scalar.exists_cons {scalar : List Char} (written : Scalar scalar) :
    ∃ c more, scalar = c :: more ∧ Text.isXmlBlank c = false ∧ c ≠ ']' := by
  cases written with
  | null => exact ⟨_, _, rfl, rfl, by decide⟩
  | truth value => cases value <;> exact ⟨_, _, rfl, rfl, by decide⟩
  | number written =>
    obtain ⟨c, more, rfl, digit⟩ := written.exists_cons
    exact ⟨c, more, rfl, not_blank_of_isDigit digit, ne_of_isDigit digit rfl⟩
  | negative => exact ⟨_, _, rfl, rfl, by decide⟩
  | string => exact ⟨_, _, rfl, rfl, by decide⟩

theorem Value.exists_cons (written : Value value) :
    ∃ c more, value = c :: more ∧ Text.isXmlBlank c = false ∧ c ≠ ']' := by
  cases written with
  | scalar scalar => exact scalar.exists_cons
  | empty frame => cases frame <;> exact ⟨_, _, rfl, rfl, by decide⟩
  | @filled frame => cases frame <;> exact ⟨_, _, rfl, rfl, by decide⟩

theorem Items.exists_item {items : List Char} (written : Items frame items) :
    ∃ lead before value more, frame.Lead lead ∧ Blank before ∧ Value value ∧
      items = lead ++ (before ++ (value ++ more)) := by
  cases written with
  | last form blank inside => exact ⟨_, _, _, _, form, blank, inside, rfl⟩
  | cons form blank inside => exact ⟨_, _, _, _, form, blank, inside, rfl⟩

theorem Items.exists_cons {items : List Char} (written : Items frame items) :
    ∃ before c more, Blank before ∧ items = before ++ c :: more ∧ Text.isXmlBlank c = false ∧
      c ≠ frame.closing := by
  obtain ⟨lead, before, value, more, form, blank, inside, rfl⟩ := written.exists_item
  cases frame with
  | list =>
    obtain ⟨c, more', rfl, notBlank, other⟩ := inside.exists_cons
    exact ⟨before, c, _, blank, by rw [form]; rfl, notBlank, other⟩
  | object =>
    obtain ⟨before', body, after, blank', -, -, rfl⟩ := form
    exact ⟨before', '"', _, blank', by rw [List.append_assoc]; rfl, rfl, by decide⟩

theorem resume_items {items : List Char} (written : Items frame items) (outer : List Frame)
    (rest : List Char) :
    resume true (frame :: outer) (items ++ rest) = skipItem frame outer (items ++ rest) := by
  obtain ⟨before, c, more, blank, rfl, notBlank, other⟩ := written.exists_cons
  rw [List.append_assoc, skipItem_blanks frame outer blank, resume_cons, skipBlanks_append blank,
    List.cons_append, skipBlanks_cons notBlank]
  simp [other]

theorem skipItem_lead {lead : List Char} (form : frame.Lead lead) (text : List Char) :
    skipItem frame outer (lead ++ text) = skipWithin (frame :: outer) text := by
  rw [skipItem, Frame.skipToValue_eq_ok_iff.2 ⟨lead, form, rfl⟩]
  rfl

theorem skipWithin_opening (blank : Blank before) (frame : Frame) (text : List Char) :
    skipWithin frames (before ++ frame.opening :: text) = resume true (frame :: frames) text := by
  rw [skipWithin_eq, skipStart_opening blank]
  rfl

mutual

/-- A value is skipped whole, whatever frames it stands in. -/
theorem skipWithin_value {value before rest : List Char} (written : Value value)
    (blank : Blank before) (ends : EndsNumber rest) (frames : List Frame) :
    skipWithin frames (before ++ (value ++ rest)) = resume false frames rest := by
  match written with
  | .scalar scalar =>
    rw [skipWithin_eq, skipStart_scalar blank scalar ends]
    rfl
  | .empty frame inside =>
    simp only [List.cons_append, List.append_assoc, List.nil_append]
    rw [skipWithin_opening blank, resume_closing true frames inside]
  | .filled inside =>
    simp only [List.cons_append, List.append_assoc, List.nil_append]
    rw [skipWithin_opening blank, resume_items inside, skipItem_items inside]

theorem skipItem_items {frame : Frame} {items : List Char} (written : Items frame items)
    (outer : List Frame) (text : List Char) :
    skipItem frame outer (items ++ frame.closing :: text) = resume false outer text := by
  match written with
  | .last form blank inside blank' =>
    have ends : EndsNumber (_ ++ frame.closing :: text) :=
      .of_blanks blank' (by cases frame <;> decide) text
    simp only [List.append_assoc]
    rw [skipItem_lead form, skipWithin_value inside blank ends, resume_closing false outer blank']
  | .cons form blank inside blank' more =>
    simp only [List.append_assoc, List.cons_append]
    rw [skipItem_lead form, skipWithin_value inside blank (.of_blanks blank' (by simp) _),
      resume_comma frame outer blank', skipItem_items more outer text]

end

theorem skipValue_append (written : Value value) (blank : Blank before) (ends : EndsNumber rest) :
    skipValue (before ++ (value ++ rest)) = .ok rest :=
  skipWithin_value written blank ends []

mutual

theorem exists_of_skipWithin {frames : List Frame} {text rest : List Char}
    (h : skipWithin frames text = .ok rest) :
    ∃ before value more, Blank before ∧ Value value ∧ text = before ++ (value ++ more) ∧
      resume false frames more = .ok rest := by
  rw [skipWithin_eq, bind_eq_ok_iff] at h
  obtain ⟨⟨opened, inside⟩, start, following⟩ := h
  have shorter := length_skipStart_lt start
  obtain ⟨before, blank, ⟨scalar, rfl, written, rfl⟩ | ⟨frame, rfl, rfl⟩⟩ :=
    exists_of_skipStart start
  · exact ⟨before, scalar, inside, blank, .scalar written, rfl, following⟩
  · obtain ⟨within, more, blank', rfl, ended⟩ | item := exists_of_resume_fresh following
    · exact ⟨before, _, more, blank, .empty frame blank', by simp, ended⟩
    · obtain ⟨items, more, written, rfl, ended⟩ := exists_of_skipItem item
      exact ⟨before, _, more, blank, .filled written, by simp, ended⟩
termination_by 2 * text.length
decreasing_by omega

theorem exists_of_skipItem {frame : Frame} {outer : List Frame} {text rest : List Char}
    (h : skipItem frame outer text = .ok rest) :
    ∃ items more, Items frame items ∧ text = items ++ frame.closing :: more ∧
      resume false outer more = .ok rest := by
  obtain ⟨lead, inside, form, rfl, value⟩ := skipItem_eq_ok_iff.1 h
  obtain ⟨before, value, more, blank, written, rfl, following⟩ := exists_of_skipWithin value
  obtain ⟨after, more, blank', ⟨rfl, ended⟩ | ⟨rfl, item⟩⟩ := exists_of_resume following
  · exact ⟨_, more, .last form blank written blank', by simp, ended⟩
  · obtain ⟨items, more, others, rfl, ended⟩ := exists_of_skipItem item
    exact ⟨_, more, .cons form blank written blank' others, by simp, ended⟩
-- A value may be all of the item that it stands in.
termination_by 2 * text.length + 1
decreasing_by
  all_goals
    subst_vars
    simp only [List.length_append, List.length_cons]
    omega

end

theorem exists_of_skipValue (h : skipValue text = .ok rest) :
    ∃ before value, Blank before ∧ Value value ∧ text = before ++ (value ++ rest) := by
  obtain ⟨before, value, more, blank, written, rfl, ended⟩ := exists_of_skipWithin h
  rw [resume_nil] at ended
  cases ended
  exact ⟨before, value, blank, written, rfl⟩

end Schematron.Json
