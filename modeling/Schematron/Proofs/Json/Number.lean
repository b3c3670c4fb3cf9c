import Schematron.Proofs.Json.Text

/-!
JSON numbers as they are written. Skipping takes a number of the grammar, and takes it whole where
nothing follows that could go on with it.
-/
namespace Schematron.Json

def Digits (text : List Char) : Prop :=
  text ≠ [] ∧ ∀ c ∈ text, c.isDigit = true

def Whole (text : List Char) : Prop :=
  text = ['0'] ∨ Digits text ∧ text.head? ≠ some '0'

def Fraction (text : List Char) : Prop :=
  text = [] ∨ ∃ digits, Digits digits ∧ text = '.' :: digits

def Exponent (text : List Char) : Prop :=
  text = [] ∨ ∃ mark sign digits, mark ∈ ['e', 'E'] ∧ sign ∈ [[], ['+'], ['-']] ∧
    Digits digits ∧ text = mark :: (sign ++ digits)

def Unsigned (text : List Char) : Prop :=
  ∃ whole fraction exponent, Whole whole ∧ Fraction fraction ∧ Exponent exponent ∧
    text = whole ++ (fraction ++ exponent)

def EndsNumber (text : List Char) : Prop :=
  ∀ c ∈ text.head?, c.isDigit = false ∧ c ∉ ['.', 'e', 'E']

variable {text rest : List Char}

theorem EndsNumber.not_digit (ends : EndsNumber text) : ∀ c ∈ text.head?, c.isDigit = false :=
  fun c first => (ends c first).1

theorem Digits.exists_cons {digits : List Char} (h : Digits digits) :
    ∃ c more, digits = c :: more ∧ c.isDigit = true ∧ ∀ d ∈ more, d.isDigit = true := by
  cases digits with
  | nil => exact absurd rfl h.1
  | cons c more => exact ⟨c, more, rfl, List.forall_mem_cons.1 h.2⟩

theorem ne_of_isDigit {c d : Char} (digit : c.isDigit = true) (other : d.isDigit = false) :
    c ≠ d := by
  rintro rfl
  rw [digit] at other
  contradiction

theorem not_blank_of_isDigit {c : Char} (digit : c.isDigit = true) :
    Text.isXmlBlank c = false := by
  simp [Text.isXmlBlank, ne_of_isDigit digit]

theorem dropWhile_digits {digits : List Char} (all : ∀ c ∈ digits, c.isDigit = true)
    (stop : ∀ c ∈ rest.head?, c.isDigit = false) :
    (digits ++ rest).dropWhile Char.isDigit = rest :=
  (Text.span_iff.2 ⟨rfl, all, stop⟩).2

theorem exists_digits (text : List Char) :
    ∃ digits, (∀ c ∈ digits, c.isDigit = true) ∧ text = digits ++ text.dropWhile Char.isDigit :=
  ⟨text.takeWhile Char.isDigit, fun c member => List.all_eq_true.1 List.all_takeWhile c member,
    List.takeWhile_append_dropWhile.symm⟩

def afterSign (text : List Char) : List Char :=
  match text with
  | '+' :: rest => rest
  | '-' :: rest => rest
  | rest => rest

theorem exists_sign (text : List Char) :
    ∃ sign ∈ [[], ['+'], ['-']], text = sign ++ afterSign text := by
  unfold afterSign
  split
  · exact ⟨['+'], by simp, rfl⟩
  · exact ⟨['-'], by simp, rfl⟩
  · exact ⟨[], by simp, rfl⟩

theorem afterSign_append {sign : List Char} (known : sign ∈ [[], ['+'], ['-']])
    (unsigned : text.head? ≠ some '+' ∧ text.head? ≠ some '-') :
    afterSign (sign ++ text) = text := by
  simp only [List.mem_cons, List.not_mem_nil, or_false] at known
  obtain rfl | rfl | rfl := known
  · unfold afterSign
    split <;> simp_all
  · rfl
  · rfl

theorem skipExponent_cons (mark : Char) (text : List Char) :
    skipExponent (mark :: text) =
      match afterSign text with
      | [] => .error (behind .invalidNumber [])
      | c :: rest =>
        if c.isDigit then .ok (rest.dropWhile Char.isDigit)
        else .error (beforeNext .invalidNumber (c :: rest)) :=
  rfl

theorem exists_of_skipExponent {mark : Char} (known : mark ∈ ['e', 'E'])
    (h : skipExponent (mark :: text) = .ok rest) :
    ∃ exponent, Exponent exponent ∧ mark :: text = exponent ++ rest := by
  obtain ⟨sign, signs, split⟩ := exists_sign text
  rw [skipExponent_cons] at h
  split at h
  · contradiction
  next c more left =>
    split at h
    next digit =>
      obtain ⟨digits, all, cut⟩ := exists_digits more
      have same : more.dropWhile Char.isDigit = rest := Except.ok.inj h
      have written : Digits (c :: digits) :=
        ⟨List.cons_ne_nil _ _, List.forall_mem_cons.2 ⟨digit, all⟩⟩
      refine ⟨_, .inr ⟨mark, sign, c :: digits, known, signs, written, rfl⟩, ?_⟩
      rw [split, left, cut, same]
      simp
    · contradiction

theorem skipExponent_append {mark : Char} {sign digits : List Char}
    (signs : sign ∈ [[], ['+'], ['-']]) (written : Digits digits)
    (stop : ∀ c ∈ rest.head?, c.isDigit = false) :
    skipExponent (mark :: (sign ++ digits) ++ rest) = .ok rest := by
  obtain ⟨c, more, rfl, digit, all⟩ := written.exists_cons
  have unsigned : c ≠ '+' ∧ c ≠ '-' := ⟨ne_of_isDigit digit rfl, ne_of_isDigit digit rfl⟩
  have signless : afterSign (sign ++ (c :: more ++ rest)) = c :: (more ++ rest) :=
    afterSign_append signs (by simpa using unsigned)
  rw [List.cons_append, List.append_assoc, skipExponent_cons, signless]
  simp [digit, dropWhile_digits all stop]

def skipExponentPart (text : List Char) : Except Fault (List Char) :=
  match text with
  | 'e' :: _ => skipExponent text
  | 'E' :: _ => skipExponent text
  | _ => .ok text

theorem exists_of_skipExponentPart (h : skipExponentPart text = .ok rest) :
    ∃ exponent, Exponent exponent ∧ text = exponent ++ rest := by
  unfold skipExponentPart at h
  split at h
  · exact exists_of_skipExponent (by simp) h
  · exact exists_of_skipExponent (by simp) h
  · cases h
    exact ⟨[], .inl rfl, rfl⟩

theorem skipExponentPart_append {exponent : List Char} (written : Exponent exponent)
    (ends : EndsNumber rest) : skipExponentPart (exponent ++ rest) = .ok rest := by
  obtain rfl | ⟨mark, sign, digits, marks, signs, digits', rfl⟩ := written
  · rw [List.nil_append]
    unfold skipExponentPart
    split
    · simpa using ends 'e' rfl
    · simpa using ends 'E' rfl
    · rfl
  · have skipped : skipExponent (mark :: (sign ++ digits) ++ rest) = .ok rest :=
      skipExponent_append signs digits' ends.not_digit
    simp only [List.mem_cons, List.not_mem_nil, or_false] at marks
    obtain rfl | rfl := marks
    · exact skipped
    · exact skipped

theorem skipFraction_of_point (text : List Char) :
    skipFraction ('.' :: text) =
      if (text.dropWhile Char.isDigit).length = text.length then
        .error (beforeNext .invalidNumber text)
      else skipExponentPart (text.dropWhile Char.isDigit) :=
  rfl

theorem skipFraction_of_no_point (h : text.head? ≠ some '.') :
    skipFraction text = skipExponentPart text := by
  unfold skipFraction skipExponentPart
  split
  · simp at h
  · rfl
  · rfl
  next notSmall notLarge =>
    split
    · exact absurd rfl (notSmall _)
    · exact absurd rfl (notLarge _)
    · rfl

theorem exists_of_skipFraction (h : skipFraction text = .ok rest) :
    ∃ fraction exponent, Fraction fraction ∧ Exponent exponent ∧
      text = fraction ++ (exponent ++ rest) := by
  by_cases point : text.head? = some '.'
  · obtain ⟨more, rfl⟩ := List.head?_eq_some_iff.1 point
    obtain ⟨digits, all, cut⟩ := exists_digits more
    rw [skipFraction_of_point] at h
    split at h
    · contradiction
    next nonempty =>
      obtain ⟨exponent, written, left⟩ := exists_of_skipExponentPart h
      refine ⟨'.' :: digits, exponent, .inr ⟨digits, ⟨?_, all⟩, rfl⟩, written, ?_⟩
      · rintro rfl
        exact nonempty (congrArg List.length cut).symm
      · rw [cut, left]
        rfl
  · rw [skipFraction_of_no_point point] at h
    obtain ⟨exponent, written, rfl⟩ := exists_of_skipExponentPart h
    exact ⟨[], exponent, .inl rfl, written, rfl⟩

theorem Exponent.head?_append {exponent : List Char} (written : Exponent exponent)
    (ends : EndsNumber rest) :
    ∀ c ∈ (exponent ++ rest).head?, c.isDigit = false ∧ c ≠ '.' := by
  obtain rfl | ⟨mark, sign, digits, marks, -, -, rfl⟩ := written
  · intro c first
    have := ends c first
    simp_all
  · rintro c first
    cases first
    simp only [List.mem_cons, List.not_mem_nil, or_false] at marks
    obtain rfl | rfl := marks <;> decide

theorem skipFraction_append {fraction exponent : List Char} (point : Fraction fraction)
    (written : Exponent exponent) (ends : EndsNumber rest) :
    skipFraction (fraction ++ (exponent ++ rest)) = .ok rest := by
  have first := written.head?_append ends
  have skipped := skipExponentPart_append written ends
  obtain rfl | ⟨digits, ⟨nonempty, all⟩, rfl⟩ := point
  · rw [List.nil_append, skipFraction_of_no_point fun point => (first '.' point).2 rfl, skipped]
  · have left := dropWhile_digits all fun c h => (first c h).1
    rw [List.cons_append, skipFraction_of_point, left, if_neg, skipped]
    have := List.length_pos_iff.2 nonempty
    simp only [List.length_append]
    omega

theorem head?_fraction_append {fraction exponent : List Char} (point : Fraction fraction)
    (written : Exponent exponent) (ends : EndsNumber rest) :
    ∀ c ∈ (fraction ++ (exponent ++ rest)).head?, c.isDigit = false := by
  obtain rfl | ⟨digits, -, rfl⟩ := point
  · exact fun c first => (written.head?_append ends c first).1
  · rintro c first
    cases first
    rfl

theorem Unsigned.exists_cons {number : List Char} (written : Unsigned number) :
    ∃ c more, number = c :: more ∧ c.isDigit = true := by
  obtain ⟨_, _, _, rfl | ⟨digits, -⟩, -, -, rfl⟩ := written
  · exact ⟨'0', _, rfl, rfl⟩
  · obtain ⟨c, _, rfl, digit, -⟩ := digits.exists_cons
    exact ⟨c, _, rfl, digit⟩

theorem skipNumber_zero (h : ∀ c ∈ text.head?, c.isDigit = false) :
    skipNumber ('0' :: text) = skipFraction text := by
  cases text with
  | nil => rfl
  | cons c more => simp [skipNumber, h c rfl]

theorem exists_of_skipNumber (h : skipNumber text = .ok rest) :
    ∃ number, Unsigned number ∧ text = number ++ rest := by
  suffices ∃ whole left, Whole whole ∧ skipFraction left = .ok rest ∧ text = whole ++ left by
    obtain ⟨whole, left, first, following, rfl⟩ := this
    obtain ⟨fraction, exponent, point, written, rfl⟩ := exists_of_skipFraction following
    exact ⟨_, ⟨whole, fraction, exponent, first, point, written, rfl⟩, by simp⟩
  unfold skipNumber at h
  split at h
  · contradiction
  next c more =>
    split at h
    next zero =>
      subst zero
      refine ⟨['0'], more, .inl rfl, ?_, rfl⟩
      split at h
      · split at h
        · contradiction
        · exact h
      · exact h
    next nonzero =>
      split at h
      next digit =>
        obtain ⟨digits, all, cut⟩ := exists_digits more
        refine ⟨c :: digits, _, .inr ⟨⟨?_, ?_⟩, ?_⟩, h, ?_⟩
        · exact List.cons_ne_nil _ _
        · exact List.forall_mem_cons.2 ⟨digit, all⟩
        · simpa using nonzero
        · rw [List.cons_append, ← cut]
      · contradiction

theorem skipNumber_append {number : List Char} (written : Unsigned number)
    (ends : EndsNumber rest) : skipNumber (number ++ rest) = .ok rest := by
  obtain ⟨whole, fraction, exponent, first, point, written, rfl⟩ := written
  have stop := head?_fraction_append point written ends
  have skipped := skipFraction_append point written ends
  simp only [List.append_assoc]
  obtain rfl | ⟨digits, nonzero⟩ := first
  · exact (skipNumber_zero stop).trans skipped
  · obtain ⟨c, more, rfl, digit, all⟩ := digits.exists_cons
    have nonzero : c ≠ '0' := by simpa using nonzero
    simp [skipNumber, nonzero, digit, dropWhile_digits all stop, skipped]

end Schematron.Json
