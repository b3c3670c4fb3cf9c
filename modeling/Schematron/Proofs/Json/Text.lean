import Schematron.Json.Skip
import Schematron.Json.Typed
import Schematron.Proofs.Outcome
import Schematron.Proofs.Text.Split

/-!
The parts of JSON text that hold no other values: blanks, literals and strings. A string has a form,
and if its escapes spell characters also a meaning; reading asks for the meaning, skipping for the
form, and both end at the same quote.
-/
namespace Schematron.Json

theorem map_pair_eq_ok_iff {α : Type} {result : Except Fault (List Char)} {a a' : α}
    {rest : List Char} :
    result.map (a, ·) = .ok (a', rest) ↔ a = a' ∧ result = .ok rest := by
  cases result <;> simp [Except.map]

def Blank (text : List Char) : Prop :=
  ∀ c ∈ text, c ∈ [' ', '\t', '\r', '\n']

theorem isXmlBlank_iff {c : Char} :
    Text.isXmlBlank c = true ↔ c ∈ [' ', '\t', '\r', '\n'] := by
  simp [Text.isXmlBlank, or_assoc]

theorem skipBlanks_append {blanks : List Char} (blank : Blank blanks) (rest : List Char) :
    skipBlanks (blanks ++ rest) = skipBlanks rest :=
  List.dropWhile_append_of_pos fun c member => isXmlBlank_iff.2 (blank c member)

theorem skipBlanks_cons {c : Char} (h : Text.isXmlBlank c = false) (rest : List Char) :
    skipBlanks (c :: rest) = c :: rest := by
  simp [skipBlanks, h]

theorem exists_blanks (text : List Char) :
    ∃ blanks, Blank blanks ∧ text = blanks ++ skipBlanks text := by
  refine ⟨text.takeWhile Text.isXmlBlank, fun c member => isXmlBlank_iff.1 ?_,
    List.takeWhile_append_dropWhile.symm⟩
  exact List.all_eq_true.1 List.all_takeWhile c member

theorem skipBlanks_eq_nil_iff {text : List Char} : skipBlanks text = [] ↔ Blank text := by
  constructor
  · intro nothing
    obtain ⟨blanks, blank, split⟩ := exists_blanks text
    rw [nothing, List.append_nil] at split
    rwa [split]
  · intro blank
    simpa [skipBlanks] using skipBlanks_append blank []

theorem skipBlanks_eq_cons_iff {text rest : List Char} {c : Char} :
    skipBlanks text = c :: rest ↔
      Text.isXmlBlank c = false ∧ ∃ blanks, Blank blanks ∧ text = blanks ++ c :: rest := by
  constructor
  · intro left
    obtain ⟨blanks, blank, split⟩ := exists_blanks text
    rw [left] at split
    refine ⟨?_, blanks, blank, split⟩
    have stop := List.head?_dropWhile_not Text.isXmlBlank text
    rw [← skipBlanks, left] at stop
    simpa using stop
  · rintro ⟨other, blanks, blank, rfl⟩
    rw [skipBlanks_append blank, skipBlanks_cons other]

theorem literal_eq_ok_iff {expected text rest : List Char} :
    literal expected text = .ok rest ↔ text = expected ++ rest := by
  induction expected generalizing text with
  | nil => simp [literal]
  | cons e expected ih =>
    cases text with
    | nil => simp [literal]
    | cons c text =>
      rw [literal]
      split
      next same => simp [ih, same]
      next differs => simp [differs]

def truth (value : Bool) : List Char :=
  if value then ['t', 'r', 'u', 'e'] else ['f', 'a', 'l', 's', 'e']

theorem boolean_eq_ok_iff {text rest : List Char} {value : Bool} :
    boolean text = .ok (value, rest) ↔
      ∃ blanks, Blank blanks ∧ text = blanks ++ (truth value ++ rest) := by
  constructor
  · intro h
    unfold boolean at h
    split at h
    · contradiction
    next c more left =>
      obtain ⟨-, blanks, blank, rfl⟩ := skipBlanks_eq_cons_iff.1 left
      refine ⟨blanks, blank, ?_⟩
      split at h
      next same =>
        obtain ⟨rfl, read⟩ := map_pair_eq_ok_iff.1 h
        simp [truth, same, literal_eq_ok_iff.1 read]
      split at h
      next same =>
        obtain ⟨rfl, read⟩ := map_pair_eq_ok_iff.1 h
        simp [truth, same, literal_eq_ok_iff.1 read]
      · contradiction
  · rintro ⟨blanks, blank, rfl⟩
    rw [boolean, skipBlanks_append blank]
    cases value <;> simp [truth, skipBlanks, Text.isXmlBlank, literal, Except.map]

theorem skipColon_eq_ok_iff {text rest : List Char} :
    skipColon text = .ok rest ↔ ∃ blanks, Blank blanks ∧ text = blanks ++ ':' :: rest := by
  constructor
  · intro h
    unfold skipColon at h
    split at h
    · contradiction
    next c more left =>
      obtain ⟨-, blanks, blank, rfl⟩ := skipBlanks_eq_cons_iff.1 left
      split at h
      next same =>
        cases h
        exact ⟨blanks, blank, by rw [same]⟩
      · contradiction
  · rintro ⟨blanks, blank, rfl⟩
    rw [skipColon, skipBlanks_append blank, skipBlanks_cons (by decide)]
    rfl

inductive HexUnit : List Char → Nat → Prop
  | digits {a b c d : Char} {w x y z : Nat} :
      Text.digitValue? 16 a = some w → Text.digitValue? 16 b = some x →
      Text.digitValue? 16 c = some y → Text.digitValue? 16 d = some z →
      HexUnit [a, b, c, d] (((w * 16 + x) * 16 + y) * 16 + z)

theorem length_le_size (text : List Char) : text.length ≤ Utf8.size text := by
  induction text with
  | nil => exact Nat.le_refl 0
  | cons c rest ih =>
    have := c.utf8Size_pos
    simp only [List.length_cons, Utf8.size]
    omega

theorem hexEscape_eq_ok_iff {text rest : List Char} {unit : Nat} :
    hexEscape text = .ok (unit, rest) ↔ ∃ digits, HexUnit digits unit ∧ text = digits ++ rest := by
  constructor
  · intro h
    unfold hexEscape at h
    split at h
    · contradiction
    split at h
    · split at h
      next a b c d rest' w x y z ha hb hc hd =>
        cases h
        exact ⟨_, .digits ha hb hc hd, rfl⟩
      · contradiction
    · contradiction
  · rintro ⟨digits, hex, rfl⟩
    cases hex with
    | @digits a b c d _ _ _ _ ha hb hc hd =>
      have long : 4 ≤ Utf8.size (([a, b, c, d] ++ rest).take 4) := length_le_size [a, b, c, d]
      unfold hexEscape
      rw [if_neg (Nat.not_lt.2 long)]
      simp only [List.cons_append, List.nil_append, ha, hb, hc, hd]

def shortEscapes : List (Char × Char) :=
  [('"', '"'), ('\\', '\\'), ('/', '/'), ('b', '\x08'), ('f', '\x0c'), ('n', '\n'), ('r', '\r'),
    ('t', '\t')]

theorem shortEscape?_eq_some_iff {c meant : Char} :
    shortEscape? c = some meant ↔ (c, meant) ∈ shortEscapes := by
  constructor
  · intro h
    unfold shortEscape? at h
    split at h
    next itself =>
      cases h
      obtain rfl | rfl | rfl := itself <;> simp [shortEscapes]
    repeat' split at h
    all_goals cases h <;> simp_all [shortEscapes]
  · intro member
    simp only [shortEscapes, List.mem_cons, Prod.mk.injEq, List.not_mem_nil, or_false] at member
    obtain ⟨rfl, rfl⟩ | ⟨rfl, rfl⟩ | ⟨rfl, rfl⟩ | ⟨rfl, rfl⟩ | ⟨rfl, rfl⟩ | ⟨rfl, rfl⟩ |
      ⟨rfl, rfl⟩ | ⟨rfl, rfl⟩ := member
    all_goals rfl

theorem ne_u_of_short {c meant : Char} (h : (c, meant) ∈ shortEscapes) : c ≠ 'u' := by
  rintro rfl
  simp [shortEscapes] at h

/-- What can follow a backslash, whether or not it spells a character. -/
inductive EscapeForm : List Char → Prop
  | short {c meant : Char} : (c, meant) ∈ shortEscapes → EscapeForm [c]
  | unit {digits : List Char} {unit : Nat} : HexUnit digits unit → EscapeForm ('u' :: digits)

/-- What follows a backslash, and the character that it spells. A character beyond 16 bits takes
two units, a high surrogate and a low one. -/
inductive Escapes : List Char → Char → Prop
  | short {c meant : Char} : (c, meant) ∈ shortEscapes → Escapes [c] meant
  | unit {digits : List Char} {unit : Nat} : HexUnit digits unit →
      ¬(0xD800 ≤ unit ∧ unit ≤ 0xDFFF) → Escapes ('u' :: digits) (Char.ofNat unit)
  | pair {high low : List Char} {first second : Nat} : HexUnit high first → HexUnit low second →
      0xD800 ≤ first ∧ first ≤ 0xDBFF → 0xDC00 ≤ second ∧ second ≤ 0xDFFF →
      Escapes ('u' :: (high ++ '\\' :: 'u' :: low))
        (Char.ofNat (0x10000 + (first - 0xD800) * 0x400 + (second - 0xDC00)))

theorem skipEscape_eq_ok_iff {text rest : List Char} :
    skipEscape text = .ok rest ↔ ∃ spelled, EscapeForm spelled ∧ text = spelled ++ rest := by
  constructor
  · intro h
    unfold skipEscape at h
    split at h
    · contradiction
    next more =>
      obtain ⟨⟨unit, _⟩, read, rfl⟩ := map_eq_ok_iff.1 h
      obtain ⟨digits, hex, rfl⟩ := hexEscape_eq_ok_iff.1 read
      exact ⟨_, .unit hex, rfl⟩
    next c more _ =>
      split at h
      next known =>
        obtain ⟨meant, found⟩ := Option.isSome_iff_exists.1 known
        cases h
        exact ⟨[c], .short (shortEscape?_eq_some_iff.1 found), rfl⟩
      · contradiction
  · rintro ⟨_, short | hex, rfl⟩
    · rw [List.singleton_append, skipEscape]
      · simp [shortEscape?_eq_some_iff.2 short]
      · simpa using ne_u_of_short short
    · rw [List.cons_append, skipEscape, hexEscape_eq_ok_iff.2 ⟨_, hex, rfl⟩]
      rfl

theorem isLowSurrogate_iff {unit : Nat} :
    isLowSurrogate unit = true ↔ 0xDC00 ≤ unit ∧ unit ≤ 0xDFFF := by
  simp [isLowSurrogate]

theorem isHighSurrogate_iff {unit : Nat} :
    isHighSurrogate unit = true ↔ 0xD800 ≤ unit ∧ unit ≤ 0xDBFF := by
  simp [isHighSurrogate]

theorem lowSurrogate_eq_ok_iff {text rest : List Char} {unit : Nat} :
    lowSurrogate text = .ok (unit, rest) ↔
      ∃ digits, HexUnit digits unit ∧ (0xDC00 ≤ unit ∧ unit ≤ 0xDFFF) ∧
        text = '\\' :: 'u' :: (digits ++ rest) := by
  constructor
  · intro h
    unfold lowSurrogate at h
    split at h <;> try contradiction
    next more =>
      split at h
      · contradiction
      next read =>
        split at h
        next low =>
          cases h
          obtain ⟨digits, hex, rfl⟩ := hexEscape_eq_ok_iff.1 read
          exact ⟨digits, hex, isLowSurrogate_iff.1 low, rfl⟩
        · contradiction
  · rintro ⟨digits, hex, low, rfl⟩
    simp [lowSurrogate, hexEscape_eq_ok_iff.2 ⟨_, hex, rfl⟩, isLowSurrogate_iff.2 low]

theorem escape_eq_ok_iff {text rest : List Char} {c : Char} :
    escape text = .ok (c, rest) ↔ ∃ spelled, Escapes spelled c ∧ text = spelled ++ rest := by
  constructor
  · intro h
    unfold escape at h
    split at h
    · contradiction
    next more =>
      split at h
      · contradiction
      next unit after read =>
        obtain ⟨digits, hex, rfl⟩ := hexEscape_eq_ok_iff.1 read
        split at h
        · contradiction
        next notLow =>
          split at h
          next high =>
            split at h
            · contradiction
            next low _ read' =>
              simp only [Except.ok.injEq, Prod.mk.injEq] at h
              obtain ⟨rfl, rfl⟩ := h
              obtain ⟨digits', hex', low, rfl⟩ := lowSurrogate_eq_ok_iff.1 read'
              exact ⟨_, .pair hex hex' (isHighSurrogate_iff.1 high) low, by simp⟩
          next notHigh =>
            simp only [Except.ok.injEq, Prod.mk.injEq] at h
            obtain ⟨rfl, rfl⟩ := h
            rw [isLowSurrogate_iff] at notLow
            rw [isHighSurrogate_iff] at notHigh
            exact ⟨_, .unit hex (by omega), rfl⟩
    next d more _ =>
      split at h
      next meant found =>
        cases h
        exact ⟨[d], .short (shortEscape?_eq_some_iff.1 found), rfl⟩
      · contradiction
  · rintro ⟨spelled, escapes, rfl⟩
    cases escapes with
    | short short =>
      rw [List.singleton_append, escape]
      · simp [shortEscape?_eq_some_iff.2 short]
      · simpa using ne_u_of_short short
    | @unit _ unit hex scalar =>
      have notLow : ¬isLowSurrogate unit = true := by
        rw [isLowSurrogate_iff]
        omega
      have notHigh : ¬isHighSurrogate unit = true := by
        rw [isHighSurrogate_iff]
        omega
      rw [List.cons_append, escape, hexEscape_eq_ok_iff.2 ⟨_, hex, rfl⟩]
      simp [notLow, notHigh]
    | @pair _ _ first _ hex hex' high low =>
      have notLow : ¬isLowSurrogate first = true := by
        rw [isLowSurrogate_iff]
        omega
      rw [List.cons_append, List.append_assoc, escape, hexEscape_eq_ok_iff.2 ⟨_, hex, rfl⟩]
      simp [notLow, isHighSurrogate_iff.2 high, lowSurrogate_eq_ok_iff.2 ⟨_, hex', low, rfl⟩]

inductive StringForm : List Char → Prop
  | nil : StringForm []
  | plain {c : Char} {rest : List Char} : c ≠ '"' → c ≠ '\\' → 0x20 ≤ c.toNat →
      StringForm rest → StringForm (c :: rest)
  | escape {spelled rest : List Char} : EscapeForm spelled → StringForm rest →
      StringForm ('\\' :: (spelled ++ rest))

inductive Means : List Char → List Char → Prop
  | nil : Means [] []
  | plain {c : Char} {rest content : List Char} : c ≠ '"' → c ≠ '\\' → 0x20 ≤ c.toNat →
      Means rest content → Means (c :: rest) (c :: content)
  | escape {spelled rest content : List Char} {c : Char} : Escapes spelled c →
      Means rest content → Means ('\\' :: (spelled ++ rest)) (c :: content)

theorem skipString_escape {text rest : List Char}
    (h : ∃ spelled, EscapeForm spelled ∧ text = spelled ++ rest) :
    skipString ('\\' :: text) = skipString rest := by
  have read := skipEscape_eq_ok_iff.2 h
  rw [skipString, if_neg (by decide), if_pos rfl]
  split
  next failed =>
    rw [read] at failed
    contradiction
  next read' =>
    rw [ok_unique read read']

theorem string_escape {text rest : List Char} {c : Char}
    (h : ∃ spelled, Escapes spelled c ∧ text = spelled ++ rest) :
    string ('\\' :: text) = (string rest).map fun (more, rest) => (c :: more, rest) := by
  have read := escape_eq_ok_iff.2 h
  rw [string, if_neg (by decide), if_pos rfl]
  split
  next failed =>
    rw [read] at failed
    contradiction
  next read' =>
    obtain ⟨rfl, rfl⟩ := Prod.mk.inj (ok_unique read read')
    rfl

theorem skipString_eq_ok_iff {text rest : List Char} :
    skipString text = .ok rest ↔ ∃ body, StringForm body ∧ text = body ++ '"' :: rest := by
  constructor
  · intro h
    fun_induction skipString text with
    | case1 | case3 | case5 => contradiction
    | case2 =>
      cases h
      exact ⟨[], .nil, rfl⟩
    | case4 more _ read _ ih =>
      obtain ⟨spelled, escape, rfl⟩ := skipEscape_eq_ok_iff.1 read
      obtain ⟨body, form, rfl⟩ := ih h
      exact ⟨_, .escape escape form, by simp⟩
    | case6 c more quote backslash printed ih =>
      obtain ⟨body, form, rfl⟩ := ih h
      exact ⟨c :: body, .plain quote backslash (Nat.le_of_not_lt printed) form, rfl⟩
  · rintro ⟨body, form, rfl⟩
    induction form with
    | nil => simp [skipString]
    | plain quote backslash printed _ ih =>
      rw [List.cons_append, skipString, if_neg quote, if_neg backslash,
        if_neg (Nat.not_lt.2 printed)]
      exact ih
    | escape spelled _ ih =>
      rw [List.cons_append, List.append_assoc, skipString_escape ⟨_, spelled, rfl⟩, ih]

theorem string_eq_ok_iff {text rest content : List Char} :
    string text = .ok (content, rest) ↔
      ∃ body, Means body content ∧ text = body ++ '"' :: rest := by
  constructor
  · intro h
    fun_induction string text generalizing content with
    | case1 | case3 | case5 => contradiction
    | case2 =>
      cases h
      exact ⟨[], .nil, rfl⟩
    | case4 more _ _ read _ ih =>
      obtain ⟨⟨_, _⟩, following, pair⟩ := map_eq_ok_iff.1 h
      cases pair
      obtain ⟨spelled, escapes, rfl⟩ := escape_eq_ok_iff.1 read
      obtain ⟨body, means, rfl⟩ := ih following
      exact ⟨_, .escape escapes means, by simp⟩
    | case6 c more quote backslash printed ih =>
      obtain ⟨⟨_, _⟩, following, pair⟩ := map_eq_ok_iff.1 h
      cases pair
      obtain ⟨body, means, rfl⟩ := ih following
      exact ⟨c :: body, .plain quote backslash (Nat.le_of_not_lt printed) means, rfl⟩
  · rintro ⟨body, means, rfl⟩
    induction means with
    | nil => simp [string]
    | plain quote backslash printed _ ih =>
      rw [List.cons_append, string, if_neg quote, if_neg backslash,
        if_neg (Nat.not_lt.2 printed), ih]
      rfl
    | escape escapes _ ih =>
      rw [List.cons_append, List.append_assoc, string_escape ⟨_, escapes, rfl⟩, ih]
      rfl

end Schematron.Json
