import Schematron.Proofs.Xml.Place

/-!
Reading as one loop. A round asks for the line of the position, reads a token and hands it to the
builder; the first fault of either ends the loop, and so does the end of the text. Questions are
kept with their answers.
-/
namespace Schematron.Xml

structure Inquiry where
  counter : LineCounter
  asked : List (Nat × Nat)

namespace Inquiry

def start (bytes : List UInt8) : Inquiry :=
  ⟨.start bytes, []⟩

def ask (position : Nat) (inquiry : Inquiry) : Nat × Inquiry :=
  let (line, counter) := inquiry.counter.lineAt position
  (line, ⟨counter, inquiry.asked ++ [(position, line)]⟩)

/-- The questions so far were asked in rising order, none beyond a position, and answered by the
lines of their positions. -/
structure Upto (bytes : List UInt8) (position : Nat) (inquiry : Inquiry) : Prop where
  counts : inquiry.counter.Counts bytes
  scanned : inquiry.counter.scanned ≤ position
  rising : (inquiry.asked.map Prod.fst).Pairwise (· ≤ ·)
  passed : ∀ question ∈ inquiry.asked, question.1 ≤ position
  right : ∀ question ∈ inquiry.asked, question.2 = lineOf bytes question.1

variable {bytes : List UInt8} {position : Nat} {inquiry : Inquiry}

theorem upto_start (bytes : List UInt8) : (start bytes).Upto bytes 0 where
  counts := LineCounter.counts_start bytes
  scanned := Nat.le_refl 0
  rising := .nil
  passed := nofun
  right := nofun

theorem Upto.mono (h : inquiry.Upto bytes position) {later : Nat} (onward : position ≤ later) :
    inquiry.Upto bytes later :=
  { h with
    scanned := Nat.le_trans h.scanned onward
    passed := fun question member => Nat.le_trans (h.passed question member) onward }

/-- A position that does not lie before the others gets its line. -/
theorem Upto.ask (h : inquiry.Upto bytes position) {later : Nat} (onward : position ≤ later) :
    (inquiry.ask later).1 = lineOf bytes later ∧ (inquiry.ask later).2.Upto bytes later := by
  obtain ⟨line, counts, scanned⟩ := h.counts.lineAt_of_le (Nat.le_trans h.scanned onward)
  have passed := (h.mono onward).passed
  refine ⟨line, counts, ?_, ?_, ?_, ?_⟩
  · exact scanned ▸ Nat.min_le_left _ _
  · simp only [Inquiry.ask, List.map_append, List.map_cons, List.map_nil, List.pairwise_append,
      List.pairwise_singleton, List.mem_singleton, List.forall_mem_map]
    exact ⟨h.rising, trivial, fun question member _ same => same ▸ passed question member⟩
  · exact List.forall_mem_append.2 ⟨passed, List.forall_mem_singleton.2 (Nat.le_refl _)⟩
  · exact List.forall_mem_append.2 ⟨h.right, List.forall_mem_singleton.2 line⟩

theorem Upto.ask_ask (h : inquiry.Upto bytes position) {later : Nat} (onward : position ≤ later) :
    ((inquiry.ask position).2.ask later).1 = (inquiry.counter.lineAt later).1 := by
  obtain ⟨-, between⟩ := h.ask (Nat.le_refl position)
  obtain ⟨alone, -⟩ := h.counts.lineAt_of_le (Nat.le_trans h.scanned onward)
  rw [(between.ask onward).1, alone]

end Inquiry

theorem Builder.of_step_error {numbered : Bool} {builder : Builder} {token : Nat × Token}
    {error : ParseError} (h : builder.step numbered token = .error error) :
    builder.take numbered token.1 token.2 = .error error.cause ∧ error.line = some token.1 := by
  unfold step at h
  split at h
  next => cases h
  next refused =>
    cases h
    exact ⟨refused, rfl⟩

structure Reading where
  lexer : Lexer
  lines : Inquiry
  builder : Builder

inductive Round
  | taken (token : Nat × Token) (next : Reading)
  | ended (lines : Inquiry) (result : Except ParseError Element)

namespace Reading

def start (text : List Char) : Reading :=
  ⟨Lexer.start text, .start (Utf8.encode text), .empty⟩

/-- One round over a text of the given length in bytes. -/
def round (numbered : Bool) (length : Nat) (reading : Reading) : Round :=
  let (line, lines) := reading.lines.ask reading.lexer.position
  match reading.lexer.next with
  | .token token next =>
    match reading.builder.step numbered (line, token) with
    | .ok builder => .taken (line, token) ⟨next, lines, builder⟩
    | .error error => .ended lines (.error error)
  | .failed fault position =>
    let (line, lines) := lines.ask position
    .ended lines (.error ⟨some line, .markup fault⟩)
  | .finished =>
    match reading.builder.finish with
    | .ok root => .ended lines (.ok root)
    | .error cause =>
      let (line, lines) := lines.ask length
      .ended lines (.error ⟨some line, cause⟩)

variable {numbered : Bool} {length : Nat} {reading next : Reading} {token : Nat × Token}
  {lines : Inquiry} {result : Except ParseError Element}

theorem round_eq_taken_iff :
    reading.round numbered length = .taken token next ↔
      reading.lexer.next = .token token.2 next.lexer ∧
        reading.lines.ask reading.lexer.position = (token.1, next.lines) ∧
        reading.builder.step numbered token = .ok next.builder := by
  constructor
  · intro h
    unfold round at h
    dsimp only at h
    split at h
    next found =>
      split at h
      next stepped =>
        cases h
        exact ⟨found, rfl, stepped⟩
      next => cases h
    next => cases h
    next => split at h <;> cases h
  · rintro ⟨found, asked, stepped⟩
    simp only [round, found, asked, stepped]

theorem of_round_ended (h : reading.round numbered length = .ended lines result) :
    let asked := reading.lines.ask reading.lexer.position
    (∃ token next error, reading.lexer.next = .token token next ∧
      reading.builder.step numbered (asked.1, token) = .error error ∧ lines = asked.2 ∧
      result = .error error) ∨
    (∃ fault position, reading.lexer.next = .failed fault position ∧
      lines = (asked.2.ask position).2 ∧
      result = .error ⟨some (asked.2.ask position).1, .markup fault⟩) ∨
    (reading.lexer.next = .finished ∧
      ((∃ root, reading.builder.finish = .ok root ∧ lines = asked.2 ∧ result = .ok root) ∨
        ∃ cause, reading.builder.finish = .error cause ∧ lines = (asked.2.ask length).2 ∧
          result = .error ⟨some (asked.2.ask length).1, cause⟩)) := by
  unfold round at h
  dsimp only at h ⊢
  split at h
  next found =>
    split at h
    next => cases h
    next failed =>
      cases h
      exact .inl ⟨_, _, _, found, failed, rfl, rfl⟩
  next failed =>
    cases h
    exact .inr (.inl ⟨_, _, failed, rfl, rfl⟩)
  next ended =>
    split at h
    next finished =>
      cases h
      exact .inr (.inr ⟨ended, .inl ⟨_, finished, rfl, rfl⟩⟩)
    next unfinished =>
      cases h
      exact .inr (.inr ⟨ended, .inr ⟨_, unfinished, rfl, rfl⟩⟩)

theorem length_round_lt (h : reading.round numbered length = .taken token next) :
    next.lexer.rest.length < reading.lexer.rest.length :=
  Lexer.length_next_lt (round_eq_taken_iff.1 h).1

def run (numbered : Bool) (length : Nat) (reading : Reading) :
    Inquiry × Except ParseError Element :=
  match _h : reading.round numbered length with
  | .taken _ next => next.run numbered length
  | .ended lines result => (lines, result)
termination_by reading.lexer.rest.length
decreasing_by exact length_round_lt _h

theorem run_of_taken (h : reading.round numbered length = .taken token next) :
    reading.run numbered length = next.run numbered length := by
  rw [run]
  split <;> simp_all

theorem run_of_ended (h : reading.round numbered length = .ended lines result) :
    reading.run numbered length = (lines, result) := by
  rw [run]
  split <;> simp_all

inductive Takes (numbered : Bool) (length : Nat) : Reading → List (Nat × Token) → Reading → Prop
  | nil (reading : Reading) : Takes numbered length reading [] reading
  | cons {first second last : Reading} {token : Nat × Token} {rest : List (Nat × Token)} :
      first.round numbered length = .taken token second → Takes numbered length second rest last →
        Takes numbered length first (token :: rest) last

theorem exists_takes (numbered : Bool) (length : Nat) (reading : Reading) :
    ∃ done last lines result, Takes numbered length reading done last ∧
      last.round numbered length = .ended lines result ∧
      reading.run numbered length = (lines, result) := by
  induction reading using Reading.run.induct numbered length with
  | case1 reading token next taken ih =>
    obtain ⟨done, last, lines, result, takes, ended, whole⟩ := ih
    exact ⟨token :: done, last, lines, result, .cons taken takes, ended, by
      rw [run_of_taken taken, whole]⟩
  | case2 reading lines result ended =>
    exact ⟨[], reading, lines, result, .nil reading, ended, run_of_ended ended⟩

structure Within (bytes : List UInt8) (reading : Reading) : Prop where
  lines : reading.lines.Upto bytes reading.lexer.position
  within : reading.lexer.position + Utf8.size reading.lexer.rest ≤ bytes.length

end Reading

theorem Lexer.position_le_of_failed {lexer : Lexer} {fault : MarkupFault} {position : Nat}
    (h : lexer.next = .failed fault position) : lexer.position ≤ position := by
  unfold next nextMarkup at h
  repeat' split at h
  all_goals cases h
  all_goals omega

namespace Reading

variable {numbered : Bool} {bytes : List UInt8} {reading next last : Reading}

/-- A round that takes a token asks for the position and gets its line. -/
theorem Within.round {token : Nat × Token} (h : reading.Within bytes)
    (taken : reading.round numbered bytes.length = .taken token next) :
    token.1 = lineOf bytes reading.lexer.position ∧ next.Within bytes := by
  obtain ⟨found, asked, -⟩ := round_eq_taken_iff.1 taken
  obtain ⟨source, -, split, moved, -⟩ := Lexer.next_stretch found
  obtain ⟨line, lines⟩ := h.lines.ask (Nat.le_refl _)
  rw [asked] at line lines
  have within := h.within
  rw [split, Utf8.size_append] at within
  exact ⟨line, lines.mono (by omega), by omega⟩

/-- After any tokens the positions asked for are those passed. -/
theorem Within.takes {done : List (Nat × Token)} (h : reading.Within bytes)
    (takes : Takes numbered bytes.length reading done last) : last.Within bytes := by
  induction takes with
  | nil => exact h
  | cons taken _ ih => exact ih (h.round taken).2

theorem Within.upto_of_ended {lines : Inquiry} {result : Except ParseError Element}
    (h : reading.Within bytes)
    (ended : reading.round numbered bytes.length = .ended lines result) :
    ∃ position, lines.Upto bytes position := by
  obtain ⟨-, passed⟩ := h.lines.ask (Nat.le_refl _)
  have inside : reading.lexer.position ≤ bytes.length := Nat.le_of_add_right_le h.within
  rcases of_round_ended ended with ⟨_, _, _, -, -, rfl, -⟩ | ⟨fault, position, failed, rfl, -⟩ |
    ⟨-, ⟨_, -, rfl, -⟩ | ⟨_, -, rfl, -⟩⟩
  · exact ⟨_, passed⟩
  · exact ⟨_, (passed.ask (Lexer.position_le_of_failed failed)).2⟩
  · exact ⟨_, passed⟩
  · exact ⟨_, (passed.ask inside).2⟩

theorem within_start (text : List Char) : (start text).Within (Utf8.encode text) := by
  have sizes : Utf8.size (Lexer.start text).rest ≤ Utf8.size text := by
    unfold Lexer.start
    split
    · exact Nat.le_add_left _ _
    · exact Nat.le_refl _
  have origin : (Lexer.start text).position = 0 := by
    unfold Lexer.start
    split <;> rfl
  refine ⟨?_, ?_⟩
  · rw [start, origin]
    exact Inquiry.upto_start _
  · rw [start, origin, Utf8.length_encode, Nat.zero_add]
    exact sizes

/-- The result where all tokens are read and get their lines before the builder gets the first. -/
def outcome (numbered : Bool) (length : Nat) (reading : Reading) : Except ParseError Element := do
  let (tokens, counter) := numberTokens reading.lines.counter reading.lexer.run.tokens
  let builder ← tokens.foldlM (Builder.step numbered) reading.builder
  match reading.lexer.run.ending with
  | .failed fault position => throw ⟨some (counter.lineAt position).1, .markup fault⟩
  | .finished _ =>
    builder.finish.mapError fun cause => ⟨some (counter.lineAt length).1, cause⟩

theorem outcome_of_rest_nil (numbered : Bool) (length : Nat) (h : reading.lexer.rest = []) :
    reading.outcome numbered length = reading.builder.finish.mapError
      fun cause => ⟨some (reading.lines.counter.lineAt length).1, cause⟩ := by
  simp only [outcome, Lexer.run_of_rest_nil h]
  rfl

/-- Since the lines do not depend on the questions before, both give the same. -/
theorem Within.run_eq (h : reading.Within bytes) :
    (reading.run numbered bytes.length).2 = reading.outcome numbered bytes.length := by
  induction reading using Reading.run.induct numbered bytes.length with
  | case1 reading token next taken ih =>
    obtain ⟨found, asked, stepped⟩ := round_eq_taken_iff.1 taken
    -- Both sides ask for this line with the same counter, and go on with what it leaves.
    have line : reading.lines.counter.lineAt reading.lexer.position =
        (token.1, next.lines.counter) := by
      have line := congrArg Prod.fst asked
      have counter := congrArg (·.2.counter) asked
      exact Prod.ext line counter
    rw [run_of_taken taken, ih (h.round taken).2]
    simp only [outcome, Lexer.run_of_next found, numberTokens, line, List.foldlM_cons, stepped]
    rfl
  | case2 reading lines result ended =>
    have inside : reading.lexer.position ≤ bytes.length := Nat.le_of_add_right_le h.within
    rw [run_of_ended ended]
    rcases of_round_ended ended with ⟨token, next, error, found, failed, -, rfl⟩ |
      ⟨fault, position, failed, -, rfl⟩ | ⟨finished, closing⟩
    · have line : (reading.lines.ask reading.lexer.position).1 =
          (reading.lines.counter.lineAt reading.lexer.position).1 := rfl
      rw [line] at failed
      simp only [outcome, Lexer.run_of_next found, numberTokens, List.foldlM_cons, failed]
      rfl
    · have onward := Lexer.position_le_of_failed failed
      rw [h.lines.ask_ask onward]
      simp only [outcome, Lexer.run_of_failed failed]
      rfl
    · have stopped := Lexer.next_eq_finished_iff.1 finished
      rcases closing with ⟨root, finish, -, rfl⟩ | ⟨cause, finish, -, rfl⟩
      · rw [outcome_of_rest_nil _ _ stopped, finish]
        rfl
      · rw [outcome_of_rest_nil _ _ stopped, finish, h.lines.ask_ask inside]
        rfl

end Reading

namespace Document

def reading (text : String) : Reading :=
  .start (dropMark text.toList)

def length (text : String) : Nat :=
  (Utf8.encode (dropMark text.toList)).length

theorem parse_eq_run (text : String) (numbered : Bool) :
    parse text numbered = ((reading text).run numbered (length text)).2.map ofRoot := by
  rw [reading, length, (Reading.within_start (dropMark text.toList)).run_eq]
  rfl

end Document
end Schematron.Xml
