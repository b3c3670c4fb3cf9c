import Schematron.Proofs.Xml.Loop

/-!
What a counter of lines is asked. It reads its bytes once and looks at one byte behind those it has
passed; questions in rising order may still part line ends or characters, or stand behind the end.
-/
namespace Schematron.Xml

/-- The places of the last bytes of line ends, the first byte being at a position. A carriage return
and the line feed after it end one line. -/
def lineStops (position : Nat) : List UInt8 → List Nat
  | [] => []
  | 0x0D :: 0x0A :: rest => (position + 1) :: lineStops (position + 2) rest
  | b :: rest =>
    if b = 0x0A ∨ b = 0x0D then position :: lineStops (position + 1) rest
    else lineStops (position + 1) rest

theorem lineStops_cons (position : Nat) (b : UInt8) (rest : List UInt8) :
    lineStops position (b :: rest) =
      (if endsLine b rest then [position] else []) ++ lineStops (position + 1) rest := by
  by_cases pair : b = 0x0D ∧ rest.head? = some 0x0A
  · obtain ⟨rfl, feed⟩ := pair
    obtain ⟨rest, rfl⟩ := List.head?_eq_some_iff.1 feed
    simp [lineStops, endsLine]
  · rw [lineStops]
    · by_cases single : b = 0x0D <;> by_cases feed : b = 0x0A <;> simp_all [endsLine]
    · rintro rest rfl rfl
      exact pair ⟨rfl, rfl⟩

theorem le_of_mem_lineStops {position stop : Nat} {bytes : List UInt8}
    (member : stop ∈ lineStops position bytes) : position ≤ stop := by
  induction bytes generalizing position with
  | nil => contradiction
  | cons b rest ih =>
    rw [lineStops_cons, List.mem_append] at member
    rcases member with here | later
    · split at here
      · exact Nat.le_of_eq (List.mem_singleton.1 here).symm
      · contradiction
    · exact Nat.le_of_succ_le (ih later)

theorem countP_lineStops (position offset : Nat) (bytes : List UInt8) :
    (lineStops position bytes).countP (· < position + offset) = lineEnds offset bytes := by
  induction bytes generalizing position offset with
  | nil => cases offset <;> rfl
  | cons b rest ih =>
    cases offset with
    | zero =>
      rw [lineEnds, List.countP_eq_zero]
      intro stop member
      simpa using le_of_mem_lineStops member
    | succ offset =>
      have later := ih (position + 1) offset
      rw [Nat.add_right_comm, Nat.add_assoc] at later
      rw [lineStops_cons, List.countP_append, later, lineEnds]
      split <;> simp

namespace LineCounter

def answers (counter : LineCounter) : List Nat → List Nat
  | [] => []
  | offset :: rest =>
    let (line, counter) := counter.lineAt offset
    line :: counter.answers rest

variable {bytes : List UInt8} {counter : LineCounter}

/-- Questions that do not go back get the lines of their positions. -/
theorem Counts.answers_eq (counts : counter.Counts bytes) {offsets : List Nat}
    (rising : (counter.scanned :: offsets).Pairwise (· ≤ ·)) :
    counter.answers offsets = offsets.map (lineOf bytes) := by
  induction offsets generalizing counter with
  | nil => rfl
  | cons offset rest ih =>
    rw [List.pairwise_cons, List.forall_mem_cons, List.pairwise_cons] at rising
    obtain ⟨⟨onward, -⟩, later, rising⟩ := rising
    obtain ⟨line, counts, scanned⟩ := counts.lineAt_of_le onward
    have passed : ∀ other ∈ rest, (counter.lineAt offset).2.scanned ≤ other := by
      intro other member
      rw [scanned]
      exact Nat.le_trans (Nat.min_le_left _ _) (later other member)
    have following := ih counts (List.pairwise_cons.2 ⟨passed, rising⟩)
    simp only [answers, List.map_cons, line, following]

theorem lineAt_start (bytes : List UInt8) (offset : Nat) :
    ((start bytes).lineAt offset).1 = lineOf bytes offset :=
  ((counts_start bytes).lineAt_of_le (Nat.zero_le offset)).1

end LineCounter

/-- Where the last round asks for the line of a fault: where the token begins that is refused, where
the lexer stands when it can read none, or behind the text. -/
def Reading.stop (length : Nat) (reading : Reading) : Nat :=
  match reading.lexer.next with
  | .token _ _ => reading.lexer.position
  | .failed _ position => position
  | .finished => length

namespace Document

def questions (text : String) (numbered : Bool) : List (Nat × Nat) :=
  ((reading text).run numbered (length text)).1.asked

theorem exists_upto (text : String) (numbered : Bool) :
    ∃ position, ((reading text).run numbered (length text)).1.Upto
      (Utf8.encode (dropMark text.toList)) position := by
  obtain ⟨done, last, lines, result, takes, ended, whole⟩ :=
    Reading.exists_takes numbered (length text) (reading text)
  rw [whole]
  exact ((Reading.within_start (dropMark text.toList)).takes takes).upto_of_ended ended

theorem exists_getLast?_questions {text : String} {numbered : Bool} {error : ParseError}
    (failed : parse text numbered = .error error) :
    ∃ done reached lines line,
      Reading.Takes numbered (length text) (reading text) done reached ∧
        reached.round numbered (length text) = .ended lines (.error error) ∧
        (questions text numbered).getLast? = some (reached.stop (length text), line) ∧
        error.line = some line := by
  obtain ⟨done, last, lines, result, takes, ended, whole⟩ :=
    Reading.exists_takes numbered (length text) (reading text)
  rw [parse_eq_run, whole] at failed
  rw [questions, whole]
  rcases Reading.of_round_ended ended with ⟨token, next, refused, found, stepped, rfl, rfl⟩ |
    ⟨fault, position, found, rfl, rfl⟩ | ⟨found, ⟨root, -, -, rfl⟩ | ⟨cause, -, rfl, rfl⟩⟩
  · cases failed
    refine ⟨done, last, _, _, takes, ended, ?_, (Builder.of_step_error stepped).2⟩
    rw [Reading.stop, found]
    exact List.getLast?_concat
  · cases failed
    refine ⟨done, last, _, _, takes, ended, ?_, rfl⟩
    rw [Reading.stop, found]
    exact List.getLast?_concat
  · cases failed
  · cases failed
    refine ⟨done, last, _, _, takes, ended, ?_, rfl⟩
    rw [Reading.stop, found]
    exact List.getLast?_concat

/-- A line does not depend on the questions before it. Asked in rising order, a counter answers each
question as a new counter would, by one more than the number of line ends whose last byte stands
before the position. While a document is read round by round, and that is how it is read, lines are
asked for in rising order; the last one is asked for where the last round stops, and it is the line
of a fault. -/
theorem lines_independent_of_questions (bytes : List UInt8) {offsets : List Nat}
    (rising : offsets.Pairwise (· ≤ ·)) (text : String) (numbered : Bool) :
    (LineCounter.start bytes).answers offsets =
        offsets.map (fun offset => ((LineCounter.start bytes).lineAt offset).1) ∧
      (∀ offset, ((LineCounter.start bytes).lineAt offset).1 =
        1 + (lineStops 0 bytes).countP (· < offset)) ∧
      parse text numbered = ((reading text).run numbered (length text)).2.map ofRoot ∧
      ((questions text numbered).map Prod.fst).Pairwise (· ≤ ·) ∧
      (∀ question ∈ questions text numbered, question.2 =
        ((LineCounter.start (Utf8.encode (dropMark text.toList))).lineAt question.1).1) ∧
      ∀ error, parse text numbered = .error error → ∃ done reached lines line,
        Reading.Takes numbered (length text) (reading text) done reached ∧
          reached.round numbered (length text) = .ended lines (.error error) ∧
          (questions text numbered).getLast? = some (reached.stop (length text), line) ∧
          error.line = some line := by
  obtain ⟨position, upto⟩ := exists_upto text numbered
  have onward : ((LineCounter.start bytes).scanned :: offsets).Pairwise (· ≤ ·) :=
    List.pairwise_cons.2 ⟨fun offset _ => Nat.zero_le offset, rising⟩
  refine ⟨?answers, ?counted, parse_eq_run text numbered, upto.rising, ?asked, ?fault⟩
  case answers =>
    rw [(LineCounter.counts_start bytes).answers_eq onward]
    exact List.map_congr_left fun offset _ => (LineCounter.lineAt_start bytes offset).symm
  case counted =>
    intro offset
    have counted := countP_lineStops 0 offset bytes
    rw [Nat.zero_add] at counted
    rw [LineCounter.lineAt_start, lineOf, counted]
  case asked =>
    intro question member
    rw [LineCounter.lineAt_start]
    exact upto.right question member
  case fault => exact fun error failed => exists_getLast?_questions failed

theorem lines_independent_of_questions_parted :
    [0, 2, 2, 3, 4, 5, 9].Pairwise (· ≤ ·) ∧
      (LineCounter.start (Utf8.encode "a\r\n\ré".toList)).answers [0, 2, 2, 3, 4, 5, 9] =
        [1, 1, 1, 2, 3, 3, 3] ∧
      ((questions "<a>\r\n</b\n>" true).map Prod.fst).Pairwise (· ≤ ·) ∧
      ∃ error reached line, parse "<a>\r\n</b\n>" true = .error error ∧
        (questions "<a>\r\n</b\n>" true).getLast? =
          some (Reading.stop (length "<a>\r\n</b\n>") reached, line) ∧
        error.line = some line := by
  have rising : [0, 2, 2, 3, 4, 5, 9].Pairwise (· ≤ ·) := by decide
  have refused : parse "<a>\r\n</b\n>" true =
      .error ⟨some 3, .markup (.mismatchedEnd ['a'] ['b'])⟩ := by decide +kernel
  obtain ⟨answers, counted, -, asked, -, fault⟩ :=
    lines_independent_of_questions (Utf8.encode "a\r\n\ré".toList) rising "<a>\r\n</b\n>" true
  obtain ⟨-, reached, -, line, -, -, last, placed⟩ := fault _ refused
  refine ⟨rising, ?_, asked, _, reached, line, refused, last, placed⟩
  rw [answers]
  simp only [counted]
  decide +kernel

end Document
end Schematron.Xml
