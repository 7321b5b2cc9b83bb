import Mathlib.Data.List.TakeWhile
import Parsing.Proofs.Literals

/-!
# Runs of a character class

`word`, `upperWord`, `anyWord`, `digits` and `spaces` repeat a parser of one character class.
`ReadsClass` says what such a parser does: where the input goes on with a character of the class
it reads a piece of the run of the class off the front, and elsewhere it fails recoverably where
it stands. Repeated, such a parser reads the whole run, because each pass of the loop takes a
piece off the run and the loop stops exactly where the run ends. Where there is no run the
repetition fails with the error of the parser it repeats, so the error of a class parser decides
what `word` and the others report.
-/

namespace Parsing

set_option autoImplicit false

variable {text : Array Char}

namespace Stream

theorem run_eq_nil_iff {accepts : Char → Bool} (s : Stream text) :
    s.rest.takeWhile accepts = [] ↔ ∀ c, s.peek = some c → accepts c = false := by
  rw [peek_eq_head_rest]
  cases s.rest with
  | nil => simp
  | cons c tail => by_cases accepted : accepts c <;> simp [accepted]

theorem run_ne_nil_iff {accepts : Char → Bool} (s : Stream text) :
    s.rest.takeWhile accepts ≠ [] ↔ ∃ c, s.peek = some c ∧ accepts c = true := by
  rw [Ne, run_eq_nil_iff]
  simp

theorem rest_of_read {s next : Stream text} {read after : List Char}
    (restAt : s.rest = read ++ after) (moved : next.offset = s.offset + read.length) :
    next.rest = after := by
  rw [rest_eq_drop (s := s) (by omega), restAt, moved, Nat.add_sub_cancel_left, List.drop_left]

theorem offset_of_rest {s next : Stream text} {read : List Char}
    (restAt : s.rest = read ++ next.rest) : next.offset = s.offset + read.length := by
  have lengths := congrArg List.length restAt
  have before := s.offset_le
  have after := next.offset_le
  simp only [rest, List.length_drop, Array.length_toList, List.length_append] at lengths
  omega

theorem rest_ofString (input : String) : (ofString input).rest = input.toList := by
  simp [ofString, start, rest]

theorem run_of_read {accepts : Char → Bool} {s next : Stream text} {read after : List Char}
    (inClass : ∀ c ∈ read, accepts c = true) (restAt : s.rest = read ++ after)
    (moved : next.offset = s.offset + read.length) :
    s.rest.takeWhile accepts = read ++ next.rest.takeWhile accepts := by
  rw [restAt, List.takeWhile_append_of_pos inClass, rest_of_read restAt moved]

end Stream

namespace Parser

/-- `p` reads text of the class `accepts`. Where the input goes on with a character of the class,
`p` reads a non-empty piece of the class off the front and gives it as its value; elsewhere it
fails recoverably, where it stands. -/
structure ReadsClass (accepts : Char → Bool) (p : Parser String) : Prop where
  ok_of_run : ∀ {text : Array Char} (s : Stream text), s.rest.takeWhile accepts ≠ [] →
    ∃ piece after, piece ≠ [] ∧ (∀ c ∈ piece, accepts c = true) ∧ s.rest = piece ++ after ∧
      ∃ next : Stream text, next.offset = s.offset + piece.length ∧
        p.parse s = .ok (next, String.ofList piece)
  error_of_no_run : ∀ {text : Array Char} (s : Stream text), s.rest.takeWhile accepts = [] →
    ∃ e, p.parse s = .error e ∧ e.isFatal = false ∧ e.position = s.offset

/-! ## One character of a class -/

theorem satisfy_parse_of_no_run {accepts : Char → Bool} (expected : String) {s : Stream text}
    (noRun : s.rest.takeWhile accepts = []) :
    (satisfy accepts expected).parse s =
      .error (if s.offset < text.size then .failure s.offset expected
        else .endOfInput s.offset expected) := by
  have rejected := (Stream.run_eq_nil_iff s).mp noRun
  cases peeked : s.peek with
  | none =>
      have atEnd := (Stream.isEof_iff s).mp ((Stream.peek_eq_none_iff s).mp peeked)
      simp [satisfy, predicate, peeked, atEnd]
  | some c =>
      have inside := Stream.offset_lt_of_peek peeked
      simp [satisfy, predicate, peeked, rejected c peeked, inside]

theorem satisfy_parse_of_rest {accepts : Char → Bool} (expected : String) {s : Stream text}
    {c : Char} {after : List Char} (restAt : s.rest = c :: after) (accepted : accepts c = true) :
    (satisfy accepts expected).parse s = .ok (s.advance, c.toString) := by
  have peeked : s.peek = some c := by rw [Stream.peek_eq_head_rest, restAt]; rfl
  simp [satisfy, predicate, peeked, accepted]

theorem char_parse_of_rest {c : Char} {s : Stream text} {after : List Char}
    (restAt : s.rest = c :: after) :
    ∃ next : Stream text, next.rest = after ∧ (char c).parse s = .ok (next, c.toString) :=
  ⟨s.advance, (Stream.advance_of_rest_eq_cons restAt).2, char_parse_of_head (by rw [restAt]; rfl)⟩

theorem char_parse_eq_ok {c : Char} {s next : Stream text} {v : String}
    (run : (char c).parse s = .ok (next, v)) : s.rest = c :: next.rest ∧ v = c.toString := by
  obtain ⟨d, peeked, same, rfl, rfl⟩ := predicate_parse_eq_ok run
  have equal : d = c := by simpa using same
  subst equal
  obtain ⟨tail, restAt⟩ := List.head?_eq_some_iff.mp (Stream.peek_eq_head_rest s ▸ peeked)
  exact ⟨by rw [restAt, (Stream.advance_of_rest_eq_cons restAt).2], rfl⟩

theorem satisfy_reads_class (accepts : Char → Bool) (expected : String) :
    (satisfy accepts expected).ReadsClass accepts := by
  constructor
  · intro text s running
    obtain ⟨c, peeked, accepted⟩ := (Stream.run_ne_nil_iff s).mp running
    obtain ⟨tail, restAt⟩ := List.head?_eq_some_iff.mp (Stream.peek_eq_head_rest s ▸ peeked)
    have inside := Stream.offset_lt_of_peek peeked
    refine ⟨[c], tail, List.cons_ne_nil c [], by simpa using accepted, restAt, s.advance,
      Stream.offset_advance_of_lt s inside, ?_⟩
    simp [satisfy, predicate, peeked, accepted]
  · intro text s noRun
    rw [satisfy_parse_of_no_run expected noRun]
    refine ⟨_, rfl, ?_, ?_⟩ <;> split <;> rfl

theorem alt_reads_class {accepts accepts' : Char → Bool} {p q : Parser String}
    (first : p.ReadsClass accepts) (second : q.ReadsClass accepts') :
    (alt p q).ReadsClass (fun c => accepts c || accepts' c) := by
  constructor
  · intro text s running
    obtain ⟨c, peeked, accepted⟩ := (Stream.run_ne_nil_iff s).mp running
    by_cases inFirst : accepts c = true
    · obtain ⟨piece, after, present, inClass, restAt, next, moved, run⟩ :=
        first.ok_of_run s ((Stream.run_ne_nil_iff s).mpr ⟨c, peeked, inFirst⟩)
      refine ⟨piece, after, present, fun d member => by simp [inClass d member], restAt, next,
        moved, ?_⟩
      rw [alt_parse_of_settles (by rw [run]; rfl), run]
    · -- the first class misses the next character, so only the second can read it
      have noFirst : s.rest.takeWhile accepts = [] := by
        rw [Stream.run_eq_nil_iff]
        intro d peekedAt
        rw [peeked, Option.some.injEq] at peekedAt
        subst peekedAt
        simpa using inFirst
      have inSecond : accepts' c = true := by simpa [inFirst] using accepted
      obtain ⟨e, failed, recoverable, -⟩ := first.error_of_no_run s noFirst
      obtain ⟨piece, after, present, inClass, restAt, next, moved, run⟩ :=
        second.ok_of_run s ((Stream.run_ne_nil_iff s).mpr ⟨c, peeked, inSecond⟩)
      refine ⟨piece, after, present, fun d member => by simp [inClass d member], restAt, next,
        moved, ?_⟩
      rw [alt_parse_of_second_settles failed recoverable (by rw [run]; rfl), run]
  · intro text s noRun
    have rejected := (Stream.run_eq_nil_iff s).mp noRun
    have noFirst : s.rest.takeWhile accepts = [] := (Stream.run_eq_nil_iff s).mpr fun c peeked =>
      (Bool.or_eq_false_iff.mp (rejected c peeked)).1
    have noSecond : s.rest.takeWhile accepts' = [] := (Stream.run_eq_nil_iff s).mpr fun c peeked =>
      (Bool.or_eq_false_iff.mp (rejected c peeked)).2
    obtain ⟨e₁, firstFails, firstRecoverable, firstAt⟩ := first.error_of_no_run s noFirst
    obtain ⟨e₂, secondFails, secondRecoverable, secondAt⟩ := second.error_of_no_run s noSecond
    refine ⟨e₁.either e₂, alt_parse_of_recoverable firstFails firstRecoverable secondFails
      secondRecoverable, rfl, ?_⟩
    simp [ParseError.either, firstAt, secondAt]

theorem any_letter_reads_class : anyLetter.ReadsClass Char.isAlpha := by
  have union : (fun c => c.isLower || c.isUpper) = Char.isAlpha := by
    funext c
    -- `isAlpha` is `isUpper || isLower` by definition
    exact Bool.or_comm c.isLower c.isUpper
  rw [← union]
  exact alt_reads_class (satisfy_reads_class _ _) (satisfy_reads_class _ _)

/-! ## Repetition of a class parser -/

theorem stops_at_of_rest_eq_nil {α : Type} {p : Parser α} {s : Stream text} (ended : s.rest = []) :
    StopsAt p s :=
  .inl ((Stream.isEof_iff s).mpr ((Stream.rest_eq_nil_iff s).mp ended))

section Repetition

variable {accepts : Char → Bool} {p : Parser String} (reads : p.ReadsClass accepts)
include reads

theorem greedy_pass_of_no_run {current : Stream text}
    (noRun : current.rest.takeWhile accepts = []) (acc : String) :
    greedyPass Monoid.text p current acc = .exit (.ok (current, acc)) := by
  by_cases inside : current.offset < text.size
  · obtain ⟨e, failed, recoverable, -⟩ := reads.error_of_no_run current noRun
    rw [greedy_pass_of_error inside failed, recoverable]
    rfl
  · exact greedy_pass_of_end (Nat.le_of_not_lt inside)

theorem greedy_pass_of_run {current : Stream text}
    (running : current.rest.takeWhile accepts ≠ []) (acc : String) :
    ∃ piece, ∃ next : Stream text, next.offset = current.offset + piece.length ∧
      current.rest.takeWhile accepts = piece ++ next.rest.takeWhile accepts ∧
      greedyPass Monoid.text p current acc = .proceed next (acc ++ String.ofList piece) := by
  obtain ⟨piece, after, present, inClass, restAt, next, moved, run⟩ := reads.ok_of_run current running
  have longer : 0 < piece.length := List.length_pos_iff.mpr present
  have inside : current.offset < text.size := by
    have bounded := next.offset_le
    omega
  refine ⟨piece, next, moved, Stream.run_of_read inClass restAt moved, ?_⟩
  exact greedy_pass_of_progress inside run (by omega)

theorem greedy_from_reads_run (current : Stream text) (acc : String) :
    ∃ last : Stream text, last.offset = current.offset + (current.rest.takeWhile accepts).length ∧
      greedyFrom Monoid.text p current acc =
        .ok (last, acc ++ String.ofList (current.rest.takeWhile accepts)) := by
  apply greedy_from_induction Monoid.text p (fun current acc outcome =>
    ∃ last : Stream text, last.offset = current.offset + (current.rest.takeWhile accepts).length ∧
      outcome = .ok (last, acc ++ String.ofList (current.rest.takeWhile accepts)))
  · intro current acc outcome leaving
    -- a pass leaves the loop only where no run starts
    by_cases noRun : current.rest.takeWhile accepts = []
    · rw [greedy_pass_of_no_run reads noRun] at leaving
      cases leaving
      refine ⟨current, by simp [noRun], ?_⟩
      simp [noRun]
    · obtain ⟨_, _, _, _, going⟩ := greedy_pass_of_run reads noRun acc
      rw [going] at leaving
      cases leaving
  · intro current acc next acc' going later
    by_cases noRun : current.rest.takeWhile accepts = []
    · rw [greedy_pass_of_no_run reads noRun] at going
      cases going
    · obtain ⟨piece, next', moved, split, going'⟩ := greedy_pass_of_run reads noRun acc
      rw [going'] at going
      cases going
      obtain ⟨last, lastOffset, loop⟩ := later
      refine ⟨last, ?_, ?_⟩
      · rw [lastOffset, moved, split, List.length_append]
        omega
      · rw [loop, split, String.ofList_append, String.append_assoc]

/-- Where a run starts, the repetition reads all of it. -/
theorem greedy_reads_run {s : Stream text} (running : s.rest.takeWhile accepts ≠ []) :
    ∃ next : Stream text, next.offset = s.offset + (s.rest.takeWhile accepts).length ∧
      (greedy Monoid.text p).parse s = .ok (next, String.ofList (s.rest.takeWhile accepts)) := by
  obtain ⟨piece, after, present, inClass, restAt, next, moved, run⟩ := reads.ok_of_run s running
  have longer : 0 < piece.length := List.length_pos_iff.mpr present
  obtain ⟨last, lastOffset, loop⟩ := greedy_from_reads_run reads next (String.ofList piece)
  have split := Stream.run_of_read inClass restAt moved
  refine ⟨last, ?_, ?_⟩
  · rw [lastOffset, moved, split, List.length_append]
    omega
  · rw [greedy_parse_of_progress run (by omega), loop, split, String.ofList_append]

theorem greedy_parse_of_no_run {s : Stream text} (noRun : s.rest.takeWhile accepts = []) :
    (greedy Monoid.text p).parse s = p.parse s := by
  obtain ⟨e, failed, -, -⟩ := reads.error_of_no_run s noRun
  rw [greedy_parse_of_error failed, failed]

theorem greedy_reads_class : (greedy Monoid.text p).ReadsClass accepts := by
  constructor
  · intro text s running
    obtain ⟨next, moved, run⟩ := greedy_reads_run reads running
    refine ⟨_, s.rest.dropWhile accepts, running, fun c member => List.mem_takeWhile_imp member,
      List.takeWhile_append_dropWhile.symm, next, moved, run⟩
  · intro text s noRun
    rw [greedy_parse_of_no_run reads noRun]
    exact reads.error_of_no_run s noRun

theorem greedy_parse_eq_ok_of_class {s next : Stream text} {v : String}
    (run : (greedy Monoid.text p).parse s = .ok (next, v)) :
    v.toList = s.rest.takeWhile accepts ∧ v.toList ≠ [] ∧ s.rest = v.toList ++ next.rest := by
  by_cases noRun : s.rest.takeWhile accepts = []
  · obtain ⟨e, failed, -, -⟩ := reads.error_of_no_run s noRun
    rw [greedy_parse_of_no_run reads noRun, failed] at run
    cases run
  · obtain ⟨next', moved, run'⟩ := greedy_reads_run reads noRun
    rw [run'] at run
    cases run
    have restAt : s.rest = s.rest.takeWhile accepts ++ s.rest.dropWhile accepts :=
      List.takeWhile_append_dropWhile.symm
    rw [String.toList_ofList]
    exact ⟨rfl, noRun, by rw [Stream.rest_of_read restAt moved]; exact restAt⟩

theorem greedy_parse_eq_ok_in_class {s next : Stream text} {v : String}
    (run : (greedy Monoid.text p).parse s = .ok (next, v)) :
    v.toList ≠ [] ∧ (∀ c ∈ v.toList, accepts c = true) ∧ s.rest = v.toList ++ next.rest := by
  obtain ⟨whole, present, restAt⟩ := greedy_parse_eq_ok_of_class reads run
  refine ⟨present, fun c member => ?_, restAt⟩
  rw [whole] at member
  exact List.mem_takeWhile_imp member

theorem greedy_parse_of_exact_run {s : Stream text} {read after : List Char} (present : read ≠ [])
    (inClass : ∀ c ∈ read, accepts c = true) (stops : ∀ c, after.head? = some c → accepts c = false)
    (restAt : s.rest = read ++ after) :
    ∃ next : Stream text, next.rest = after ∧
      (greedy Monoid.text p).parse s = .ok (next, String.ofList read) := by
  have whole : s.rest.takeWhile accepts = read := by
    rw [restAt, List.takeWhile_append_of_pos inClass]
    cases after with
    | nil => simp
    | cons c tail => simp [stops c rfl]
  obtain ⟨next, moved, run⟩ := greedy_reads_run reads (by rw [whole]; exact present)
  rw [whole] at moved run
  exact ⟨next, Stream.rest_of_read restAt moved, run⟩

end Repetition

/-! ## The library's runs -/

/-- What a parser of maximal runs of the class `accepts` does from any stream: where the next
character is in the class, it reads the whole run of the class that starts there and gives it as
its value; elsewhere it fails where it stands, with a plain failure inside the input and with an
error of kind `atEnd` at its end. -/
def TakesMaximalRuns (accepts : Char → Bool) (atEnd : ErrorKind) (p : Parser String) : Prop :=
  ∀ {text : Array Char} (s : Stream text),
    (∀ c, s.peek = some c → accepts c = true →
      ∃ next : Stream text, next.offset = s.offset + (s.rest.takeWhile accepts).length ∧
        p.parse s = .ok (next, String.ofList (s.rest.takeWhile accepts))) ∧
    ((∀ c, s.peek = some c → accepts c = false) →
      ∃ e, p.parse s = .error e ∧ e.position = s.offset ∧
        e.kind = if s.offset < text.size then .parseFailure else atEnd)

theorem greedy_takes_maximal_runs {accepts : Char → Bool} {atEnd : ErrorKind} {p : Parser String}
    (reads : p.ReadsClass accepts)
    (failsAs : ∀ {text : Array Char} (s : Stream text) (e : ParseError),
      s.rest.takeWhile accepts = [] → p.parse s = .error e →
        e.kind = if s.offset < text.size then .parseFailure else atEnd) :
    TakesMaximalRuns accepts atEnd (greedy Monoid.text p) := by
  intro text s
  constructor
  · intro c peeked accepted
    exact greedy_reads_run reads ((Stream.run_ne_nil_iff s).mpr ⟨c, peeked, accepted⟩)
  · intro rejected
    have noRun := (Stream.run_eq_nil_iff s).mpr rejected
    obtain ⟨e, failed, -, position⟩ := reads.error_of_no_run s noRun
    refine ⟨e, ?_, position, failsAs s e noRun failed⟩
    rw [greedy_parse_of_no_run reads noRun, failed]

theorem greedy_satisfy_takes_maximal_runs (accepts : Char → Bool) (expected : String) :
    TakesMaximalRuns accepts .endOfInput (greedy Monoid.text (satisfy accepts expected)) := by
  apply greedy_takes_maximal_runs (satisfy_reads_class accepts expected)
  intro text s e noRun failed
  rw [satisfy_parse_of_no_run expected noRun, Except.error.injEq] at failed
  subst failed
  split <;> rfl

/-- Each run parser of the library reads the maximal run of its class: lower-case letters,
upper-case letters, letters of either case, decimal digits and ASCII white space. Where the next
character is outside the class it fails where it stands and never fatally: with a plain failure
inside the input, and at its end with the end of input, except `anyWord`, whose choice of two
letter classes joins their two ends of input into a plain failure. -/
theorem class_parsers_take_maximal_runs :
    TakesMaximalRuns Char.isLower .endOfInput word ∧
    TakesMaximalRuns Char.isUpper .endOfInput upperWord ∧
    TakesMaximalRuns Char.isAlpha .parseFailure anyWord ∧
    TakesMaximalRuns Char.isDigit .endOfInput digits ∧
    TakesMaximalRuns isAsciiSpace .endOfInput spaces := by
  refine ⟨greedy_satisfy_takes_maximal_runs _ _, greedy_satisfy_takes_maximal_runs _ _, ?_,
    greedy_satisfy_takes_maximal_runs _ _, greedy_satisfy_takes_maximal_runs _ _⟩
  apply greedy_takes_maximal_runs any_letter_reads_class
  intro text s e noRun failed
  -- both letter classes fail recoverably, and a failed choice is a plain failure
  have recoverable := any_letter_never_fatal.error_not_fatal failed
  rw [alt_error_kind failed recoverable, ite_self]

end Parser

end Parsing
