import Parsing.Proofs.Repetition
import Parsing.Proofs.Combinators

/-!
# Repetition as recursion

The loop of `greedy` gathers values from the left as it goes. Said recursively, a repetition is
one run of the parser, followed, where input is left, by a repetition from where that run
stopped, whose value goes after the first; a fatal error of the rest is passed on, and a
recoverable one leaves the first run alone. At a lawful monoid the loop and the recursion agree
on every stream, because the loop can take what it has gathered out in front
(`greedy_from_combine`), and the loop never fails recoverably (`greedy_from_error_fatal`).

Read through the loop's own induction, a success also says what was read: a run of successes of
the parser, each consuming, that stops at the end of the input or where the parser fails
recoverably, and whose values combine, in order, to the result. Since such a run already reads
as far as the parser can go, repeating a repetition changes nothing (`greedy_is_idempotent`).
-/

namespace Parsing

namespace Parser

set_option autoImplicit false

variable {α β : Type} {text : Array Char}

def afterFirstRun (m : Monoid α) (next : Stream text) (a : α) :
    Outcome text α → Outcome text α
  | .ok (last, b) => .ok (last, m.combine a b)
  | .error e => if e.isFatal then .error e else .ok (next, a)

/-- One or more runs of `p`, said by recursion on what is left of the input. A run that consumed
nothing is a fatal error where it started; after one that consumed, the repetition from where it
stopped follows, unless the input has ended there. -/
def repeatOneOrMore (m : Monoid α) (p : Parser α) (s : Stream text) : Outcome text α :=
  match p.parse s with
  | .error e => .error e
  | .ok (next, a) =>
    if s.offset < next.offset then
      if next.isEof then .ok (next, a) else afterFirstRun m next a (repeatOneOrMore m p next)
    else .error (.fatal s.offset ParseError.noProgress)
termination_by text.size - s.offset
decreasing_by have := next.offset_le; omega

/-! ## The loop -/

theorem greedy_from_error_fatal (m : Monoid α) (p : Parser α) (current : Stream text) (acc : α)
    {e : ParseError} (run : greedyFrom m p current acc = .error e) : e.isFatal = true := by
  revert run
  apply greedy_from_induction m p (fun _ _ outcome => outcome = .error e → e.isFatal = true)
  · intro current acc outcome leaving failed
    subst failed
    exact greedy_pass_exit_error leaving
  · intro _ _ _ _ _ later
    exact later

section Lawful

variable {m : Monoid α} (lawful : m.Lawful)
include lawful

theorem greedy_from_combine (p : Parser α) (current : Stream text) (a acc : α) :
    greedyFrom m p current (m.combine a acc) =
      (greedyFrom m p current acc).map fun r => (r.1, m.combine a r.2) := by
  apply greedy_from_induction m p (fun current acc outcome =>
    greedyFrom m p current (m.combine a acc) = outcome.map fun r => (r.1, m.combine a r.2))
  · intro current acc outcome leaving
    rcases greedy_pass_exit leaving with ⟨atEnd, rfl⟩ | ⟨inside, e, run, rfl⟩ |
      ⟨inside, next, b, run, stalled, rfl⟩
    · rw [greedy_from_eq_pass, greedy_pass_of_end atEnd]
      rfl
    · rw [greedy_from_eq_pass, greedy_pass_of_error inside run]
      cases e.isFatal <;> rfl
    · rw [greedy_from_eq_pass, greedy_pass_of_stall inside run stalled]
      rfl
  · intro current acc next acc' going later
    obtain ⟨inside, progress, b, run, rfl⟩ := greedy_pass_proceed going
    rw [greedy_from_eq_pass, greedy_pass_of_progress inside run progress]
    dsimp only
    rw [lawful.combine_assoc]
    exact later

theorem greedy_from_eq_after_first_run (p : Parser α) {next : Stream text}
    (inside : next.offset < text.size) (a : α) :
    greedyFrom m p next a = afterFirstRun m next a ((greedy m p).parse next) := by
  rw [greedy_from_eq_pass]
  cases run : p.parse next with
  | error e =>
      rw [greedy_pass_of_error inside run, greedy_parse_of_error run]
      rfl
  | ok result =>
      obtain ⟨later, b⟩ := result
      by_cases progress : next.offset < later.offset
      · rw [greedy_pass_of_progress inside run progress, greedy_parse_of_progress run progress]
        dsimp only
        rw [greedy_from_combine lawful]
        -- an error of the rest of the loop is fatal, so it is passed on either way
        cases rest : greedyFrom m p later b with
        | ok r => rfl
        | error e =>
            simp only [Except.map, afterFirstRun, greedy_from_error_fatal m p later b rest, if_true]
      · have stalled := Nat.le_of_not_lt progress
        rw [greedy_pass_of_stall inside run stalled, greedy_parse_of_stall run stalled]
        rfl

theorem greedy_parse_eq_repeat (p : Parser α) (s : Stream text) :
    (greedy m p).parse s = repeatOneOrMore m p s := by
  rw [repeatOneOrMore]
  cases run : p.parse s with
  | error e => exact greedy_parse_of_error run
  | ok result =>
      obtain ⟨next, a⟩ := result
      dsimp only
      by_cases progress : s.offset < next.offset
      · rw [if_pos progress, greedy_parse_of_progress run progress]
        by_cases atEnd : next.isEof = true
        · rw [if_pos atEnd, greedy_from_eq_pass,
            greedy_pass_of_end (Nat.le_of_eq ((Stream.isEof_iff next).mp atEnd).symm)]
        · have inside : next.offset < text.size := by
            have bounded := next.offset_le
            have notEnd := mt (Stream.isEof_iff next).mpr atEnd
            omega
          rw [if_neg atEnd, greedy_from_eq_after_first_run lawful p inside,
            greedy_parse_eq_repeat p next]
      · rw [if_neg progress]
        exact greedy_parse_of_stall run (Nat.le_of_not_lt progress)
termination_by text.size - s.offset
decreasing_by have := next.offset_le; omega

end Lawful

/-! ## What a success has read -/

/-- `p` run from `s` again and again, each run consuming, reads `values` in order and ends at
`last`. -/
inductive Runs (p : Parser α) : Stream text → List α → Stream text → Prop
  | stop (s : Stream text) : Runs p s [] s
  | step {s next last : Stream text} {a : α} {values : List α} :
      p.parse s = .ok (next, a) → s.offset < next.offset → Runs p next values last →
      Runs p s (a :: values) last

theorem greedy_from_ok_runs (m : Monoid α) (p : Parser α) (current : Stream text) (acc : α)
    {last : Stream text} {v : α} (run : greedyFrom m p current acc = .ok (last, v)) :
    ∃ values, Runs p current values last ∧ StopsAt p last ∧ v = values.foldl m.combine acc := by
  revert run
  apply greedy_from_induction m p (fun current acc outcome => outcome = .ok (last, v) →
    ∃ values, Runs p current values last ∧ StopsAt p last ∧ v = values.foldl m.combine acc)
  · intro current acc outcome leaving finished
    subst finished
    obtain ⟨stopped, stops⟩ := greedy_pass_exit_ok leaving
    cases stopped
    exact ⟨[], .stop _, stops, rfl⟩
  · intro current acc next acc' going later finished
    obtain ⟨-, progress, a, run, rfl⟩ := greedy_pass_proceed going
    obtain ⟨values, runs, stops, value⟩ := later finished
    exact ⟨a :: values, .step run progress runs, stops, value⟩

theorem greedy_ok_runs {m : Monoid α} (lawful : m.Lawful) (p : Parser α) {s last : Stream text}
    {v : α} (run : (greedy m p).parse s = .ok (last, v)) :
    ∃ values, values ≠ [] ∧ Runs p s values last ∧ StopsAt p last ∧ v = m.concat values := by
  obtain ⟨next, a, firstRun, progress, loop⟩ := greedy_parse_eq_ok run
  obtain ⟨values, runs, stops, value⟩ := greedy_from_ok_runs m p next a loop
  refine ⟨a :: values, List.cons_ne_nil a values, .step firstRun progress runs, stops, ?_⟩
  rw [value, Monoid.concat, List.foldl_cons, lawful.identity_combine]

theorem Runs.of_map {p : Parser α} {f : α → β} {s last : Stream text} {values : List β}
    (runs : Runs (p.map f) s values last) : ∃ read, values = read.map f ∧ Runs p s read last := by
  induction runs with
  | stop s => exact ⟨[], rfl, .stop s⟩
  | step run progress _ induction =>
      obtain ⟨a, pRun, rfl⟩ := map_parse_eq_ok run
      obtain ⟨read, rfl, runs⟩ := induction
      exact ⟨a :: read, rfl, .step pRun progress runs⟩

theorem StopsAt.of_map {p : Parser α} {f : α → β} {s : Stream text} (stops : StopsAt (p.map f) s) :
    StopsAt p s := by
  rcases stops with ended | ⟨e, run, recoverable⟩
  · exact .inl ended
  · exact .inr ⟨e, map_parse_eq_error run, recoverable⟩

theorem concat_singletons (values : List α) :
    (Monoid.list α).concat (values.map fun a => [a]) = values := by
  suffices gathered : ∀ acc : List α,
      (values.map fun a => [a]).foldl (Monoid.list α).combine acc = acc ++ values from
    gathered []
  induction values with
  | nil => simp
  | cons a values induction =>
      intro acc
      rw [List.map_cons, List.foldl_cons, induction]
      simp [Monoid.list]

theorem many1_ok_runs (p : Parser α) {s last : Stream text} {values : List α}
    (run : (many1 p).parse s = .ok (last, values)) :
    values ≠ [] ∧ Runs p s values last ∧ StopsAt p last := by
  obtain ⟨lists, present, runs, stops, rfl⟩ := greedy_ok_runs (Monoid.list_lawful α) _ run
  obtain ⟨read, rfl, pRuns⟩ := runs.of_map
  rw [concat_singletons]
  exact ⟨by simpa using present, pRuns, stops.of_map⟩

theorem greedy_from_of_runs (m : Monoid α) {p : Parser α} {current last : Stream text}
    {values : List α} (runs : Runs p current values last) (stops : StopsAt p last) (acc : α) :
    greedyFrom m p current acc = .ok (last, values.foldl m.combine acc) := by
  induction runs generalizing acc with
  | stop s =>
      rw [greedy_from_eq_pass]
      by_cases inside : s.offset < text.size
      · -- inside the input the run stops only where the parser fails recoverably
        rcases stops with ended | ⟨e, failed, recoverable⟩
        · rw [Stream.isEof_iff] at ended
          omega
        · rw [greedy_pass_of_error inside failed, recoverable]
          rfl
      · rw [greedy_pass_of_end (Nat.le_of_not_lt inside)]
        rfl
  | @step current next _ _ _ run progress _ induction =>
      have inside : current.offset < text.size := Nat.lt_of_lt_of_le progress next.offset_le
      rw [greedy_from_eq_pass, greedy_pass_of_progress inside run progress]
      exact induction stops _

theorem greedy_parse_of_runs {m : Monoid α} (lawful : m.Lawful) {p : Parser α}
    {s last : Stream text} {values : List α} (present : values ≠ []) (runs : Runs p s values last)
    (stops : StopsAt p last) : (greedy m p).parse s = .ok (last, m.concat values) := by
  cases runs with
  | stop => exact absurd rfl present
  | step run progress rest =>
      rw [greedy_parse_of_progress run progress, greedy_from_of_runs m rest stops, Monoid.concat,
        List.foldl_cons, lawful.identity_combine]

theorem Runs.map {p : Parser α} {s last : Stream text} {values : List α}
    (runs : Runs p s values last) (f : α → β) : Runs (p.map f) s (values.map f) last := by
  induction runs with
  | stop s => exact .stop s
  | step run progress _ induction =>
      refine .step ?_ progress induction
      rw [map_parse, run]
      rfl

theorem StopsAt.map {p : Parser α} {s : Stream text} (stops : StopsAt p s) (f : α → β) :
    StopsAt (p.map f) s := by
  rcases stops with ended | ⟨e, failed, recoverable⟩
  · exact .inl ended
  · refine .inr ⟨e, ?_, recoverable⟩
    rw [map_parse, failed]
    rfl

theorem many1_parse_of_runs {p : Parser α} {s last : Stream text} {values : List α}
    (present : values ≠ []) (runs : Runs p s values last) (stops : StopsAt p last) :
    (many1 p).parse s = .ok (last, values) := by
  rw [many1, toList, greedy_parse_of_runs (Monoid.list_lawful α) (by simpa using present)
    (runs.map _) (stops.map _), concat_singletons]

/-! ## The laws of repetition -/

/-- The laws of repetition at `m`: the loop computes the recursive repetition, and a success is
a non-empty run of consuming successes that stops at the end of the input or where the parser
fails recoverably, with their values combined in order. -/
structure RepetitionLaws (m : Monoid α) : Prop where
  unfolds : ∀ (p : Parser α) {text : Array Char} (s : Stream text),
    (greedy m p).parse s = repeatOneOrMore m p s
  successes : ∀ (p : Parser α) {text : Array Char} (s last : Stream text) (v : α),
    (greedy m p).parse s = .ok (last, v) →
      ∃ values, values ≠ [] ∧ Runs p s values last ∧ StopsAt p last ∧ v = m.concat values

theorem repetition_laws {m : Monoid α} (lawful : m.Lawful) : RepetitionLaws m where
  unfolds p _ s := greedy_parse_eq_repeat lawful p s
  successes p _ _ _ _ run := greedy_ok_runs lawful p run

/-- Repetition of text and of lists is the recursive one-or-more repetition, and `many1` lists
what each run read. -/
theorem greedy_is_recursive_repetition :
    RepetitionLaws Monoid.text ∧ (∀ β : Type, RepetitionLaws (Monoid.list β)) ∧
    (∀ (β : Type) (p : Parser β) {text : Array Char} (s last : Stream text) (values : List β),
      (many1 p).parse s = .ok (last, values) →
        values ≠ [] ∧ Runs p s values last ∧ StopsAt p last) :=
  ⟨repetition_laws Monoid.text_lawful, fun β => repetition_laws (Monoid.list_lawful β),
    fun _ p _ _ _ _ run => many1_ok_runs p run⟩

/-! ## A repetition repeated -/

theorem greedy_ok_stops {m : Monoid α} {p : Parser α} {s last : Stream text} {v : α}
    (run : (greedy m p).parse s = .ok (last, v)) : s.offset < last.offset ∧ StopsAt p last := by
  obtain ⟨next, a, -, progress, loop⟩ := greedy_parse_eq_ok run
  obtain ⟨-, -, stops, -⟩ := greedy_from_ok_runs m p next a loop
  exact ⟨Nat.lt_of_lt_of_le progress (greedy_from_ok_offset m p next a loop), stops⟩

theorem StopsAt.greedy {p : Parser α} {s : Stream text} (stops : StopsAt p s) (m : Monoid α) :
    StopsAt (greedy m p) s := by
  rcases stops with ended | ⟨e, failed, recoverable⟩
  · exact .inl ended
  · exact .inr ⟨e, greedy_parse_of_error failed, recoverable⟩

/-- Repeating a repetition gives what the repetition gives, on every stream and at every monoid:
the inner loop already stopped at the end of the input or where the parser fails recoverably, so
the outer loop's second run is not taken or fails and is dropped, and an error of the inner loop
is the outer loop's first error. -/
theorem greedy_is_idempotent (m : Monoid α) (p : Parser α) (s : Stream text) :
    (greedy m (greedy m p)).parse s = (greedy m p).parse s := by
  cases run : (greedy m p).parse s with
  | error e => exact greedy_parse_of_error run
  | ok result =>
      obtain ⟨last, v⟩ := result
      obtain ⟨advanced, stops⟩ := greedy_ok_stops run
      rw [greedy_parse_of_progress run advanced,
        greedy_from_of_runs m (.stop last) (stops.greedy m)]
      rfl

end Parser

end Parsing
