import Parsing.Parser.Greedy

/-!
# One pass of the repetition loop

`greedyFrom` is the loop of `greedy` after its first run. Here it is cut into passes: a pass tests
for the end of the input, runs the parser once and checks that it consumed, then either goes on
from the later stream or leaves the loop with an outcome. Every pass that goes on moves strictly
forward, so the loop run pass by pass is left after at most one pass more than the characters
still to read. `greedy_from_induction` packages the induction over the loop once; the invariants
of the loop in later modules are proved from it.
-/

namespace Parsing

namespace Parser

set_option autoImplicit false

variable {α : Type} {text : Array Char}

inductive Pass (text : Array Char) (α : Type) where
  | proceed (next : Stream text) (acc : α)
  | exit (outcome : Outcome text α)

/-- One pass of the loop of `greedy` from `current` with `acc` gathered so far. -/
def greedyPass (m : Monoid α) (p : Parser α) (current : Stream text) (acc : α) : Pass text α :=
  if current.offset < text.size then
    match p.parse current with
    | .ok (next, a) =>
      if current.offset < next.offset then .proceed next (m.combine acc a)
      else .exit (.error (.fatal current.offset ParseError.noProgress))
    | .error e => if e.isFatal then .exit (.error e) else .exit (.ok (current, acc))
  else .exit (.ok (current, acc))

theorem greedy_from_eq_pass (m : Monoid α) (p : Parser α) (current : Stream text) (acc : α) :
    greedyFrom m p current acc =
      match greedyPass m p current acc with
      | .proceed next acc' => greedyFrom m p next acc'
      | .exit outcome => outcome := by
  rw [greedyFrom_eq]
  unfold greedyPass
  by_cases inside : current.offset < text.size
  · simp only [inside, if_true]
    cases run : p.parse current with
    | ok result =>
        obtain ⟨next, a⟩ := result
        by_cases progress : current.offset < next.offset <;> simp [progress]
    | error e => by_cases fatal : e.isFatal <;> simp [fatal]
  · simp [inside]

/-- Where a repetition of `p` stops: at the end of the input, or where `p` fails recoverably. -/
def StopsAt (p : Parser α) (s : Stream text) : Prop :=
  s.isEof = true ∨ ∃ e, p.parse s = .error e ∧ e.isFatal = false

section Passes

variable {m : Monoid α} {p : Parser α} {current next : Stream text} {acc acc' : α}

theorem greedy_pass_proceed (going : greedyPass m p current acc = .proceed next acc') :
    current.offset < text.size ∧ current.offset < next.offset ∧
      ∃ a, p.parse current = .ok (next, a) ∧ acc' = m.combine acc a := by
  unfold greedyPass at going
  split at going
  · rename_i inside
    split at going
    · rename_i next' a run
      split at going
      · rename_i progress
        cases going
        exact ⟨inside, progress, a, run, rfl⟩
      · cases going
    · split at going <;> cases going
  · cases going

/-- The three ways out of the loop: the input is used up, the parser fails (a recoverable
failure keeps what was gathered, a fatal one is passed on), or the parser succeeds without
consuming. -/
theorem greedy_pass_exit {outcome : Outcome text α}
    (leaving : greedyPass m p current acc = .exit outcome) :
    (text.size ≤ current.offset ∧ outcome = .ok (current, acc)) ∨
    (current.offset < text.size ∧ ∃ e, p.parse current = .error e ∧
      outcome = if e.isFatal then .error e else .ok (current, acc)) ∨
    (current.offset < text.size ∧ ∃ next a, p.parse current = .ok (next, a) ∧
      next.offset ≤ current.offset ∧
      outcome = .error (.fatal current.offset ParseError.noProgress)) := by
  unfold greedyPass at leaving
  split at leaving
  · rename_i inside
    split at leaving
    · rename_i next a run
      split at leaving
      · cases leaving
      · rename_i stalled
        cases leaving
        exact .inr (.inr ⟨inside, next, a, run, Nat.le_of_not_lt stalled, rfl⟩)
    · rename_i e run
      have stopped : outcome = if e.isFatal then .error e else .ok (current, acc) := by
        split at leaving <;> cases leaving <;> simp [*]
      exact .inr (.inl ⟨inside, e, run, stopped⟩)
  · rename_i outside
    cases leaving
    exact .inl ⟨Nat.le_of_not_lt outside, rfl⟩

theorem greedy_pass_exit_ok {r : Stream text × α}
    (leaving : greedyPass m p current acc = .exit (.ok r)) :
    r = (current, acc) ∧ StopsAt p current := by
  rcases greedy_pass_exit leaving with ⟨atEnd, finished⟩ | ⟨_, e, run, finished⟩ |
    ⟨_, _, _, _, _, finished⟩
  · cases finished
    exact ⟨rfl, .inl ((Stream.isEof_iff _).mpr (Nat.le_antisymm (Stream.offset_le _) atEnd))⟩
  · cases fatal : e.isFatal
    · simp only [fatal, Bool.false_eq_true, if_false, Except.ok.injEq] at finished
      exact ⟨finished, .inr ⟨e, run, fatal⟩⟩
    · simp [fatal] at finished
  · cases finished

theorem greedy_pass_exit_error {e : ParseError}
    (leaving : greedyPass m p current acc = .exit (.error e)) : e.isFatal = true := by
  rcases greedy_pass_exit leaving with ⟨_, finished⟩ | ⟨_, e', _, finished⟩ |
    ⟨_, _, _, _, _, finished⟩
  · cases finished
  · cases fatal : e'.isFatal
    · simp [fatal] at finished
    · simp only [fatal, if_true, Except.error.injEq] at finished
      rw [finished]
      exact fatal
  · cases finished
    rfl

/-! What a pass does, read forward from the run of the parser. -/

theorem greedy_pass_of_end (atEnd : text.size ≤ current.offset) :
    greedyPass m p current acc = .exit (.ok (current, acc)) := by
  simp only [greedyPass, if_neg (Nat.not_lt_of_le atEnd)]

theorem greedy_pass_of_error {e : ParseError} (inside : current.offset < text.size)
    (run : p.parse current = .error e) :
    greedyPass m p current acc = .exit (if e.isFatal then .error e else .ok (current, acc)) := by
  simp only [greedyPass, if_pos inside, run]
  split <;> rfl

theorem greedy_pass_of_progress {a : α} (inside : current.offset < text.size)
    (run : p.parse current = .ok (next, a)) (progress : current.offset < next.offset) :
    greedyPass m p current acc = .proceed next (m.combine acc a) := by
  simp only [greedyPass, if_pos inside, run, if_pos progress]

theorem greedy_pass_of_stall {a : α} (inside : current.offset < text.size)
    (run : p.parse current = .ok (next, a)) (stalled : next.offset ≤ current.offset) :
    greedyPass m p current acc = .exit (.error (.fatal current.offset ParseError.noProgress)) := by
  simp only [greedyPass, if_pos inside, run, if_neg (Nat.not_lt_of_le stalled)]

/-! The first run of `greedy`, before the loop. -/

theorem greedy_parse_of_error {s : Stream text} {e : ParseError} (run : p.parse s = .error e) :
    (greedy m p).parse s = .error e := by
  simp only [greedy, run]

theorem greedy_parse_of_progress {s : Stream text} {a : α} (run : p.parse s = .ok (next, a))
    (progress : s.offset < next.offset) : (greedy m p).parse s = greedyFrom m p next a := by
  simp only [greedy, run, if_pos progress]

theorem greedy_parse_of_stall {s : Stream text} {a : α} (run : p.parse s = .ok (next, a))
    (stalled : next.offset ≤ s.offset) :
    (greedy m p).parse s = .error (.fatal s.offset ParseError.noProgress) := by
  simp only [greedy, run, if_neg (Nat.not_lt_of_le stalled)]

theorem greedy_parse_eq_ok {s s' : Stream text} {v : α} (run : (greedy m p).parse s = .ok (s', v)) :
    ∃ next a, p.parse s = .ok (next, a) ∧ s.offset < next.offset ∧
      greedyFrom m p next a = .ok (s', v) := by
  simp only [greedy] at run
  cases firstAt : p.parse s with
  | error e => rw [firstAt] at run; cases run
  | ok result =>
      obtain ⟨next, a⟩ := result
      rw [firstAt] at run
      dsimp only at run
      by_cases progress : s.offset < next.offset
      · rw [if_pos progress] at run
        exact ⟨next, a, rfl, progress, run⟩
      · rw [if_neg progress] at run; cases run

theorem greedy_parse_eq_error {s : Stream text} {e : ParseError}
    (run : (greedy m p).parse s = .error e) :
    p.parse s = .error e ∨
    (∃ next a, p.parse s = .ok (next, a) ∧ next.offset ≤ s.offset ∧
      e = .fatal s.offset ParseError.noProgress) ∨
    (∃ next a, p.parse s = .ok (next, a) ∧ s.offset < next.offset ∧
      greedyFrom m p next a = .error e) := by
  simp only [greedy] at run
  cases firstAt : p.parse s with
  | error e' => rw [firstAt] at run; cases run; exact .inl rfl
  | ok result =>
      obtain ⟨next, a⟩ := result
      rw [firstAt] at run
      dsimp only at run
      by_cases progress : s.offset < next.offset
      · rw [if_pos progress] at run
        exact .inr (.inr ⟨next, a, rfl, progress, run⟩)
      · rw [if_neg progress] at run
        cases run
        exact .inr (.inl ⟨next, a, rfl, Nat.le_of_not_lt progress, rfl⟩)

end Passes

/-- Induction over the loop: a property of the loop's outcome from each state holds when every
way out of a pass has it, and every pass that goes on carries it back from the next state. -/
theorem greedy_from_induction (m : Monoid α) (p : Parser α)
    (motive : Stream text → α → Outcome text α → Prop)
    (exit : ∀ current acc outcome, greedyPass m p current acc = .exit outcome →
      motive current acc outcome)
    (proceed : ∀ current acc next acc', greedyPass m p current acc = .proceed next acc' →
      motive next acc' (greedyFrom m p next acc') →
      motive current acc (greedyFrom m p next acc'))
    (current : Stream text) (acc : α) : motive current acc (greedyFrom m p current acc) := by
  rw [greedy_from_eq_pass]
  cases pass : greedyPass m p current acc with
  | exit outcome => exact exit current acc outcome pass
  | proceed next acc' =>
      have forward := (greedy_pass_proceed pass).2.1
      exact proceed current acc next acc' pass
        (greedy_from_induction m p motive exit proceed next acc')
termination_by text.size - current.offset
decreasing_by have := next.offset_le; omega

theorem greedy_from_ok_offset (m : Monoid α) (p : Parser α) (current : Stream text) (acc : α)
    {s' : Stream text} {v : α} (run : greedyFrom m p current acc = .ok (s', v)) :
    current.offset ≤ s'.offset := by
  revert run
  apply greedy_from_induction m p
    (fun current _ outcome => outcome = .ok (s', v) → current.offset ≤ s'.offset)
  · intro current acc outcome leaving finished
    subst finished
    obtain ⟨stopped, -⟩ := Prod.mk.inj (greedy_pass_exit_ok leaving).1
    exact Nat.le_of_eq (by rw [stopped])
  · intro current acc next acc' going later run
    exact Nat.le_trans (Nat.le_of_lt (greedy_pass_proceed going).2.1) (later run)

/-- The loop run one pass at a time for at most `fuel` passes: the outcome it leaves with, or
`none` when the passes run out first. -/
def greedyRun (m : Monoid α) (p : Parser α) : Nat → Stream text → α → Option (Outcome text α)
  | 0, _, _ => none
  | fuel + 1, current, acc =>
    match greedyPass m p current acc with
    | .proceed next acc' => greedyRun m p fuel next acc'
    | .exit outcome => some outcome

theorem greedy_run_of_remaining_lt (m : Monoid α) (p : Parser α) (fuel : Nat)
    (current : Stream text) (acc : α) (enough : text.size - current.offset < fuel) :
    greedyRun m p fuel current acc = some (greedyFrom m p current acc) := by
  induction fuel generalizing current acc with
  | zero => omega
  | succ fuel induction =>
      rw [greedyRun, greedy_from_eq_pass]
      cases pass : greedyPass m p current acc with
      | exit outcome => rfl
      | proceed next acc' =>
          have forward := (greedy_pass_proceed pass).2.1
          have bounded := next.offset_le
          exact induction next acc' (by omega)

/-- The repetition loop always ends: run pass by pass from any state, it is left within one pass
more than the characters still to read, with the outcome `greedyFrom` gives. -/
theorem greedy_loop_ends_within_remaining (m : Monoid α) (p : Parser α) (current : Stream text)
    (acc : α) :
    greedyRun m p (text.size - current.offset + 1) current acc =
      some (greedyFrom m p current acc) :=
  greedy_run_of_remaining_lt m p _ current acc (Nat.lt_succ_self _)

end Parser

end Parsing
