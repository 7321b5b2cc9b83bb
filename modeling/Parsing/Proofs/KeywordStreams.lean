import Parsing.Proofs.Literals
import Parsing.Proofs.Unrolling

/-!
# The keyword stream and the alternation stream

The two registered streams repeat a choice among literals: the alternation stream among `abc`,
`def` and `fff`, the keyword stream among the same three and `(korova)` last. A choice with one
more branch succeeds wherever the shorter one does, with the same result, so a repetition of it
reads on from where the shorter repetition stops (`many1_alt_extends`). Where the extra branch
cannot match at all, the two choices step alike: they succeed together, or both fail recoverably,
and then both repetitions stop at the same place (`many1_alt_of_unmatched`). The literal
`(korova)` cannot match where no `(` is left, which gives the agreement of the two streams on such
input.
-/

namespace Parsing

namespace Parser

set_option autoImplicit false

variable {α : Type} {text : Array Char}

/-! ## Loops that step alike -/

/-- Whether two outcomes of a parser let a repetition go on in the same way: they are the same, or
both are recoverable failures. -/
def StepsAlike (r r' : Outcome text α) : Prop :=
  r = r' ∨ ∃ e e', r = .error e ∧ r' = .error e' ∧ e.isFatal = false ∧ e'.isFatal = false

section Loops

variable {m : Monoid α} {p q : Parser α}

theorem greedy_pass_eq_of_alike {current : Stream text}
    (alike : StepsAlike (p.parse current) (q.parse current)) (acc : α) :
    greedyPass m p current acc = greedyPass m q current acc := by
  rcases alike with same | ⟨e, e', pAt, qAt, pRecoverable, qRecoverable⟩
  · simp only [greedyPass, same]
  · simp [greedyPass, pAt, qAt, pRecoverable, qRecoverable]

theorem greedy_from_eq_of_alike {start : Stream text}
    (alike : ∀ t : Stream text, start.offset ≤ t.offset → StepsAlike (p.parse t) (q.parse t))
    (current : Stream text) (acc : α) (past : start.offset ≤ current.offset) :
    greedyFrom m p current acc = greedyFrom m q current acc := by
  revert past
  apply greedy_from_induction m p (fun current acc outcome =>
    start.offset ≤ current.offset → outcome = greedyFrom m q current acc)
  · intro current acc outcome leaving past
    rw [greedy_from_eq_pass m q, ← greedy_pass_eq_of_alike (alike current past), leaving]
  · intro current acc next acc' going later past
    have forward := (greedy_pass_proceed going).2.1
    rw [later (by omega), greedy_from_eq_pass m q current,
      ← greedy_pass_eq_of_alike (alike current past), going]

theorem greedy_from_succeeds (m : Monoid α) (safe : p.NeverFatal) (consumes : p.Consumes)
    (current : Stream text) (acc : α) : ∃ r, greedyFrom m p current acc = .ok r := by
  cases loop : greedyFrom m p current acc with
  | ok r => exact ⟨r, rfl⟩
  | error e =>
      have recoverable := greedy_from_never_fatal m safe consumes current acc loop
      rw [greedy_from_error_fatal m p current acc loop] at recoverable
      cases recoverable

theorem greedy_from_extends (lawful : m.Lawful)
    (widens : ∀ {t : Stream text} {r : Stream text × α}, p.parse t = .ok r → q.parse t = .ok r)
    (succeeds : ∀ (t : Stream text) (acc : α), ∃ r, greedyFrom m q t acc = .ok r)
    (current : Stream text) (acc : α) {last : Stream text} {v : α}
    (run : greedyFrom m p current acc = .ok (last, v)) :
    ∃ last' w, greedyFrom m q current acc = .ok (last', m.combine v w) := by
  revert run
  apply greedy_from_induction m p (fun current acc outcome => outcome = .ok (last, v) →
    ∃ last' w, greedyFrom m q current acc = .ok (last', m.combine v w))
  · intro here gathered outcome leaving finished
    -- the loop over `p` stopped with what it gathered, and the loop over `q` goes on from there
    subst finished
    obtain ⟨-, sameValue⟩ := Prod.mk.inj (greedy_pass_exit_ok leaving).1
    obtain ⟨⟨last', w⟩, rest⟩ := succeeds here m.identity
    have unchanged : greedyFrom m q here gathered =
        greedyFrom m q here (m.combine gathered m.identity) := by
      rw [lawful.combine_identity]
    refine ⟨last', w, ?_⟩
    rw [unchanged, greedy_from_combine lawful, rest, sameValue]
    rfl
  · intro current acc next acc' going later finished
    obtain ⟨inside, progress, a, run, rfl⟩ := greedy_pass_proceed going
    obtain ⟨last', w, rest⟩ := later finished
    refine ⟨last', w, ?_⟩
    rw [greedy_from_eq_pass, greedy_pass_of_progress inside (widens run) progress]
    exact rest

end Loops

/-! ## Repeating a choice with one more branch -/

section ExtraBranch

variable {p q : Parser α} {s : Stream text}

theorem to_list_alt_of_ok {t : Stream text} {r : Stream text × List α}
    (run : p.toList.parse t = .ok r) : (alt p q).toList.parse t = .ok r := by
  obtain ⟨next, values⟩ := r
  obtain ⟨a, pAt, rfl⟩ := map_parse_eq_ok run
  rw [toList, map_parse, alt_parse_of_settles (by rw [pAt]; rfl), pAt]
  rfl

/-- A repetition of a choice with one more branch reads on from where a successful repetition of
the choice without it stopped. -/
theorem many1_alt_extends (consumes : (alt p q).Consumes) (safe : (alt p q).NeverFatal)
    {last : Stream text} {values : List α} (run : (many1 p).parse s = .ok (last, values)) :
    ∃ last' more, (many1 (alt p q)).parse s = .ok (last', values ++ more) := by
  obtain ⟨next, first, firstAt, progress, loop⟩ := greedy_parse_eq_ok run
  rw [many1, greedy_parse_of_progress (to_list_alt_of_ok firstAt) progress]
  exact greedy_from_extends (Monoid.list_lawful α) to_list_alt_of_ok
    (greedy_from_succeeds _ (map_never_fatal safe _) (map_consumes consumes _)) next first loop

theorem alt_steps_alike (safe : p.NeverFatal)
    (unmatched : ∀ t : Stream text, s.offset ≤ t.offset → ∃ e, q.parse t = .error e ∧
      e.isFatal = false)
    (t : Stream text) (past : s.offset ≤ t.offset) :
    StepsAlike (p.toList.parse t) ((alt p q).toList.parse t) := by
  cases pAt : p.parse t with
  | ok r =>
      left
      obtain ⟨next, a⟩ := r
      have listed : p.toList.parse t = .ok (next, [a]) := by
        rw [toList, map_parse, pAt]
        rfl
      exact listed.trans (to_list_alt_of_ok listed).symm
  | error e =>
      right
      obtain ⟨e', qAt, qRecoverable⟩ := unmatched t past
      have pRecoverable := safe.error_not_fatal pAt
      refine ⟨e, e.either e', ?_, ?_, pRecoverable, rfl⟩
      · rw [toList, map_parse, pAt]
        rfl
      · rw [toList, map_parse, alt_parse_of_recoverable pAt pRecoverable qAt qRecoverable]
        rfl

theorem many1_alt_of_unmatched (safe : p.NeverFatal) (consumes : p.Consumes)
    (unmatched : ∀ t : Stream text, s.offset ≤ t.offset → ∃ e, q.parse t = .error e ∧
      e.isFatal = false) :
    (∃ last values, (many1 p).parse s = .ok (last, values) ∧
      (many1 (alt p q)).parse s = .ok (last, values)) ∨
    (∃ e e', p.parse s = .error e ∧ q.parse s = .error e' ∧ (many1 p).parse s = .error e ∧
      (many1 (alt p q)).parse s = .error (e.either e')) := by
  cases pAt : p.parse s with
  | ok r =>
      left
      obtain ⟨next, a⟩ := r
      have firstAt : p.toList.parse s = .ok (next, [a]) := by
        rw [toList, map_parse, pAt]
        rfl
      have progress := consumes.ok_offset_lt pAt
      obtain ⟨⟨last, values⟩, loop⟩ : ∃ r, greedyFrom (Monoid.list α) p.toList next [a] = .ok r :=
        greedy_from_succeeds _ (map_never_fatal safe _) (map_consumes consumes _) next [a]
      have same : greedyFrom (Monoid.list α) p.toList next [a] =
          greedyFrom (Monoid.list α) (alt p q).toList next [a] :=
        greedy_from_eq_of_alike (alt_steps_alike safe unmatched) next [a] (Nat.le_of_lt progress)
      refine ⟨last, values, ?_, ?_⟩
      · rw [many1, greedy_parse_of_progress firstAt progress, loop]
      · rw [many1, greedy_parse_of_progress (to_list_alt_of_ok firstAt) progress, ← same, loop]
  | error e =>
      right
      obtain ⟨e', qAt, qRecoverable⟩ := unmatched s (Nat.le_refl _)
      have pRecoverable := safe.error_not_fatal pAt
      refine ⟨e, e', rfl, qAt, ?_, ?_⟩
      · rw [many1, greedy_parse_of_error]
        rw [toList, map_parse, pAt]
        rfl
      · rw [many1, greedy_parse_of_error]
        rw [toList, map_parse, alt_parse_of_recoverable pAt pRecoverable qAt qRecoverable]
        rfl

end ExtraBranch

end Parser

/-! ## The two streams -/

namespace Grammar

open Parsing.Parser

theorem keyword_stream_eq : keywordStream =
    many1 (alt (alt (alt (string "abc") (string "def")) (string "fff")) (string "(korova)")) :=
  rfl

theorem korova_unmatched {s : Stream text} (noParen : '(' ∉ s.rest) (t : Stream text)
    (past : s.offset ≤ t.offset) :
    (string "(korova)").parse t =
      .error (ParseError.missingChar text.size t.offset '(') := by
  have later : '(' ∉ t.rest := by
    rw [Stream.rest_eq_drop past]
    exact fun member => noParen (List.mem_of_mem_drop member)
  have notHead : t.rest.head? ≠ some '(' := fun atHead => later (List.mem_of_mem_head? atHead)
  exact literal_parse_of_not_head notHead

/-- The keyword stream reads on from where the alternation stream stops, so what the alternation
stream lists begins what the keyword stream lists. Where no `(` is left, the two agree: both
succeed with the same list at the same place, or both fail at once with a plain failure at the
same position, the keyword stream's message being the alternation stream's followed by that of
`(korova)`. -/
theorem keyword_stream_extends_alternation_stream (s : Stream text) :
    (∀ last values, alternationStream.parse s = .ok (last, values) →
      ∃ last' more, keywordStream.parse s = .ok (last', values ++ more)) ∧
    ('(' ∉ s.rest →
      (∃ last values, alternationStream.parse s = .ok (last, values) ∧
        keywordStream.parse s = .ok (last, values)) ∨
      (∃ e e', alternationStream.parse s = .error e ∧ (string "(korova)").parse s = .error e' ∧
        e.kind = .parseFailure ∧
        keywordStream.parse s =
          .error ⟨.parseFailure, e.message ++ " | " ++ e'.message, e.position⟩)) := by
  have shorterSafe : (alt (alt (string "abc") (string "def")) (string "fff")).NeverFatal :=
    alt_never_fatal (alt_never_fatal (string_never_fatal (by decide))
      (string_never_fatal (by decide))) (string_never_fatal (by decide))
  have shorterConsumes : (alt (alt (string "abc") (string "def")) (string "fff")).Consumes :=
    alt_consumes (alt_consumes (string_consumes (by decide)) (string_consumes (by decide)))
      (string_consumes (by decide))
  have longerConsumes : (alt (alt (alt (string "abc") (string "def")) (string "fff"))
      (string "(korova)")).Consumes :=
    (keywords_consumes (by decide) : (keywords streamKeywords).Consumes)
  have longerSafe : (alt (alt (alt (string "abc") (string "def")) (string "fff"))
      (string "(korova)")).NeverFatal :=
    (keywords_never_fatal (List.cons_ne_nil _ _) (by decide) : (keywords streamKeywords).NeverFatal)
  refine ⟨fun last values run => ?_, fun noParen => ?_⟩
  · rw [keyword_stream_eq]
    exact many1_alt_extends longerConsumes longerSafe run
  rw [keyword_stream_eq]
  rcases many1_alt_of_unmatched shorterSafe shorterConsumes (fun t past =>
      ⟨_, korova_unmatched noParen t past, ParseError.missing_char_recoverable _ _ _⟩) with
    same | ⟨e, e', firstAt, korovaAt, shorterFails, longerFails⟩
  · exact .inl same
  right
  -- the joined error stands where the alternation's did: `(korova)` failed where it started
  have korovaPosition : e'.position = s.offset := by
    rw [korova_unmatched noParen s (Nat.le_refl _)] at korovaAt
    cases korovaAt
    exact ParseError.missing_char_position _ _ _
  have later : s.offset ≤ e.position :=
    ((alt_stays_in_bounds (alt_stays_in_bounds (string_stays_in_bounds _)
      (string_stays_in_bounds _)) (string_stays_in_bounds _)).error_within firstAt).1
  refine ⟨e, e', shorterFails, korovaAt, alt_error_kind firstAt (shorterSafe.error_not_fatal firstAt),
    ?_⟩
  rw [longerFails, ParseError.either, korovaPosition, Nat.max_eq_left later]

theorem keyword_grammars_agree_on_abcfff :
    '(' ∉ (Stream.start #['a', 'b', 'c', 'f', 'f', 'f']).rest ∧
    ((∃ last values, alternationStream.parse (Stream.start #['a', 'b', 'c', 'f', 'f', 'f']) =
        .ok (last, values) ∧
      keywordStream.parse (Stream.start #['a', 'b', 'c', 'f', 'f', 'f']) = .ok (last, values)) ∨
    (∃ e e', alternationStream.parse (Stream.start #['a', 'b', 'c', 'f', 'f', 'f']) = .error e ∧
      (string "(korova)").parse (Stream.start #['a', 'b', 'c', 'f', 'f', 'f']) = .error e' ∧
      e.kind = .parseFailure ∧
      keywordStream.parse (Stream.start #['a', 'b', 'c', 'f', 'f', 'f']) =
        .error ⟨.parseFailure, e.message ++ " | " ++ e'.message, e.position⟩)) := by
  have noParenthesis : '(' ∉ (Stream.start #['a', 'b', 'c', 'f', 'f', 'f']).rest := by
    simp [Stream.rest, Stream.start]
  exact ⟨noParenthesis, (keyword_stream_extends_alternation_stream _).2 noParenthesis⟩

end Grammar

end Parsing
