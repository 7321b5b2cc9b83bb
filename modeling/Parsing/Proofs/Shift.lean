import Parsing.Expr.Parser
import Parsing.Proofs.Combinators
import Parsing.Proofs.Repetition

/-!
# Parsing never looks left of where it starts

A parser reads the character under its stream and moves forward; it never goes back before the
stream it was given. So what a run does depends only on the text from its start on: put any text
`u` in front of the input and start `u.size` characters later, and the run takes the same steps,
yields the same values and stops at streams `u.size` later, or fails with an error of the same
kind `u.size` later. Only the messages differ, since the recoverable ones name absolute positions.

`Stream.shift u` moves a stream over `w` to the same place in `u ++ w`, `ShiftedOutcome u` relates
an outcome on `u ++ w` to one on `w`, and `Parser.ShiftInvariant` is the property, proved for each
combinator from its parts, for the repetition loop pass by pass, and so for every expression.
-/

namespace Parsing

set_option autoImplicit false

variable {α β γ : Type}

namespace Stream

variable {w : Array Char}

/-- The stream over `u ++ w` that stands where `t` stands in `w`, after all of `u`. -/
def shift (u : Array Char) (t : Stream w) : Stream (u ++ w) :=
  ⟨u.size + t.offset, by rw [Array.size_append]; exact Nat.add_le_add_left t.offset_le _⟩

variable (u : Array Char) (t : Stream w)

@[simp] theorem offset_shift : (t.shift u).offset = u.size + t.offset := rfl

theorem peek_shift : (t.shift u).peek = t.peek := by
  simp only [peek, offset_shift]
  rw [Array.getElem?_append_right (Nat.le_add_right _ _), Nat.add_sub_cancel_left]

theorem advance_shift : (t.shift u).advance = t.advance.shift u := by
  ext
  simp only [offset_advance, offset_shift, Array.size_append]
  omega

theorem shift_inside_iff : (t.shift u).offset < (u ++ w).size ↔ t.offset < w.size := by
  simp only [offset_shift, Array.size_append]
  omega

end Stream

section Outcomes

variable {u w : Array Char}

/-- An outcome on `u ++ w` and one on `w` that agree up to the shift by `u`: the same value at
streams `u.size` apart, or errors of the same kind at positions `u.size` apart. The messages are
not compared. -/
def ShiftedOutcome (u : Array Char) : Outcome (u ++ w) α → Outcome w α → Prop
  | .ok (s, a), .ok (t, b) => s = t.shift u ∧ a = b
  | .error e, .error e' => e.kind = e'.kind ∧ e.position = u.size + e'.position
  | _, _ => False

theorem shifted_ok {t : Stream w} {a : α} : ShiftedOutcome u (.ok (t.shift u, a)) (.ok (t, a)) :=
  ⟨rfl, rfl⟩

theorem shifted_error {e e' : ParseError} (sameKind : e.kind = e'.kind)
    (later : e.position = u.size + e'.position) :
    ShiftedOutcome u (.error e : Outcome (u ++ w) α) (.error e') :=
  ⟨sameKind, later⟩

theorem shifted_fatal (t : Stream w) (message : String) :
    ShiftedOutcome u (.error (.fatal (t.shift u).offset message) : Outcome (u ++ w) α)
      (.error (.fatal t.offset message)) :=
  shifted_error rfl rfl

theorem ShiftedOutcome.eq_ok {r : Outcome (u ++ w) α} {t : Stream w} {a : α}
    (shifted : ShiftedOutcome u r (.ok (t, a))) : r = .ok (t.shift u, a) := by
  cases r with
  | ok result =>
      obtain ⟨s, b⟩ := result
      obtain ⟨rfl, rfl⟩ := shifted
      rfl
  | error e => cases shifted

theorem ShiftedOutcome.eq_error {r : Outcome (u ++ w) α} {e : ParseError}
    (shifted : ShiftedOutcome u r (.error e)) :
    ∃ e', r = .error e' ∧ e'.kind = e.kind ∧ e'.position = u.size + e.position := by
  cases r with
  | ok result => cases shifted
  | error e' => exact ⟨e', rfl, shifted⟩

theorem ParseError.isFatal_eq_of_kind {e e' : ParseError} (sameKind : e.kind = e'.kind) :
    e.isFatal = e'.isFatal := by
  simp only [ParseError.isFatal, sameKind]

theorem ShiftedOutcome.settles_eq {r : Outcome (u ++ w) α} {r' : Outcome w α}
    (shifted : ShiftedOutcome u r r') : Parser.settlesChoice r = Parser.settlesChoice r' := by
  cases r with
  | ok result =>
      cases r' with
      | ok result' => rfl
      | error e' => cases shifted
  | error e =>
      cases r' with
      | ok result' => cases shifted
      | error e' => exact ParseError.isFatal_eq_of_kind shifted.1

theorem shifted_either {e₁ e₂ e₁' e₂' : ParseError}
    (first : ShiftedOutcome u (.error e₁ : Outcome (u ++ w) α) (.error e₁'))
    (second : ShiftedOutcome u (.error e₂ : Outcome (u ++ w) α) (.error e₂')) :
    ShiftedOutcome u (.error (e₁.either e₂) : Outcome (u ++ w) α)
      (.error (e₁'.either e₂')) := by
  have furthest : max e₁.position e₂.position = u.size + max e₁'.position e₂'.position := by
    rw [first.2, second.2, Nat.add_max_add_left]
  exact shifted_error rfl furthest

end Outcomes

namespace Parser

/-- A parser whose runs from any stream over `w` and from the same place in `u ++ w` agree up to
the shift by `u`. -/
structure ShiftInvariant (p : Parser α) : Prop where
  parse_shift : ∀ (u : Array Char) {w : Array Char} (t : Stream w),
    ShiftedOutcome u (p.parse (t.shift u)) (p.parse t)

section Runs

variable {p : Parser α} {u w : Array Char} {t : Stream w}

theorem ShiftInvariant.ok (shifts : p.ShiftInvariant) (u : Array Char) {t' : Stream w} {a : α}
    (run : p.parse t = .ok (t', a)) : p.parse (t.shift u) = .ok (t'.shift u, a) :=
  ShiftedOutcome.eq_ok (run ▸ shifts.parse_shift u t)

theorem ShiftInvariant.error (shifts : p.ShiftInvariant) (u : Array Char) {e : ParseError}
    (run : p.parse t = .error e) :
    ∃ e', p.parse (t.shift u) = .error e' ∧ e'.kind = e.kind ∧
      e'.position = u.size + e.position :=
  ShiftedOutcome.eq_error (run ▸ shifts.parse_shift u t)

end Runs

/-! ## Every combinator is shift invariant when its parts are -/

theorem predicate_shift_invariant (accepts : Char → Bool) (value : Char → α)
    (expected : String) : (predicate accepts value expected).ShiftInvariant := by
  constructor
  intro u w t
  -- both runs look at the same character
  simp only [predicate, Stream.peek_shift]
  cases t.peek with
  | none => exact shifted_error rfl rfl
  | some c =>
      dsimp only
      by_cases accepted : accepts c
      · simp only [if_pos accepted, Stream.advance_shift]
        exact shifted_ok
      · simp only [if_neg accepted]
        exact shifted_error rfl rfl

theorem chain_shift_invariant (m : Monoid α) {first second : Parser α}
    (firstShifts : first.ShiftInvariant) (secondShifts : second.ShiftInvariant) :
    (chain m first second).ShiftInvariant := by
  constructor
  intro u w t
  simp only [chain]
  cases firstAt : first.parse t with
  | error e =>
      obtain ⟨e', shiftedAt, sameKind, later⟩ := firstShifts.error u firstAt
      rw [shiftedAt]
      exact shifted_error sameKind later
  | ok result =>
      obtain ⟨t₁, a⟩ := result
      rw [firstShifts.ok u firstAt]
      dsimp only
      cases secondAt : second.parse t₁ with
      | error e =>
          obtain ⟨e', shiftedAt, sameKind, later⟩ := secondShifts.error u secondAt
          rw [shiftedAt]
          exact shifted_error sameKind later
      | ok result =>
          obtain ⟨t₂, b⟩ := result
          rw [secondShifts.ok u secondAt]
          exact shifted_ok

theorem alt_shift_invariant {first second : Parser α} (firstShifts : first.ShiftInvariant)
    (secondShifts : second.ShiftInvariant) : (alt first second).ShiftInvariant := by
  constructor
  intro u w t
  have firstShifted := firstShifts.parse_shift u t
  have secondShifted := secondShifts.parse_shift u t
  rcases settles_or_recoverable (first.parse t) with firstSettles |
    ⟨e₁, firstAt, firstRecoverable⟩
  · rw [alt_parse_of_settles firstSettles,
      alt_parse_of_settles (firstShifted.settles_eq.trans firstSettles)]
    exact firstShifted
  -- the shifted first branch fails with an error of the same kind, so recoverably too
  rw [firstAt] at firstShifted
  obtain ⟨e₁', firstShiftedAt, sameKind₁, -⟩ := ShiftedOutcome.eq_error firstShifted
  have shiftedRecoverable₁ : e₁'.isFatal = false := by
    rw [ParseError.isFatal_eq_of_kind sameKind₁, firstRecoverable]
  rcases settles_or_recoverable (second.parse t) with secondSettles |
    ⟨e₂, secondAt, secondRecoverable⟩
  · rw [alt_parse_of_second_settles firstAt firstRecoverable secondSettles,
      alt_parse_of_second_settles firstShiftedAt shiftedRecoverable₁
        (secondShifted.settles_eq.trans secondSettles)]
    exact secondShifted
  rw [secondAt] at secondShifted
  obtain ⟨e₂', secondShiftedAt, sameKind₂, -⟩ := ShiftedOutcome.eq_error secondShifted
  have shiftedRecoverable₂ : e₂'.isFatal = false := by
    rw [ParseError.isFatal_eq_of_kind sameKind₂, secondRecoverable]
  rw [alt_parse_of_recoverable firstAt firstRecoverable secondAt secondRecoverable,
    alt_parse_of_recoverable firstShiftedAt shiftedRecoverable₁ secondShiftedAt
      shiftedRecoverable₂]
  rw [firstShiftedAt] at firstShifted
  rw [secondShiftedAt] at secondShifted
  exact shifted_either firstShifted secondShifted

theorem optional_shift_invariant (m : Monoid α) {p : Parser α} (shifts : p.ShiftInvariant) :
    (optional m p).ShiftInvariant := by
  constructor
  intro u w t
  simp only [optional]
  cases pAt : p.parse t with
  | ok result =>
      obtain ⟨t₁, a⟩ := result
      rw [shifts.ok u pAt]
      exact shifted_ok
  | error e =>
      obtain ⟨e', shiftedAt, sameKind, later⟩ := shifts.error u pAt
      rw [shiftedAt]
      dsimp only
      rw [ParseError.isFatal_eq_of_kind sameKind]
      by_cases fatal : e.isFatal
      · simp only [if_pos fatal]
        exact shifted_error sameKind later
      · simp only [if_neg fatal]
        exact shifted_ok

theorem map_shift_invariant {p : Parser α} (shifts : p.ShiftInvariant) (f : α → β) :
    (p.map f).ShiftInvariant := by
  constructor
  intro u w t
  rw [map_parse, map_parse]
  cases pAt : p.parse t with
  | ok result =>
      obtain ⟨t₁, a⟩ := result
      rw [shifts.ok u pAt]
      exact shifted_ok
  | error e =>
      obtain ⟨e', shiftedAt, sameKind, later⟩ := shifts.error u pAt
      rw [shiftedAt]
      exact shifted_error sameKind later

theorem fatal_shift_invariant (message : String) : (fatal message : Parser α).ShiftInvariant :=
  ⟨fun _ _ t => shifted_fatal t message⟩

theorem chain_many_shift_invariant (m : Monoid α) {ps : List (Parser α)}
    (shifts : ∀ p ∈ ps, p.ShiftInvariant) : (chainMany m ps).ShiftInvariant := by
  cases ps with
  | nil => exact fatal_shift_invariant _
  | cons p ps =>
      rw [chain_many_cons]
      exact List.foldlRecOn ps (chain m) (shifts p List.mem_cons_self)
        fun _ accShifts q member =>
          chain_shift_invariant m accShifts (shifts q (List.mem_cons_of_mem p member))

theorem surrounded_shift_invariant {opening : Parser β} {closing : Parser γ} {inner : Parser α}
    (openingShifts : opening.ShiftInvariant) (closingShifts : closing.ShiftInvariant)
    (innerShifts : inner.ShiftInvariant) : (surrounded opening closing inner).ShiftInvariant := by
  constructor
  intro u w t
  simp only [surrounded]
  cases openingAt : opening.parse t with
  | error e =>
      obtain ⟨e', shiftedAt, sameKind, later⟩ := openingShifts.error u openingAt
      rw [shiftedAt]
      exact shifted_error sameKind later
  | ok opened =>
      obtain ⟨t₁, x⟩ := opened
      rw [openingShifts.ok u openingAt]
      dsimp only
      cases innerAt : inner.parse t₁ with
      | error e =>
          obtain ⟨e', shiftedAt, sameKind, later⟩ := innerShifts.error u innerAt
          rw [shiftedAt]
          exact shifted_error sameKind later
      | ok read =>
          obtain ⟨t₂, a⟩ := read
          rw [innerShifts.ok u innerAt]
          dsimp only
          cases closingAt : closing.parse t₂ with
          | error e =>
              obtain ⟨e', shiftedAt, sameKind, later⟩ := closingShifts.error u closingAt
              rw [shiftedAt]
              exact shifted_error sameKind later
          | ok closed =>
              obtain ⟨t₃, y⟩ := closed
              rw [closingShifts.ok u closingAt]
              exact shifted_ok

theorem between_shift_invariant {delimiter : Parser β} {inner : Parser α}
    (delimiterShifts : delimiter.ShiftInvariant) (innerShifts : inner.ShiftInvariant) :
    (between delimiter inner).ShiftInvariant :=
  surrounded_shift_invariant delimiterShifts delimiterShifts innerShifts

/-! ## Repetition -/

section Loop

variable {m : Monoid α} {p : Parser α} {u w : Array Char}

theorem greedy_pass_shift (shifts : p.ShiftInvariant) (u : Array Char) (t : Stream w) (acc : α) :
    (∀ next acc', greedyPass m p t acc = .proceed next acc' →
      greedyPass m p (t.shift u) acc = .proceed (next.shift u) acc') ∧
    (∀ outcome, greedyPass m p t acc = .exit outcome →
      ∃ outcome', greedyPass m p (t.shift u) acc = .exit outcome' ∧
        ShiftedOutcome u outcome' outcome) := by
  have shiftedInside := Stream.shift_inside_iff u t
  constructor
  · intro next acc' going
    obtain ⟨inside, progress, a, pAt, rfl⟩ := greedy_pass_proceed going
    have shiftedProgress : (t.shift u).offset < (next.shift u).offset := by
      simp only [Stream.offset_shift]
      omega
    exact greedy_pass_of_progress (shiftedInside.mpr inside) (shifts.ok u pAt) shiftedProgress
  · intro outcome leaving
    rcases greedy_pass_exit leaving with ⟨atEnd, rfl⟩ | ⟨inside, e, pAt, rfl⟩ |
      ⟨inside, next, a, pAt, stalled, rfl⟩
    · have shiftedAtEnd : (u ++ w).size ≤ (t.shift u).offset :=
        Nat.le_of_not_lt (mt shiftedInside.mp (Nat.not_lt_of_le atEnd))
      exact ⟨_, greedy_pass_of_end shiftedAtEnd, shifted_ok⟩
    · obtain ⟨e', shiftedAt, sameKind, later⟩ := shifts.error u pAt
      refine ⟨_, greedy_pass_of_error (shiftedInside.mpr inside) shiftedAt, ?_⟩
      rw [ParseError.isFatal_eq_of_kind sameKind]
      split
      · exact shifted_error sameKind later
      · exact shifted_ok
    · have shiftedStalled : (next.shift u).offset ≤ (t.shift u).offset := by
        simp only [Stream.offset_shift]
        omega
      exact ⟨_, greedy_pass_of_stall (shiftedInside.mpr inside) (shifts.ok u pAt) shiftedStalled,
        shifted_fatal t _⟩

theorem greedy_from_shift (shifts : p.ShiftInvariant) (u : Array Char) (t : Stream w) (acc : α) :
    ShiftedOutcome u (greedyFrom m p (t.shift u) acc) (greedyFrom m p t acc) := by
  apply greedy_from_induction m p
    (fun t acc outcome => ShiftedOutcome u (greedyFrom m p (t.shift u) acc) outcome)
  · intro t acc outcome leaving
    obtain ⟨outcome', shiftedLeaving, shifted⟩ :=
      (greedy_pass_shift shifts u t acc).2 outcome leaving
    rw [greedy_from_eq_pass, shiftedLeaving]
    exact shifted
  · intro t acc next acc' going later
    rw [greedy_from_eq_pass, (greedy_pass_shift shifts u t acc).1 next acc' going]
    exact later

end Loop

theorem greedy_shift_invariant (m : Monoid α) {p : Parser α} (shifts : p.ShiftInvariant) :
    (greedy m p).ShiftInvariant := by
  constructor
  intro u w t
  cases pAt : p.parse t with
  | error e =>
      obtain ⟨e', shiftedAt, sameKind, later⟩ := shifts.error u pAt
      rw [greedy_parse_of_error pAt, greedy_parse_of_error shiftedAt]
      exact shifted_error sameKind later
  | ok result =>
      obtain ⟨next, a⟩ := result
      have shiftedAt := shifts.ok u pAt
      by_cases progress : t.offset < next.offset
      · have shiftedProgress : (t.shift u).offset < (next.shift u).offset := by
          simp only [Stream.offset_shift]
          omega
        rw [greedy_parse_of_progress pAt progress,
          greedy_parse_of_progress shiftedAt shiftedProgress]
        exact greedy_from_shift shifts u next a
      · have shiftedStalled : (next.shift u).offset ≤ (t.shift u).offset := by
          simp only [Stream.offset_shift]
          omega
        rw [greedy_parse_of_stall pAt (Nat.le_of_not_lt progress),
          greedy_parse_of_stall shiftedAt shiftedStalled]
        exact shifted_fatal t _

theorem many1_shift_invariant {p : Parser α} (shifts : p.ShiftInvariant) :
    (many1 p).ShiftInvariant :=
  greedy_shift_invariant _ (map_shift_invariant shifts _)

/-! ## Text parsers -/

theorem char_shift_invariant (c : Char) : (char c).ShiftInvariant :=
  predicate_shift_invariant _ _ _

theorem any_letter_shift_invariant : anyLetter.ShiftInvariant :=
  alt_shift_invariant (predicate_shift_invariant _ _ _) (predicate_shift_invariant _ _ _)

theorem greedy_satisfy_shift_invariant (m : Monoid String) (accepts : Char → Bool)
    (expected : String) : (greedy m (satisfy accepts expected)).ShiftInvariant :=
  greedy_shift_invariant m (predicate_shift_invariant _ _ _)

theorem literal_shift_invariant : ∀ chars : List Char, (literal chars).ShiftInvariant
  | [] => fatal_shift_invariant _
  | [c] => char_shift_invariant c
  | c :: d :: rest =>
      chain_shift_invariant _ (char_shift_invariant c) (literal_shift_invariant (d :: rest))

theorem string_shift_invariant (word : String) : (string word).ShiftInvariant :=
  literal_shift_invariant word.toList

theorem keywords_shift_invariant (words : List String) : (keywords words).ShiftInvariant := by
  cases words with
  | nil => exact fatal_shift_invariant _
  | cons first rest =>
      rw [keywords_cons]
      exact List.foldlRecOn rest _ (string_shift_invariant first)
        fun _ accShifts word _ => alt_shift_invariant accShifts (string_shift_invariant word)

end Parser

open Parsing.Parser

/-! ## Grammars and expressions -/

theorem FieldDeclaration.parser_shift_invariant : FieldDeclaration.parser.ShiftInvariant := by
  have sentenceShifts : FieldDeclaration.sentence.ShiftInvariant :=
    greedy_shift_invariant _ (alt_shift_invariant
      (greedy_shift_invariant _ any_letter_shift_invariant) (greedy_satisfy_shift_invariant _ _ _))
  have defaultShifts : FieldDeclaration.defaultValue.ShiftInvariant :=
    surrounded_shift_invariant (string_shift_invariant _) (char_shift_invariant _) sentenceShifts
  have partsShifts : FieldDeclaration.parts.ShiftInvariant := by
    apply chain_many_shift_invariant
    simp only [List.mem_cons, List.not_mem_nil, or_false, forall_eq_or_imp, forall_eq]
    exact ⟨map_shift_invariant (greedy_satisfy_shift_invariant _ _ _) _,
      map_shift_invariant (char_shift_invariant _) _,
      map_shift_invariant (keywords_shift_invariant _) _,
      optional_shift_invariant _ (map_shift_invariant defaultShifts _)⟩
  exact surrounded_shift_invariant (char_shift_invariant _) (char_shift_invariant _)
    (map_shift_invariant partsShifts _)

theorem Token.parser_shift_invariant : Token.parser.ShiftInvariant := by
  have bracedShifts : Token.braced.ShiftInvariant :=
    map_shift_invariant (surrounded_shift_invariant (char_shift_invariant _)
      (char_shift_invariant _) (greedy_satisfy_shift_invariant _ _ _)) _
  have bracketedShifts : Token.bracketed.ShiftInvariant :=
    map_shift_invariant (surrounded_shift_invariant (char_shift_invariant _)
      (char_shift_invariant _) (greedy_shift_invariant _ any_letter_shift_invariant)) _
  exact greedy_shift_invariant _ (alt_shift_invariant bracedShifts bracketedShifts)

theorem Named.parser_shift_invariant {sh : Shape} : (name : Named sh) → name.parser.ShiftInvariant
  | .space | .letter | .upperLetter | .digit => predicate_shift_invariant _ _ _
  | .anyLetter => any_letter_shift_invariant
  | .word | .upperWord | .digits | .spaces => greedy_satisfy_shift_invariant _ _ _
  | .anyWord => greedy_shift_invariant _ any_letter_shift_invariant
  | .fieldDeclaration => map_shift_invariant FieldDeclaration.parser_shift_invariant _
  | .keywordStream => map_shift_invariant (many1_shift_invariant (keywords_shift_invariant _)) _
  | .alternationStream =>
      map_shift_invariant (many1_shift_invariant (alt_shift_invariant
        (alt_shift_invariant (string_shift_invariant _) (string_shift_invariant _))
        (string_shift_invariant _))) _
  | .wordTokens =>
      map_shift_invariant (many1_shift_invariant (between_shift_invariant
        (optional_shift_invariant _ (predicate_shift_invariant _ _ _))
        (greedy_satisfy_shift_invariant _ _ _))) _
  | .taggedTokens => map_shift_invariant Token.parser_shift_invariant _

mutual

theorem Expr.parser_shift_invariant : {sh : Shape} → (e : Expr sh) → e.parser.ShiftInvariant
  | _, .named name => name.parser_shift_invariant
  | _, .char c => char_shift_invariant c
  | _, .satisfy _ _ => predicate_shift_invariant _ _ _
  | _, .predicate _ _ _ => predicate_shift_invariant _ _ _
  | _, .string word => string_shift_invariant word
  | _, .keywords words => keywords_shift_invariant words
  | _, .chain first second =>
      chain_shift_invariant _ first.parser_shift_invariant second.parser_shift_invariant
  | _, .alt first second =>
      alt_shift_invariant first.parser_shift_invariant second.parser_shift_invariant
  | _, .greedy p => greedy_shift_invariant _ p.parser_shift_invariant
  | _, .optional p => optional_shift_invariant _ p.parser_shift_invariant
  | _, .chainMany _ ps => chain_many_shift_invariant _ (Exprs.parsers_shift_invariant ps)
  | _, .surrounded opening closing inner =>
      surrounded_shift_invariant opening.parser_shift_invariant closing.parser_shift_invariant
        inner.parser_shift_invariant
  | _, .between delimiter inner =>
      between_shift_invariant delimiter.parser_shift_invariant inner.parser_shift_invariant
  | _, .toList p => map_shift_invariant (map_shift_invariant p.parser_shift_invariant _) _
  | _, .many1 p => many1_shift_invariant (map_shift_invariant p.parser_shift_invariant _)
  | _, .join p => map_shift_invariant (map_shift_invariant p.parser_shift_invariant _) _
  | _, .map _ p => map_shift_invariant p.parser_shift_invariant _
  | _, .fatal _ _ => fatal_shift_invariant _

theorem Exprs.parsers_shift_invariant :
    {sh : Shape} → (es : Exprs sh) → ∀ p ∈ es.parsers, p.ShiftInvariant
  | _, .nil _ => fun _ member => by cases member
  | _, .cons e es => by
      intro p member
      rcases List.mem_cons.mp member with rfl | member
      · exact e.parser_shift_invariant
      · exact Exprs.parsers_shift_invariant es p member

end

section Claims

variable {sh : Shape} (e : Expr sh) (u : Array Char) {w : Array Char} (t : Stream w)

theorem Expr.shifted_ok_iff (k : Nat) (v : sh.Value) :
    (∃ s', e.parser.parse (t.shift u) = .ok (s', v) ∧ s'.offset = u.size + k) ↔
      (∃ t', e.parser.parse t = .ok (t', v) ∧ t'.offset = k) := by
  have shifted := e.parser_shift_invariant.parse_shift u t
  constructor
  · rintro ⟨s', shiftedAt, stops⟩
    cases smallAt : e.parser.parse t with
    | ok result =>
        obtain ⟨t', b⟩ := result
        rw [smallAt, shiftedAt] at shifted
        obtain ⟨rfl, rfl⟩ := shifted
        simp only [Stream.offset_shift, Nat.add_left_cancel_iff] at stops
        exact ⟨t', rfl, stops⟩
    | error err =>
        rw [smallAt, shiftedAt] at shifted
        cases shifted
  · rintro ⟨t', smallAt, stops⟩
    exact ⟨t'.shift u, e.parser_shift_invariant.ok u smallAt, by simp [stops]⟩

theorem Expr.shifted_error_iff (kind : ErrorKind) (q : Nat) :
    (∃ err, e.parser.parse (t.shift u) = .error err ∧ err.kind = kind ∧
        err.position = u.size + q) ↔
      (∃ err, e.parser.parse t = .error err ∧ err.kind = kind ∧ err.position = q) := by
  have shifted := e.parser_shift_invariant.parse_shift u t
  constructor
  · rintro ⟨err, shiftedAt, rfl, position⟩
    cases smallAt : e.parser.parse t with
    | ok result =>
        rw [smallAt, shiftedAt] at shifted
        cases shifted
    | error err' =>
        rw [smallAt, shiftedAt] at shifted
        obtain ⟨sameKind, later⟩ := shifted
        exact ⟨err', rfl, sameKind.symm, by omega⟩
  · rintro ⟨err, smallAt, rfl, rfl⟩
    obtain ⟨err', shiftedAt, sameKind, later⟩ := e.parser_shift_invariant.error u smallAt
    exact ⟨err', shiftedAt, sameKind, later⟩

end Claims

theorem Expr.surrounded_reads_inner_alone {sh a b : Shape} (opening : Expr a) (closing : Expr b)
    (inner : Expr sh) (u w : Array Char) {x : a.Value}
    (opened : opening.parser.parse (Stream.start (u ++ w)) = .ok ((Stream.start w).shift u, x))
    (s₃ : Stream (u ++ w)) (v : sh.Value) :
    (Expr.surrounded opening closing inner).parser.parse (Stream.start (u ++ w)) = .ok (s₃, v) ↔
      ∃ t₂ y, inner.parser.parse (Stream.start w) = .ok (t₂, v) ∧
        closing.parser.parse (t₂.shift u) = .ok (s₃, y) := by
  have innerShifts := inner.parser_shift_invariant
  simp only [Expr.parser, Parser.surrounded, opened]
  constructor
  · intro run
    cases innerAt : inner.parser.parse (Stream.start w) with
    | error err =>
        obtain ⟨err', shiftedAt, -, -⟩ := innerShifts.error u innerAt
        rw [shiftedAt] at run
        cases run
    | ok read =>
        obtain ⟨t₂, a'⟩ := read
        rw [innerShifts.ok u innerAt] at run
        dsimp only at run
        cases closingAt : closing.parser.parse (t₂.shift u) with
        | error err => rw [closingAt] at run; cases run
        | ok closed =>
            rw [closingAt] at run
            cases run
            exact ⟨t₂, closed.2, rfl, closingAt⟩
  · rintro ⟨t₂, y, innerAt, closingAt⟩
    rw [innerShifts.ok u innerAt]
    dsimp only
    rw [closingAt]

/-- Parsing never looks left of its starting stream. Put any text `u` before the input `w` and
start `u.size` later: every expression succeeds with the same value, stopping `u.size` later, or
fails with an error of the same kind, `u.size` later. So the inner expression of delimiters reads
the text after the opening delimiter as if it were the whole input. -/
theorem parsing_ignores_text_before_start :
    (∀ (sh : Shape) (e : Expr sh) (u w : Array Char) (t : Stream w),
      (∀ (k : Nat) (v : sh.Value),
        (∃ s', e.parser.parse (t.shift u) = .ok (s', v) ∧ s'.offset = u.size + k) ↔
          (∃ t', e.parser.parse t = .ok (t', v) ∧ t'.offset = k)) ∧
      (∀ (kind : ErrorKind) (q : Nat),
        (∃ err, e.parser.parse (t.shift u) = .error err ∧ err.kind = kind ∧
            err.position = u.size + q) ↔
          (∃ err, e.parser.parse t = .error err ∧ err.kind = kind ∧ err.position = q))) ∧
    (∀ (sh a b : Shape) (opening : Expr a) (closing : Expr b) (inner : Expr sh)
      (u w : Array Char) (x : a.Value),
      opening.parser.parse (Stream.start (u ++ w)) = .ok ((Stream.start w).shift u, x) →
      ∀ (s₃ : Stream (u ++ w)) (v : sh.Value),
        (Expr.surrounded opening closing inner).parser.parse (Stream.start (u ++ w)) =
            .ok (s₃, v) ↔
          ∃ t₂ y, inner.parser.parse (Stream.start w) = .ok (t₂, v) ∧
            closing.parser.parse (t₂.shift u) = .ok (s₃, y)) := by
  refine ⟨?_, ?_⟩
  · intro sh e u w t
    exact ⟨e.shifted_ok_iff u t, e.shifted_error_iff u t⟩
  · intro sh a b opening closing inner u w x opened s₃ v
    exact Expr.surrounded_reads_inner_alone opening closing inner u w opened s₃ v

theorem braced_word_reads_the_word_alone :
    (Expr.char '{').parser.parse (Stream.start (#['{'] ++ #['a', '}'])) =
      .ok ((Stream.start #['a', '}']).shift #['{'], "\x7b") ∧
    ∀ (s₃ : Stream (#['{'] ++ #['a', '}'])) (v : String),
      (Expr.surrounded (.char '{') (.char '}') (.named .word)).parser.parse
          (Stream.start (#['{'] ++ #['a', '}'])) = .ok (s₃, v) ↔
        ∃ t₂ y, (Expr.named .word).parser.parse (Stream.start #['a', '}']) = .ok (t₂, v) ∧
          (Expr.char '}').parser.parse (t₂.shift #['{']) = .ok (s₃, y) := by
  have opened : (Expr.char '{').parser.parse (Stream.start (#['{'] ++ #['a', '}'])) =
      .ok ((Stream.start #['a', '}']).shift #['{'], "\x7b") := rfl
  exact ⟨opened, parsing_ignores_text_before_start.2 .text .text .text (.char '{') (.char '}')
    (.named .word) #['{'] #['a', '}'] "\x7b" opened⟩

end Parsing
