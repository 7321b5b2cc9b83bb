import Parsing.Parser.Text

/-!
# Sequences and keyword lists as folds

The library runs a list of parsers in turn by folding over it, and tries a list of keywords by
nesting alternatives to the left. Both are folds of a binary combinator: a sequence of parsers is
the left fold of `chain`, and a keyword list the left fold of `alt` over the literals. Stated as
equations of parsers, every property of `chain` and `alt` carries to them by `List.foldlRecOn`.
-/

namespace Parsing

namespace Parser

set_option autoImplicit false

variable {α β γ : Type} {text : Array Char}

theorem ext_parse {p q : Parser α}
    (same : ∀ {text : Array Char} (s : Stream text), p.parse s = q.parse s) : p = q := by
  cases p with
  | mk run =>
      cases q with
      | mk run' =>
          congr
          funext text s
          exact same s

theorem chain_all_eq_fold (m : Monoid α) (first : Parser α) (rest : List (Parser α)) :
    chainAll m first rest = rest.foldl (chain m) first := by
  apply ext_parse
  intro text s
  simp only [chainAll]
  -- one step of the fold over outcomes is one `chain` of the parsers gathered so far
  induction rest generalizing first with
  | nil => rfl
  | cons q rest induction =>
      rw [List.foldl_cons, List.foldl_cons]
      exact induction (chain m first q)

theorem chain_many_cons (m : Monoid α) (p : Parser α) (ps : List (Parser α)) :
    chainMany m (p :: ps) = ps.foldl (chain m) p :=
  chain_all_eq_fold m p ps

theorem keywords_cons (word : String) (words : List String) :
    keywords (word :: words) = words.foldl (fun acc next => alt acc (string next)) (string word) :=
  rfl

/-! ## What a sequence can do -/

section Sequences

variable {m : Monoid α} {first second : Parser α} {s s₂ : Stream text}

theorem chain_parse_eq_ok {v : α} (run : (chain m first second).parse s = .ok (s₂, v)) :
    ∃ s₁ a b, first.parse s = .ok (s₁, a) ∧ second.parse s₁ = .ok (s₂, b) ∧
      v = m.combine a b := by
  simp only [chain] at run
  cases firstAt : first.parse s with
  | error e => rw [firstAt] at run; cases run
  | ok result =>
      obtain ⟨s₁, a⟩ := result
      rw [firstAt] at run
      dsimp only at run
      cases secondAt : second.parse s₁ with
      | error e => rw [secondAt] at run; cases run
      | ok result =>
          obtain ⟨s₂', b⟩ := result
          rw [secondAt] at run
          cases run
          exact ⟨s₁, a, b, rfl, secondAt, rfl⟩

theorem chain_parse_eq_error {e : ParseError} (run : (chain m first second).parse s = .error e) :
    first.parse s = .error e ∨ ∃ s₁ a, first.parse s = .ok (s₁, a) ∧ second.parse s₁ = .error e := by
  simp only [chain] at run
  cases firstAt : first.parse s with
  | error e' => rw [firstAt] at run; cases run; exact .inl rfl
  | ok result =>
      obtain ⟨s₁, a⟩ := result
      rw [firstAt] at run
      dsimp only at run
      cases secondAt : second.parse s₁ with
      | error e' => rw [secondAt] at run; cases run; exact .inr ⟨s₁, a, rfl, secondAt⟩
      | ok result => rw [secondAt] at run; cases run

theorem chain_parse_of_error {e : ParseError} (firstAt : first.parse s = .error e) :
    (chain m first second).parse s = .error e := by
  simp only [chain, firstAt]

theorem chain_parse_of_ok {s₁ : Stream text} {a : α} (firstAt : first.parse s = .ok (s₁, a)) :
    (chain m first second).parse s = (second.parse s₁).map fun r => (r.1, m.combine a r.2) := by
  simp only [chain, firstAt]
  cases second.parse s₁ <;> rfl

theorem chain_parse_of_oks {s₁ : Stream text} {a b : α} (firstAt : first.parse s = .ok (s₁, a))
    (secondAt : second.parse s₁ = .ok (s₂, b)) :
    (chain m first second).parse s = .ok (s₂, m.combine a b) := by
  simp only [chain, firstAt, secondAt]

variable {opening : Parser β} {closing : Parser γ} {inner : Parser α}

theorem surrounded_parse_eq_ok {s₃ : Stream text} {a : α}
    (run : (surrounded opening closing inner).parse s = .ok (s₃, a)) :
    ∃ s₁ x s₂ y, opening.parse s = .ok (s₁, x) ∧ inner.parse s₁ = .ok (s₂, a) ∧
      closing.parse s₂ = .ok (s₃, y) := by
  simp only [surrounded] at run
  cases openingAt : opening.parse s with
  | error e => rw [openingAt] at run; cases run
  | ok opened =>
      obtain ⟨s₁, x⟩ := opened
      rw [openingAt] at run
      dsimp only at run
      cases innerAt : inner.parse s₁ with
      | error e => rw [innerAt] at run; cases run
      | ok read =>
          obtain ⟨s₂, a'⟩ := read
          rw [innerAt] at run
          dsimp only at run
          cases closingAt : closing.parse s₂ with
          | error e => rw [closingAt] at run; cases run
          | ok closed =>
              rw [closingAt] at run
              cases run
              exact ⟨s₁, x, s₂, closed.2, rfl, innerAt, closingAt⟩

theorem surrounded_parse_eq_error {e : ParseError}
    (run : (surrounded opening closing inner).parse s = .error e) :
    opening.parse s = .error e ∨
    (∃ s₁ x, opening.parse s = .ok (s₁, x) ∧ inner.parse s₁ = .error e) ∨
    (∃ s₁ x s₂ a, opening.parse s = .ok (s₁, x) ∧ inner.parse s₁ = .ok (s₂, a) ∧
      closing.parse s₂ = .error e) := by
  simp only [surrounded] at run
  cases openingAt : opening.parse s with
  | error e' => rw [openingAt] at run; cases run; exact .inl rfl
  | ok opened =>
      obtain ⟨s₁, x⟩ := opened
      rw [openingAt] at run
      dsimp only at run
      cases innerAt : inner.parse s₁ with
      | error e' => rw [innerAt] at run; cases run; exact .inr (.inl ⟨s₁, x, rfl, innerAt⟩)
      | ok read =>
          obtain ⟨s₂, a⟩ := read
          rw [innerAt] at run
          dsimp only at run
          cases closingAt : closing.parse s₂ with
          | error e' =>
              rw [closingAt] at run
              cases run
              exact .inr (.inr ⟨s₁, x, s₂, a, rfl, innerAt, closingAt⟩)
          | ok closed => rw [closingAt] at run; cases run

theorem surrounded_parse_of_ok {s₁ s₃ : Stream text} {x : β} {a : α} {y : γ}
    (openingAt : opening.parse s = .ok (s₁, x)) (innerAt : inner.parse s₁ = .ok (s₂, a))
    (closingAt : closing.parse s₂ = .ok (s₃, y)) :
    (surrounded opening closing inner).parse s = .ok (s₃, a) := by
  simp only [surrounded, openingAt, innerAt, closingAt]

theorem surrounded_parse_of_opening_error {e : ParseError} (openingAt : opening.parse s = .error e) :
    (surrounded opening closing inner).parse s = .error e := by
  simp only [surrounded, openingAt]

theorem surrounded_parse_of_inner_error {s₁ : Stream text} {x : β} {e : ParseError}
    (openingAt : opening.parse s = .ok (s₁, x)) (innerAt : inner.parse s₁ = .error e) :
    (surrounded opening closing inner).parse s = .error e := by
  simp only [surrounded, openingAt, innerAt]

end Sequences

/-! ## What a choice can do -/

/-- Whether an outcome ends an ordered choice: a success, or a fatal error. -/
def settlesChoice : Outcome text α → Bool
  | .ok _ => true
  | .error e => e.isFatal

theorem settles_or_recoverable (r : Outcome text α) :
    settlesChoice r = true ∨ ∃ e, r = .error e ∧ e.isFatal = false := by
  cases r with
  | ok result => exact .inl rfl
  | error e =>
      cases fatal : e.isFatal
      · exact .inr ⟨e, rfl, fatal⟩
      · exact .inl fatal

section Choices

variable {first second p : Parser α} {s : Stream text}

theorem alt_parse_eq_ok {r : Stream text × α} (run : (alt first second).parse s = .ok r) :
    first.parse s = .ok r ∨ second.parse s = .ok r := by
  simp only [alt] at run
  cases firstAt : first.parse s with
  | ok r' => rw [firstAt] at run; cases run; exact .inl rfl
  | error e₁ =>
      rw [firstAt] at run
      dsimp only at run
      by_cases firstFatal : e₁.isFatal
      · rw [if_pos firstFatal] at run; cases run
      · rw [if_neg firstFatal] at run
        cases secondAt : second.parse s with
        | ok r' => rw [secondAt] at run; cases run; exact .inr rfl
        | error e₂ =>
            rw [secondAt] at run
            dsimp only at run
            split at run <;> cases run

/-- An alternative fails with a fatal error of one of its branches, or with the two recoverable
errors joined. -/
theorem alt_parse_eq_error {e : ParseError} (run : (alt first second).parse s = .error e) :
    (first.parse s = .error e ∧ e.isFatal = true) ∨
    (second.parse s = .error e ∧ e.isFatal = true) ∨
    ∃ e₁ e₂, first.parse s = .error e₁ ∧ second.parse s = .error e₂ ∧ e = e₁.either e₂ := by
  simp only [alt] at run
  cases firstAt : first.parse s with
  | ok r => rw [firstAt] at run; cases run
  | error e₁ =>
      rw [firstAt] at run
      dsimp only at run
      by_cases firstFatal : e₁.isFatal
      · rw [if_pos firstFatal] at run
        cases run
        exact .inl ⟨rfl, firstFatal⟩
      · rw [if_neg firstFatal] at run
        cases secondAt : second.parse s with
        | ok r => rw [secondAt] at run; cases run
        | error e₂ =>
            rw [secondAt] at run
            dsimp only at run
            by_cases secondFatal : e₂.isFatal
            · rw [if_pos secondFatal] at run
              cases run
              exact .inr (.inl ⟨rfl, secondFatal⟩)
            · rw [if_neg secondFatal] at run
              cases run
              exact .inr (.inr ⟨e₁, e₂, rfl, rfl, rfl⟩)

theorem alt_error_kind {e : ParseError} (run : (alt first second).parse s = .error e)
    (recoverable : e.isFatal = false) : e.kind = .parseFailure := by
  rcases alt_parse_eq_error run with ⟨-, fatal⟩ | ⟨-, fatal⟩ | ⟨e₁, e₂, -, -, rfl⟩
  · rw [fatal] at recoverable
    cases recoverable
  · rw [fatal] at recoverable
    cases recoverable
  · rfl

theorem alt_parse_of_settles (settles : settlesChoice (first.parse s) = true) :
    (alt first second).parse s = first.parse s := by
  simp only [alt]
  cases firstAt : first.parse s with
  | ok result => rfl
  | error e =>
      rw [firstAt] at settles
      simp only [settlesChoice] at settles
      simp only [settles, if_true]

theorem alt_parse_of_second_settles {e₁ : ParseError} (firstAt : first.parse s = .error e₁)
    (recoverable : e₁.isFatal = false) (settles : settlesChoice (second.parse s) = true) :
    (alt first second).parse s = second.parse s := by
  simp only [alt, firstAt, recoverable, Bool.false_eq_true, if_false]
  cases secondAt : second.parse s with
  | ok result => rfl
  | error e₂ =>
      rw [secondAt] at settles
      simp only [settlesChoice] at settles
      dsimp only
      rw [if_pos settles]

theorem alt_parse_of_recoverable {e₁ e₂ : ParseError} (firstAt : first.parse s = .error e₁)
    (firstRecoverable : e₁.isFatal = false) (secondAt : second.parse s = .error e₂)
    (secondRecoverable : e₂.isFatal = false) :
    (alt first second).parse s = .error (e₁.either e₂) := by
  simp only [alt, firstAt, secondAt, firstRecoverable, secondRecoverable]
  rfl

theorem optional_parse_eq_ok {m : Monoid α} {r : Stream text × α}
    (run : (optional m p).parse s = .ok r) : p.parse s = .ok r ∨ r = (s, m.identity) := by
  simp only [optional] at run
  cases pAt : p.parse s with
  | ok r' => rw [pAt] at run; cases run; exact .inl rfl
  | error e =>
      rw [pAt] at run
      dsimp only at run
      by_cases fatal : e.isFatal
      · rw [if_pos fatal] at run; cases run
      · rw [if_neg fatal] at run
        cases run
        exact .inr rfl

theorem optional_parse_eq_error {m : Monoid α} {e : ParseError}
    (run : (optional m p).parse s = .error e) : p.parse s = .error e ∧ e.isFatal = true := by
  simp only [optional] at run
  cases pAt : p.parse s with
  | ok r => rw [pAt] at run; cases run
  | error e' =>
      rw [pAt] at run
      dsimp only at run
      by_cases fatal : e'.isFatal
      · rw [if_pos fatal] at run
        cases run
        exact ⟨rfl, fatal⟩
      · rw [if_neg fatal] at run; cases run

theorem optional_parse_of_ok {m : Monoid α} {r : Stream text × α} (pAt : p.parse s = .ok r) :
    (optional m p).parse s = .ok r := by
  simp only [optional, pAt]

theorem optional_parse_of_recoverable {m : Monoid α} {e : ParseError} (pAt : p.parse s = .error e)
    (recoverable : e.isFatal = false) : (optional m p).parse s = .ok (s, m.identity) := by
  simp only [optional, pAt, recoverable, Bool.false_eq_true, if_false]

theorem map_parse_eq_ok {f : α → β} {next : Stream text} {b : β}
    (run : (p.map f).parse s = .ok (next, b)) : ∃ a, p.parse s = .ok (next, a) ∧ b = f a := by
  rw [map_parse] at run
  cases pAt : p.parse s with
  | ok r => rw [pAt] at run; cases run; exact ⟨r.2, rfl, rfl⟩
  | error e => rw [pAt] at run; cases run

theorem map_parse_eq_error {f : α → β} {e : ParseError} (run : (p.map f).parse s = .error e) :
    p.parse s = .error e := by
  rw [map_parse] at run
  cases pAt : p.parse s with
  | ok r => rw [pAt] at run; cases run
  | error e' => rw [pAt] at run; cases run; rfl

theorem to_list_parse_of_ok {next : Stream text} {a : α} (pAt : p.parse s = .ok (next, a)) :
    p.toList.parse s = .ok (next, [a]) := by
  simp only [toList, map, pAt]

theorem to_list_parse_of_error {e : ParseError} (pAt : p.parse s = .error e) :
    p.toList.parse s = .error e := by
  simp only [toList, map, pAt]

theorem to_list_parse_eq_ok {next : Stream text} {l : List α}
    (run : p.toList.parse s = .ok (next, l)) : ∃ a, p.parse s = .ok (next, a) ∧ l = [a] :=
  map_parse_eq_ok run

end Choices

theorem predicate_parse_eq_ok {accepts : Char → Bool} {value : Char → α} {expected : String}
    {s next : Stream text} {a : α}
    (run : (predicate accepts value expected).parse s = .ok (next, a)) :
    ∃ c, s.peek = some c ∧ accepts c = true ∧ next = s.advance ∧ a = value c := by
  simp only [predicate] at run
  cases peeked : s.peek with
  | none => rw [peeked] at run; cases run
  | some c =>
      rw [peeked] at run
      dsimp only at run
      by_cases accepted : accepts c
      · rw [if_pos accepted] at run
        cases run
        exact ⟨c, rfl, accepted, rfl, rfl⟩
      · rw [if_neg accepted] at run; cases run

end Parser

end Parsing
