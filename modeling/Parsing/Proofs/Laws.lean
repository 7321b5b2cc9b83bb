import Parsing.Proofs.Combinators

/-!
# The algebra of sequencing and choice

Sequencing at a lawful monoid is itself a monoid on parsers: `chain` associates, and a parser that
succeeds everywhere without reading and yields the identity is neutral on both sides. Ordered
choice associates too: `alt` tries its branches in order, stops at the first success or fatal
error, and joins the recoverable errors it passed, which `either` does associatively. An
associative combinator gives the same parser nested to the left (as `chainMany` and `keywords`
build it) and nested to the right (as `string` builds it), so a sequence or a choice of many
parsers can be read either way. For choice the result is then said in terms of the branches
alone: the first branch that settles the choice, or every message joined at the furthest
position.
-/

namespace Parsing

set_option autoImplicit false

variable {α : Type} {text : Array Char}

/-! ## Joining the errors of a choice -/

namespace ParseError

theorem either_assoc (e₁ e₂ e₃ : ParseError) :
    (e₁.either e₂).either e₃ = e₁.either (e₂.either e₃) := by
  simp only [either, String.append_assoc, Nat.max_assoc]

/-- The errors of branches that all failed recoverably, joined by `either` nested to the right. -/
def eitherAll : ParseError → List ParseError → ParseError
  | e, [] => e
  | e, e' :: es => e.either (eitherAll e' es)

theorem either_all_message (e : ParseError) (es : List ParseError) :
    (eitherAll e es).message = " | ".intercalate ((e :: es).map message) := by
  induction es generalizing e with
  | nil => simp [eitherAll]
  | cons e' es induction =>
      simp only [eitherAll, either, induction e', List.map_cons, String.intercalate_cons_cons]

theorem either_all_position (e : ParseError) (es : List ParseError) :
    ((e :: es).map position).max? = some (eitherAll e es).position := by
  induction es generalizing e with
  | nil => simp [eitherAll]
  | cons e' es induction =>
      rw [List.map_cons, List.max?_cons, induction e']
      rfl

theorem either_all_kind (e e' : ParseError) (es : List ParseError) :
    (eitherAll e (e' :: es)).kind = .parseFailure := rfl

theorem either_all_recoverable {e : ParseError} (recoverable : e.isFatal = false)
    (es : List ParseError) : (eitherAll e es).isFatal = false := by
  cases es with
  | nil => exact recoverable
  | cons e' es => rfl

end ParseError

namespace Parser

/-- The parsers `p, p₂, …, pₙ` combined by `f` nested to the right: `f p (f p₂ (… pₙ))`. -/
def nestRight (f : Parser α → Parser α → Parser α) :
    Parser α → List (Parser α) → Parser α
  | p, [] => p
  | p, q :: qs => f p (nestRight f q qs)

example (f : Parser α → Parser α → Parser α) (a b c : Parser α) :
    nestRight f a [b, c] = f a (f b c) ∧ [b, c].foldl f a = f (f a b) c := ⟨rfl, rfl⟩

section Nesting

variable {f : Parser α → Parser α → Parser α}
  (assoc : ∀ a b c, f (f a b) c = f a (f b c))
include assoc

theorem nest_right_assoc (p q : Parser α) (qs : List (Parser α)) :
    nestRight f (f p q) qs = f p (nestRight f q qs) := by
  cases qs with
  | nil => rfl
  | cons r rs => exact assoc p q (nestRight f r rs)

theorem foldl_eq_nest_right (p : Parser α) (ps : List (Parser α)) :
    ps.foldl f p = nestRight f p ps := by
  induction ps generalizing p with
  | nil => rfl
  | cons q qs induction =>
      rw [List.foldl_cons, induction (f p q), nest_right_assoc assoc]
      rfl

end Nesting

/-! ## Sequencing -/

section Sequencing

variable {m : Monoid α}

theorem chain_assoc (lawful : m.Lawful) (a b c : Parser α) :
    chain m (chain m a b) c = chain m a (chain m b c) := by
  apply ext_parse
  intro text s
  simp only [chain]
  -- the two nestings run `a`, `b` and `c` in the same order and stop at the same error
  cases a.parse s with
  | error e => rfl
  | ok first =>
      obtain ⟨s₁, x⟩ := first
      dsimp only
      cases b.parse s₁ with
      | error e => rfl
      | ok second =>
          obtain ⟨s₂, y⟩ := second
          dsimp only
          cases c.parse s₂ with
          | error e => rfl
          | ok third =>
              obtain ⟨s₃, z⟩ := third
              dsimp only
              rw [lawful.combine_assoc]

variable {u : Parser α}
  (unit : ∀ {text : Array Char} (s : Stream text), u.parse s = .ok (s, m.identity))
include unit

theorem chain_unit_left (lawful : m.Lawful) (a : Parser α) : chain m u a = a := by
  apply ext_parse
  intro text s
  simp only [chain, unit]
  cases a.parse s with
  | error e => rfl
  | ok result =>
      obtain ⟨s₁, x⟩ := result
      dsimp only
      rw [lawful.identity_combine]

theorem chain_unit_right (lawful : m.Lawful) (a : Parser α) : chain m a u = a := by
  apply ext_parse
  intro text s
  simp only [chain]
  cases a.parse s with
  | error e => rfl
  | ok result =>
      obtain ⟨s₁, x⟩ := result
      dsimp only
      rw [unit]
      dsimp only
      rw [lawful.combine_identity]

end Sequencing

theorem optional_of_always_recoverable (m : Monoid α) {q : Parser α}
    (failing : ∀ {text : Array Char} (s : Stream text),
      ∃ e, q.parse s = .error e ∧ e.isFatal = false)
    (s : Stream text) : (optional m q).parse s = .ok (s, m.identity) := by
  obtain ⟨e, qAt, recoverable⟩ := failing s
  simp only [optional, qAt, recoverable]
  rfl

theorem chain_many_eq_nest_right {m : Monoid α} (lawful : m.Lawful) (p : Parser α)
    (ps : List (Parser α)) : chainMany m (p :: ps) = nestRight (chain m) p ps := by
  rw [chain_many_cons, foldl_eq_nest_right (chain_assoc lawful)]

theorem literal_eq_nest_right (c : Char) (rest : List Char) :
    literal (c :: rest) = nestRight (chain Monoid.text) (char c) (rest.map char) := by
  induction rest generalizing c with
  | nil => rfl
  | cons d rest induction =>
      rw [List.map_cons, nestRight, ← induction d]
      rfl

theorem string_eq_chain_many {word : String} (nonEmpty : word ≠ "") :
    string word = chainMany Monoid.text (word.toList.map char) := by
  cases chars : word.toList with
  | nil => exact absurd (String.toList_eq_nil_iff.mp chars) nonEmpty
  | cons c rest =>
      rw [string, chars, List.map_cons, chain_many_eq_nest_right Monoid.text_lawful,
        literal_eq_nest_right]

/-- The laws of sequencing at `m`: `chain` associates, a parser that succeeds everywhere without
reading and yields the identity is neutral on both sides, and a sequence of parsers is their
chain nested to the left and to the right alike. -/
structure SequencingLaws (m : Monoid α) : Prop where
  chain_assoc : ∀ a b c : Parser α, chain m (chain m a b) c = chain m a (chain m b c)
  chain_unit : ∀ u : Parser α,
    (∀ {text : Array Char} (s : Stream text), u.parse s = .ok (s, m.identity)) →
      ∀ a : Parser α, chain m u a = a ∧ chain m a u = a
  chain_many_nests : ∀ (p : Parser α) (ps : List (Parser α)),
    chainMany m (p :: ps) = ps.foldl (chain m) p ∧
      chainMany m (p :: ps) = nestRight (chain m) p ps

theorem sequencing_laws {m : Monoid α} (lawful : m.Lawful) : SequencingLaws m where
  chain_assoc := chain_assoc lawful
  chain_unit _ unit a := ⟨chain_unit_left unit lawful a, chain_unit_right unit lawful a⟩
  chain_many_nests p ps := ⟨chain_many_cons m p ps, chain_many_eq_nest_right lawful p ps⟩

/-- Sequencing of text and of lists is a monoid on parsers, with `optional` of an always failing
parser among its units, and a literal is the sequence of its characters. -/
theorem sequencing_is_a_monoid :
    SequencingLaws Monoid.text ∧ (∀ β : Type, SequencingLaws (Monoid.list β)) ∧
    (∀ (β : Type) (m : Monoid β) (q : Parser β),
      (∀ {text : Array Char} (s : Stream text),
        ∃ e, q.parse s = .error e ∧ e.isFatal = false) →
        ∀ {text : Array Char} (s : Stream text), (optional m q).parse s = .ok (s, m.identity)) ∧
    (∀ word : String, word ≠ "" →
      string word = chainMany Monoid.text (word.toList.map char)) :=
  ⟨sequencing_laws Monoid.text_lawful, fun β => sequencing_laws (Monoid.list_lawful β),
    fun _ m _ failing _ s => optional_of_always_recoverable m failing s,
    fun _ nonEmpty => string_eq_chain_many nonEmpty⟩

/-! ## Choice -/

theorem alt_assoc (a b c : Parser α) : alt (alt a b) c = alt a (alt b c) := by
  apply ext_parse
  intro text s
  rcases settles_or_recoverable (a.parse s) with aSettles | ⟨e₁, aAt, aRecoverable⟩
  · have abAt : (alt a b).parse s = a.parse s := alt_parse_of_settles aSettles
    rw [alt_parse_of_settles (abAt ▸ aSettles), abAt, alt_parse_of_settles aSettles]
  rcases settles_or_recoverable (b.parse s) with bSettles | ⟨e₂, bAt, bRecoverable⟩
  · have abAt : (alt a b).parse s = b.parse s :=
      alt_parse_of_second_settles aAt aRecoverable bSettles
    have bcAt : (alt b c).parse s = b.parse s := alt_parse_of_settles bSettles
    rw [alt_parse_of_settles (abAt ▸ bSettles), abAt,
      alt_parse_of_second_settles aAt aRecoverable (bcAt ▸ bSettles), bcAt]
  -- the first two branches failed recoverably, so both nestings come down to `c`
  have abAt := alt_parse_of_recoverable aAt aRecoverable bAt bRecoverable
  rcases settles_or_recoverable (c.parse s) with cSettles | ⟨e₃, cAt, cRecoverable⟩
  · have bcAt : (alt b c).parse s = c.parse s :=
      alt_parse_of_second_settles bAt bRecoverable cSettles
    rw [alt_parse_of_second_settles abAt rfl cSettles,
      alt_parse_of_second_settles aAt aRecoverable (bcAt ▸ cSettles), bcAt]
  · have bcAt := alt_parse_of_recoverable bAt bRecoverable cAt cRecoverable
    rw [alt_parse_of_recoverable abAt rfl cAt cRecoverable,
      alt_parse_of_recoverable aAt aRecoverable bcAt rfl, ParseError.either_assoc]

/-! ## Many branches -/

section ManyBranches

variable (s : Stream text)

theorem nest_alt_parse_of_settles :
    ∀ (p : Parser α) (ps : List (Parser α)) (r : Outcome text α),
    ((p :: ps).map (·.parse s)).find? settlesChoice = some r →
      (nestRight alt p ps).parse s = r := by
  intro p ps
  induction ps generalizing p with
  | nil =>
      intro r found
      simp only [List.map_cons, List.map_nil, List.find?_cons, List.find?_nil] at found
      split at found
      · cases found
        rfl
      · cases found
  | cons q qs induction =>
      intro r found
      rw [List.map_cons, List.find?_cons] at found
      rw [nestRight]
      split at found
      · rename_i pSettles
        cases found
        exact alt_parse_of_settles pSettles
      · rename_i pNotSettling
        -- a branch passed over failed recoverably, and the rest of the choice settles at `r`
        obtain ⟨e₁, pAt, recoverable⟩ := (settles_or_recoverable (p.parse s)).resolve_left
          (by rw [pNotSettling]; exact Bool.false_ne_true)
        have restAt := induction q r found
        have rSettles := List.find?_some found
        rw [alt_parse_of_second_settles pAt recoverable (restAt ▸ rSettles), restAt]

theorem nest_alt_parse_of_recoverable : ∀ (p : Parser α) (ps : List (Parser α))
    (e : ParseError) (es : List ParseError),
    (p :: ps).map (·.parse s) = (e :: es).map .error →
      (∀ e' ∈ e :: es, e'.isFatal = false) →
      (nestRight alt p ps).parse s = .error (ParseError.eitherAll e es) := by
  intro p ps
  induction ps generalizing p with
  | nil =>
      intro e es outcomes recoverable
      cases es with
      | nil =>
          simp only [List.map_cons, List.map_nil, List.cons.injEq] at outcomes
          exact outcomes.1
      | cons e' es => simp at outcomes
  | cons q qs induction =>
      intro e es outcomes recoverable
      cases es with
      | nil => simp at outcomes
      | cons e' es =>
          simp only [List.map_cons, List.cons.injEq] at outcomes
          have restOutcomes : (q :: qs).map (·.parse s) = (e' :: es).map .error := by
            rw [List.map_cons, List.map_cons, outcomes.2.1, outcomes.2.2]
          have restAt := induction q e' es restOutcomes
            fun e'' member => recoverable e'' (List.mem_cons_of_mem e member)
          have eRecoverable := recoverable e List.mem_cons_self
          have restRecoverable := ParseError.either_all_recoverable
            (recoverable e' (List.mem_cons_of_mem e List.mem_cons_self)) es
          rw [nestRight, alt_parse_of_recoverable outcomes.1 eRecoverable restAt restRecoverable]
          rfl

end ManyBranches

/-- Ordered choice over a non-empty list of branches is the same nested to the left, as `keywords`
builds it, and to the right. Its outcome is that of the first branch that succeeds or fails
fatally; when every branch fails recoverably, one branch gives its own error, and two or more a
failure whose message is all their messages in order, joined by a bar, at the furthest of their
positions. -/
theorem ordered_choice_of_branches (p : Parser α) (ps : List (Parser α)) {text : Array Char}
    (s : Stream text) :
    (ps.foldl alt p).parse s = (nestRight alt p ps).parse s ∧
    (∀ r, ((p :: ps).map (·.parse s)).find? settlesChoice = some r →
      (ps.foldl alt p).parse s = r) ∧
    (∀ es : List ParseError, (p :: ps).map (·.parse s) = es.map .error →
      (∀ e ∈ es, e.isFatal = false) →
        (ps = [] → (ps.foldl alt p).parse s = p.parse s) ∧
        (ps ≠ [] → ∃ err, (ps.foldl alt p).parse s = .error err ∧
          err.kind = .parseFailure ∧
          err.message = " | ".intercalate (es.map (·.message)) ∧
          (es.map (·.position)).max? = some err.position)) := by
  have nests : ps.foldl alt p = nestRight alt p ps := foldl_eq_nest_right alt_assoc p ps
  refine ⟨by rw [nests], fun r found => ?_, fun es outcomes recoverable => ?_⟩
  · rw [nests]
    exact nest_alt_parse_of_settles s p ps r found
  refine ⟨fun noMore => by rw [noMore]; rfl, fun several => ?_⟩
  obtain ⟨q, qs, rfl⟩ := List.exists_cons_of_ne_nil several
  cases es with
  | nil => simp at outcomes
  | cons e es =>
      cases es with
      | nil => simp at outcomes
      | cons e' es =>
          refine ⟨ParseError.eitherAll e (e' :: es), ?_, ParseError.either_all_kind e e' es,
            ?_, ?_⟩
          · rw [nests]
            exact nest_alt_parse_of_recoverable s p (q :: qs) e (e' :: es) outcomes recoverable
          · rw [ParseError.either_all_message]
          · exact ParseError.either_all_position e (e' :: es)

theorem three_characters_fail_together :
    [char 'a', char 'b', char 'c'].map (·.parse (Stream.start #['x'])) =
      [ParseError.failure 0 "expected character \"a\"",
        ParseError.failure 0 "expected character \"b\"",
        ParseError.failure 0 "expected character \"c\""].map .error ∧
    ∃ err, ([char 'b', char 'c'].foldl alt (char 'a')).parse (Stream.start #['x']) = .error err ∧
      err.kind = .parseFailure ∧
      err.message =
        "0: expected character \"a\" | 0: expected character \"b\" | 0: expected character \"c\"" ∧
      err.position = 0 := by
  have failed : [char 'a', char 'b', char 'c'].map (·.parse (Stream.start #['x'])) =
      [ParseError.failure 0 "expected character \"a\"",
        ParseError.failure 0 "expected character \"b\"",
        ParseError.failure 0 "expected character \"c\""].map .error := rfl
  obtain ⟨err, run, kind, message, position⟩ :=
    ((ordered_choice_of_branches (char 'a') [char 'b', char 'c'] (Stream.start #['x'])).2.2 _
      failed (by simp)).2 (List.cons_ne_nil _ _)
  refine ⟨failed, err, run, kind, ?_, ?_⟩
  · rw [message]
    rfl
  · simpa [ParseError.failure] using position.symm

end Parser

end Parsing
