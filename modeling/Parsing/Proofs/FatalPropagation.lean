import Parsing.Proofs.Position

/-!
# A fatal error is never absorbed

The combinators that recover from errors (an alternative, `optional`, the repetition loop) recover
only from recoverable ones, and every other combinator passes an error on unchanged. So once a
run reaches a parser that fails fatally, the whole run fails fatally. Read the other way: when a
run does not fail fatally, no parser that fails fatally everywhere was reached, and that parser may
be replaced by any other without changing the outcome.

The replacement is stated with expression contexts: `Context.plug` puts an expression into the
hole, `Context.fill` puts any parser there. The relation `AgreesUnlessFatal p q` says that `q`
gives `p`'s outcome wherever that outcome is not fatal; every combinator keeps it, so every
context does.
-/

namespace Parsing

set_option autoImplicit false

variable {α β γ : Type} {text : Array Char}

def failsFatally : Outcome text α → Bool
  | .ok _ => false
  | .error e => e.isFatal

@[simp] theorem fails_fatally_ok (r : Stream text × α) : failsFatally (.ok r) = false := rfl

@[simp] theorem fails_fatally_error (e : ParseError) :
    failsFatally (.error e : Outcome text α) = e.isFatal := rfl

namespace Parser

/-- `q` gives the outcome of `p` wherever that outcome is not a fatal error. -/
structure AgreesUnlessFatal (p q : Parser α) : Prop where
  parse_eq : ∀ {text : Array Char} (s : Stream text), failsFatally (p.parse s) = false →
    q.parse s = p.parse s

theorem AgreesUnlessFatal.refl (p : Parser α) : AgreesUnlessFatal p p :=
  ⟨fun _ _ => rfl⟩

theorem AgreesUnlessFatal.ok_eq {p q : Parser α} (agrees : AgreesUnlessFatal p q)
    {s : Stream text} {r : Stream text × α} (run : p.parse s = .ok r) : q.parse s = .ok r :=
  (agrees.parse_eq s (by rw [run]; rfl)).trans run

theorem AgreesUnlessFatal.error_eq {p q : Parser α} (agrees : AgreesUnlessFatal p q)
    {s : Stream text} {e : ParseError} (run : p.parse s = .error e) (recoverable : e.isFatal = false) :
    q.parse s = .error e :=
  (agrees.parse_eq s (by rw [run]; exact recoverable)).trans run

theorem agrees_of_always_fatal {p : Parser α} (q : Parser α)
    (alwaysFatal : ∀ {text : Array Char} (s : Stream text), failsFatally (p.parse s) = true) :
    AgreesUnlessFatal p q := by
  constructor
  intro text s notFatal
  rw [alwaysFatal s] at notFatal
  cases notFatal

/-! ## Every combinator keeps the agreement -/

theorem chain_agrees (m : Monoid α) {first first' second second' : Parser α}
    (firstAgrees : AgreesUnlessFatal first first')
    (secondAgrees : AgreesUnlessFatal second second') :
    AgreesUnlessFatal (chain m first second) (chain m first' second') := by
  constructor
  intro text s notFatal
  simp only [chain] at notFatal ⊢
  cases firstAt : first.parse s with
  | error e =>
      rw [firstAt] at notFatal
      rw [firstAgrees.error_eq firstAt notFatal]
  | ok result =>
      obtain ⟨s₁, a⟩ := result
      rw [firstAt] at notFatal
      rw [firstAgrees.ok_eq firstAt]
      dsimp only at notFatal ⊢
      cases secondAt : second.parse s₁ with
      | error e =>
          rw [secondAt] at notFatal
          rw [secondAgrees.error_eq secondAt notFatal]
      | ok result => rw [secondAgrees.ok_eq secondAt]

theorem alt_agrees {first first' second second' : Parser α}
    (firstAgrees : AgreesUnlessFatal first first')
    (secondAgrees : AgreesUnlessFatal second second') :
    AgreesUnlessFatal (alt first second) (alt first' second') := by
  constructor
  intro text s notFatal
  simp only [alt] at notFatal ⊢
  cases firstAt : first.parse s with
  | ok result => rw [firstAgrees.ok_eq firstAt]
  | error e₁ =>
      rw [firstAt] at notFatal
      dsimp only at notFatal
      by_cases firstFatal : e₁.isFatal
      -- a fatal first branch is the outcome, and that outcome is not fatal: impossible
      · rw [if_pos firstFatal, fails_fatally_error, firstFatal] at notFatal
        cases notFatal
      · have firstRecoverable := Bool.eq_false_iff.mpr firstFatal
        rw [firstAgrees.error_eq firstAt firstRecoverable]
        dsimp only
        rw [if_neg firstFatal] at notFatal
        simp only [if_neg firstFatal]
        cases secondAt : second.parse s with
        | ok result => rw [secondAgrees.ok_eq secondAt]
        | error e₂ =>
            rw [secondAt] at notFatal
            dsimp only at notFatal
            by_cases secondFatal : e₂.isFatal
            · rw [if_pos secondFatal, fails_fatally_error, secondFatal] at notFatal
              cases notFatal
            · rw [secondAgrees.error_eq secondAt (Bool.eq_false_iff.mpr secondFatal)]

theorem optional_agrees (m : Monoid α) {p q : Parser α} (agrees : AgreesUnlessFatal p q) :
    AgreesUnlessFatal (optional m p) (optional m q) := by
  constructor
  intro text s notFatal
  simp only [optional] at notFatal ⊢
  cases pAt : p.parse s with
  | ok result => rw [agrees.ok_eq pAt]
  | error e =>
      rw [pAt] at notFatal
      dsimp only at notFatal
      by_cases fatal : e.isFatal
      · rw [if_pos fatal, fails_fatally_error, fatal] at notFatal
        cases notFatal
      · rw [agrees.error_eq pAt (Bool.eq_false_iff.mpr fatal)]

theorem map_agrees {p q : Parser α} (agrees : AgreesUnlessFatal p q) (f : α → β) :
    AgreesUnlessFatal (p.map f) (q.map f) := by
  constructor
  intro text s notFatal
  rw [map_parse] at notFatal
  rw [map_parse, map_parse]
  cases pAt : p.parse s with
  | ok result => rw [agrees.ok_eq pAt]
  | error e =>
      rw [pAt] at notFatal
      rw [agrees.error_eq pAt notFatal]

theorem to_list_agrees {p q : Parser α} (agrees : AgreesUnlessFatal p q) :
    AgreesUnlessFatal p.toList q.toList :=
  map_agrees agrees _

theorem fold_chain_agrees (m : Monoid α) (rest : List (Parser α)) :
    ∀ {p q : Parser α}, AgreesUnlessFatal p q →
      AgreesUnlessFatal (rest.foldl (chain m) p) (rest.foldl (chain m) q) := by
  induction rest with
  | nil => exact fun agrees => agrees
  | cons r rest induction =>
      intro p q agrees
      exact induction (chain_agrees m agrees (AgreesUnlessFatal.refl r))

theorem chain_many_agrees (m : Monoid α) (before after : List (Parser α)) {p q : Parser α}
    (agrees : AgreesUnlessFatal p q) :
    AgreesUnlessFatal (chainMany m (before ++ p :: after)) (chainMany m (before ++ q :: after)) := by
  cases before with
  | nil =>
      rw [List.nil_append, List.nil_append, chain_many_cons, chain_many_cons]
      exact fold_chain_agrees m after agrees
  | cons b before =>
      rw [List.cons_append, List.cons_append, chain_many_cons, chain_many_cons, List.foldl_append,
        List.foldl_append, List.foldl_cons, List.foldl_cons]
      exact fold_chain_agrees m after (chain_agrees m (AgreesUnlessFatal.refl _) agrees)

theorem surrounded_agrees {opening opening' : Parser β} {closing closing' : Parser γ}
    {inner inner' : Parser α} (openingAgrees : AgreesUnlessFatal opening opening')
    (closingAgrees : AgreesUnlessFatal closing closing')
    (innerAgrees : AgreesUnlessFatal inner inner') :
    AgreesUnlessFatal (surrounded opening closing inner) (surrounded opening' closing' inner') := by
  constructor
  intro text s notFatal
  simp only [surrounded] at notFatal ⊢
  cases openingAt : opening.parse s with
  | error e =>
      rw [openingAt] at notFatal
      rw [openingAgrees.error_eq openingAt notFatal]
  | ok opened =>
      obtain ⟨s₁, x⟩ := opened
      rw [openingAt] at notFatal
      rw [openingAgrees.ok_eq openingAt]
      dsimp only at notFatal ⊢
      cases innerAt : inner.parse s₁ with
      | error e =>
          rw [innerAt] at notFatal
          rw [innerAgrees.error_eq innerAt notFatal]
      | ok read =>
          obtain ⟨s₂, a⟩ := read
          rw [innerAt] at notFatal
          rw [innerAgrees.ok_eq innerAt]
          dsimp only at notFatal ⊢
          cases closingAt : closing.parse s₂ with
          | error e =>
              rw [closingAt] at notFatal
              rw [closingAgrees.error_eq closingAt notFatal]
          | ok closed => rw [closingAgrees.ok_eq closingAt]

theorem greedy_pass_agrees (m : Monoid α) {p q : Parser α} (agrees : AgreesUnlessFatal p q)
    (current : Stream text) (acc : α) :
    (∀ next acc', greedyPass m p current acc = .proceed next acc' →
      greedyPass m q current acc = .proceed next acc') ∧
    (∀ outcome, greedyPass m p current acc = .exit outcome → failsFatally outcome = false →
      greedyPass m q current acc = .exit outcome) := by
  unfold greedyPass
  by_cases inside : current.offset < text.size
  · simp only [if_pos inside]
    cases pAt : p.parse current with
    | ok result =>
        rw [agrees.ok_eq pAt]
        exact ⟨fun _ _ going => going, fun _ leaving _ => leaving⟩
    | error e =>
        dsimp only
        by_cases fatal : e.isFatal
        · rw [if_pos fatal]
          refine ⟨fun _ _ going => (by cases going), fun outcome leaving notFatal => ?_⟩
          cases leaving
          rw [fails_fatally_error, fatal] at notFatal
          cases notFatal
        · rw [agrees.error_eq pAt (Bool.eq_false_iff.mpr fatal)]
          exact ⟨fun _ _ going => going, fun _ leaving _ => leaving⟩
  · simp only [if_neg inside]
    exact ⟨fun _ _ going => going, fun _ leaving _ => leaving⟩

theorem greedy_from_agrees (m : Monoid α) {p q : Parser α} (agrees : AgreesUnlessFatal p q)
    (current : Stream text) (acc : α) (notFatal : failsFatally (greedyFrom m p current acc) = false) :
    greedyFrom m q current acc = greedyFrom m p current acc := by
  revert notFatal
  apply greedy_from_induction m p (fun current acc outcome =>
    failsFatally outcome = false → greedyFrom m q current acc = outcome)
  · intro current acc outcome leaving notFatal
    rw [greedy_from_eq_pass, (greedy_pass_agrees m agrees current acc).2 outcome leaving notFatal]
  · intro current acc next acc' going later notFatal
    rw [greedy_from_eq_pass, (greedy_pass_agrees m agrees current acc).1 next acc' going]
    exact later notFatal

theorem greedy_agrees (m : Monoid α) {p q : Parser α} (agrees : AgreesUnlessFatal p q) :
    AgreesUnlessFatal (greedy m p) (greedy m q) := by
  constructor
  intro text s notFatal
  simp only [greedy] at notFatal ⊢
  cases pAt : p.parse s with
  | error e =>
      rw [pAt] at notFatal
      rw [agrees.error_eq pAt notFatal]
  | ok result =>
      obtain ⟨next, a⟩ := result
      rw [pAt] at notFatal
      rw [agrees.ok_eq pAt]
      dsimp only at notFatal ⊢
      by_cases progress : s.offset < next.offset
      · rw [if_pos progress] at notFatal
        simp only [if_pos progress]
        exact greedy_from_agrees m agrees next a notFatal
      · simp only [if_neg progress]

theorem many1_agrees {p q : Parser α} (agrees : AgreesUnlessFatal p q) :
    AgreesUnlessFatal (many1 p) (many1 q) :=
  greedy_agrees _ (to_list_agrees agrees)

end Parser

open Parsing.Parser

/-! ## Expression contexts -/

/-- An expression with one hole of shape `hole`, at any position of the tree: an operand of a
combinator, one parser of a sequence, either delimiter of `surrounded`, or the one delimiter of
`between`, which stands on both sides. -/
inductive Context (hole : Shape) : Shape → Type where
  | hole : Context hole hole
  | chainFirst {sh : Shape} (c : Context hole sh) (second : Expr sh) : Context hole sh
  | chainSecond {sh : Shape} (first : Expr sh) (c : Context hole sh) : Context hole sh
  | altFirst {sh : Shape} (c : Context hole sh) (second : Expr sh) : Context hole sh
  | altSecond {sh : Shape} (first : Expr sh) (c : Context hole sh) : Context hole sh
  | greedy {sh : Shape} (c : Context hole sh) : Context hole sh
  | optional {sh : Shape} (c : Context hole sh) : Context hole sh
  | chainMany {sh : Shape} (before : List (Expr sh)) (c : Context hole sh)
      (after : List (Expr sh)) : Context hole sh
  | surroundedOpening {sh a b : Shape} (c : Context hole a) (closing : Expr b) (inner : Expr sh) :
      Context hole sh
  | surroundedClosing {sh a b : Shape} (opening : Expr a) (c : Context hole b) (inner : Expr sh) :
      Context hole sh
  | surroundedInner {sh a b : Shape} (opening : Expr a) (closing : Expr b) (c : Context hole sh) :
      Context hole sh
  | betweenDelimiter {sh a : Shape} (c : Context hole a) (inner : Expr sh) : Context hole sh
  | betweenInner {sh a : Shape} (delimiter : Expr a) (c : Context hole sh) : Context hole sh
  | toList {sh : Shape} (c : Context hole sh) : Context hole .list
  | many1 {sh : Shape} (c : Context hole sh) : Context hole .list
  | join (c : Context hole .list) : Context hole .text
  | map {a b : Shape} (f : a.Value → b.Value) (c : Context hole a) : Context hole b

namespace Context

variable {hole : Shape}

def plug {sh : Shape} : Context hole sh → Expr hole → Expr sh
  | .hole, e => e
  | .chainFirst c second, e => .chain (c.plug e) second
  | .chainSecond first c, e => .chain first (c.plug e)
  | .altFirst c second, e => .alt (c.plug e) second
  | .altSecond first c, e => .alt first (c.plug e)
  | .greedy c, e => .greedy (c.plug e)
  | .optional c, e => .optional (c.plug e)
  | .chainMany before c after, e => .chainMany _ (Exprs.ofList _ (before ++ c.plug e :: after))
  | .surroundedOpening c closing inner, e => .surrounded (c.plug e) closing inner
  | .surroundedClosing opening c inner, e => .surrounded opening (c.plug e) inner
  | .surroundedInner opening closing c, e => .surrounded opening closing (c.plug e)
  | .betweenDelimiter c inner, e => .between (c.plug e) inner
  | .betweenInner delimiter c, e => .between delimiter (c.plug e)
  | .toList c, e => .toList (c.plug e)
  | .many1 c, e => .many1 (c.plug e)
  | .join c, e => .join (c.plug e)
  | .map f c, e => .map f (c.plug e)

/-- The parser of the context with the parser `q` in the hole, built as `Expr.parser` builds the
parser of an expression. -/
def fill {sh : Shape} : Context hole sh → Parser hole.Value → Parser sh.Value
  | .hole, q => q
  | @chainFirst _ sh c second, q => Parser.chain sh.monoid (c.fill q) second.parser
  | @chainSecond _ sh first c, q => Parser.chain sh.monoid first.parser (c.fill q)
  | .altFirst c second, q => Parser.alt (c.fill q) second.parser
  | .altSecond first c, q => Parser.alt first.parser (c.fill q)
  | @greedy _ sh c, q => Parser.greedy sh.monoid (c.fill q)
  | @optional _ sh c, q => Parser.optional sh.monoid (c.fill q)
  | @chainMany _ sh before c after, q =>
      Parser.chainMany sh.monoid (before.map Expr.parser ++ c.fill q :: after.map Expr.parser)
  | .surroundedOpening c closing inner, q => Parser.surrounded (c.fill q) closing.parser inner.parser
  | .surroundedClosing opening c inner, q => Parser.surrounded opening.parser (c.fill q) inner.parser
  | .surroundedInner opening closing c, q => Parser.surrounded opening.parser closing.parser (c.fill q)
  | .betweenDelimiter c inner, q => Parser.between (c.fill q) inner.parser
  | .betweenInner delimiter c, q => Parser.between delimiter.parser (c.fill q)
  | @toList _ sh c, q => ((c.fill q).map sh.item).toList
  | @many1 _ sh c, q => Parser.many1 ((c.fill q).map sh.item)
  | .join c, q => Parser.join ((c.fill q).map (·.map Item.flatten))
  | .map f c, q => (c.fill q).map f

theorem fill_eq_plug {sh : Shape} (c : Context hole sh) (e : Expr hole) :
    c.fill e.parser = (c.plug e).parser := by
  induction c with
  | hole => rfl
  | chainMany before c after induction =>
      simp only [fill, plug, Expr.parser, Exprs.parsers_eq_map, Exprs.toList_ofList, List.map_append,
        List.map_cons, induction]
  | _ => simp only [fill, plug, Expr.parser, *]

theorem fill_agrees {sh : Shape} (c : Context hole sh) {p q : Parser hole.Value}
    (agrees : p.AgreesUnlessFatal q) : (c.fill p).AgreesUnlessFatal (c.fill q) := by
  induction c with
  | hole => exact agrees
  | chainFirst c second induction => exact chain_agrees _ induction (.refl _)
  | chainSecond first c induction => exact chain_agrees _ (.refl _) induction
  | altFirst c second induction => exact alt_agrees induction (.refl _)
  | altSecond first c induction => exact alt_agrees (.refl _) induction
  | greedy c induction => exact greedy_agrees _ induction
  | optional c induction => exact optional_agrees _ induction
  | chainMany before c after induction => exact chain_many_agrees _ _ _ induction
  | surroundedOpening c closing inner induction => exact surrounded_agrees induction (.refl _) (.refl _)
  | surroundedClosing opening c inner induction => exact surrounded_agrees (.refl _) induction (.refl _)
  | surroundedInner opening closing c induction => exact surrounded_agrees (.refl _) (.refl _) induction
  | betweenDelimiter c inner induction => exact surrounded_agrees induction induction (.refl _)
  | betweenInner delimiter c induction => exact surrounded_agrees (.refl _) (.refl _) induction
  | toList c induction => exact to_list_agrees (map_agrees induction _)
  | many1 c induction => exact many1_agrees (map_agrees induction _)
  | join c induction => exact map_agrees (map_agrees induction _) _
  | map f c induction => exact map_agrees induction _

end Context

/-- A fatal error is never absorbed: if an expression holds, at any position, a sub-expression
that fails fatally on every stream, and a run of the expression does not fail fatally, then
putting any parser in that position leaves the outcome of the run unchanged. -/
theorem fatal_source_never_absorbed {hole sh : Shape} (c : Context hole sh) (f : Expr hole)
    (alwaysFatal : ∀ (text : Array Char) (s : Stream text),
      ∃ err, f.parser.parse s = .error err ∧ err.kind = .fatal)
    (q : Parser hole.Value) {text : Array Char} (s : Stream text)
    (notFatal : ∀ err, (c.plug f).parser.parse s = .error err → err.kind ≠ .fatal) :
    (c.fill q).parse s = (c.plug f).parser.parse s := by
  have agrees : f.parser.AgreesUnlessFatal q := by
    apply agrees_of_always_fatal
    intro text s
    obtain ⟨err, run, fatal⟩ := alwaysFatal text s
    rw [run, fails_fatally_error, (ParseError.isFatal_iff err).mpr fatal]
  have outcomeNotFatal : failsFatally ((c.plug f).parser.parse s) = false := by
    cases run : (c.plug f).parser.parse s with
    | ok result => rfl
    | error err =>
        rw [fails_fatally_error]
        exact Bool.eq_false_iff.mpr (mt (ParseError.isFatal_iff err).mp (notFatal err run))
  rw [← Context.fill_eq_plug] at outcomeNotFatal ⊢
  exact (Context.fill_agrees c agrees).parse_eq s outcomeNotFatal

theorem fatal_second_branch_replaceable :
    (∀ (text : Array Char) (s : Stream text), ∃ err,
      (Expr.fatal .text "broken grammar").parser.parse s = .error err ∧ err.kind = .fatal) ∧
    (∀ err, ((Context.altSecond (.char 'a') .hole).plug (.fatal .text "broken grammar")).parser.parse
      (Stream.start #['a']) = .error err → err.kind ≠ .fatal) ∧
    ((Context.altSecond (.char 'a') .hole).fill (Parser.char 'b')).parse (Stream.start #['a']) =
      ((Context.altSecond (.char 'a') .hole).plug (.fatal .text "broken grammar")).parser.parse
        (Stream.start #['a']) := by
  have alwaysFatal : ∀ (text : Array Char) (s : Stream text), ∃ err,
      (Expr.fatal .text "broken grammar").parser.parse s = .error err ∧ err.kind = .fatal :=
    fun _ _ => ⟨_, rfl, rfl⟩
  have notFatal : ∀ err, ((Context.altSecond (.char 'a') .hole).plug
      (.fatal .text "broken grammar")).parser.parse (Stream.start #['a']) = .error err →
      err.kind ≠ .fatal := by
    intro err run
    cases run
  exact ⟨alwaysFatal, notFatal,
    fatal_source_never_absorbed _ _ alwaysFatal (Parser.char 'b') _ notFatal⟩

end Parsing
