import Parsing.Expr.Parser
import Parsing.Proofs.Combinators
import Parsing.Proofs.Repetition

/-!
# Where a parser stops

Every parser of the library, and so every parser expression, ends a success at or after the stream
it started from, and names in an error a position from that stream to the end of the text. Only a
single-character parser that found no character reports the end of the input, and it does so at
the end itself; the alternatives that could hide such an error turn it into a plain failure. The
invariant is `Parser.StaysInBounds`, proved for each combinator from its parts, then for the named
parsers and by structural recursion for every expression.
-/

namespace Parsing

set_option autoImplicit false

variable {α β γ : Type} {text : Array Char}

/-- Where an error of a run from `s` may stand: at `s` or later and not past the end, and at the
end itself when the input ran out. -/
def ErrorWithin (s : Stream text) (e : ParseError) : Prop :=
  s.offset ≤ e.position ∧ e.position ≤ text.size ∧ (e.kind = .endOfInput → e.position = text.size)

theorem ErrorWithin.of_le {s s₁ : Stream text} {e : ParseError} (later : s.offset ≤ s₁.offset)
    (within : ErrorWithin s₁ e) : ErrorWithin s e :=
  ⟨Nat.le_trans later within.1, within.2⟩

theorem error_within_either {s : Stream text} {first second : ParseError}
    (firstWithin : ErrorWithin s first) (secondWithin : ErrorWithin s second) :
    ErrorWithin s (first.either second) := by
  refine ⟨?_, ?_, ?_⟩
  · exact Nat.le_trans firstWithin.1 (Nat.le_max_left _ _)
  · exact Nat.max_le.mpr ⟨firstWithin.2.1, secondWithin.2.1⟩
  -- the joined error is a plain failure, never an end of input
  · intro endOfInput
    cases endOfInput

theorem error_within_fatal (s : Stream text) (message : String) :
    ErrorWithin s (.fatal s.offset message) :=
  ⟨Nat.le_refl _, s.offset_le, fun notFatal => by cases notFatal⟩

theorem Stream.offset_lt_of_peek {s : Stream text} {c : Char} (peeked : s.peek = some c) :
    s.offset < text.size :=
  (Array.getElem?_eq_some_iff.mp peeked).1

namespace Parser

/-- The position invariant of a parser: a success ends at or after the stream it ran from, and
an error is `ErrorWithin` that stream. -/
structure StaysInBounds (p : Parser α) : Prop where
  ok_offset : ∀ {text : Array Char} {s next : Stream text} {a : α},
    p.parse s = .ok (next, a) → s.offset ≤ next.offset
  error_within : ∀ {text : Array Char} {s : Stream text} {e : ParseError},
    p.parse s = .error e → ErrorWithin s e

theorem predicate_stays_in_bounds (accepts : Char → Bool) (value : Char → α) (expected : String) :
    (predicate accepts value expected).StaysInBounds := by
  constructor
  · intro text s next a run
    simp only [predicate] at run
    cases peeked : s.peek with
    | none => rw [peeked] at run; cases run
    | some c =>
        rw [peeked] at run
        dsimp only at run
        by_cases accepted : accepts c
        · rw [if_pos accepted] at run
          cases run
          simp only [Stream.offset_advance]
          have inside := Stream.offset_lt_of_peek peeked
          omega
        · rw [if_neg accepted] at run; cases run
  · intro text s e run
    simp only [predicate] at run
    cases peeked : s.peek with
    | none =>
        rw [peeked] at run
        cases run
        -- only here does a parser report the end of the input, and only at the end
        have atEnd := (Stream.isEof_iff s).mp ((Stream.peek_eq_none_iff s).mp peeked)
        exact ⟨Nat.le_refl _, atEnd ▸ Nat.le_refl _, fun _ => atEnd⟩
    | some c =>
        rw [peeked] at run
        dsimp only at run
        by_cases accepted : accepts c
        · rw [if_pos accepted] at run; cases run
        · rw [if_neg accepted] at run
          cases run
          exact ⟨Nat.le_refl _, s.offset_le, fun notFailure => by cases notFailure⟩

theorem chain_stays_in_bounds (m : Monoid α) {first second : Parser α}
    (firstBounded : first.StaysInBounds) (secondBounded : second.StaysInBounds) :
    (chain m first second).StaysInBounds := by
  constructor
  · intro text s s₂ v run
    obtain ⟨s₁, a, b, firstAt, secondAt, -⟩ := chain_parse_eq_ok run
    exact Nat.le_trans (firstBounded.ok_offset firstAt) (secondBounded.ok_offset secondAt)
  · intro text s e run
    rcases chain_parse_eq_error run with firstAt | ⟨s₁, a, firstAt, secondAt⟩
    · exact firstBounded.error_within firstAt
    · exact (secondBounded.error_within secondAt).of_le (firstBounded.ok_offset firstAt)

theorem alt_stays_in_bounds {first second : Parser α} (firstBounded : first.StaysInBounds)
    (secondBounded : second.StaysInBounds) : (alt first second).StaysInBounds := by
  constructor
  · intro text s next a run
    rcases alt_parse_eq_ok run with firstAt | secondAt
    · exact firstBounded.ok_offset firstAt
    · exact secondBounded.ok_offset secondAt
  · intro text s e run
    rcases alt_parse_eq_error run with ⟨firstAt, -⟩ | ⟨secondAt, -⟩ |
      ⟨e₁, e₂, firstAt, secondAt, rfl⟩
    · exact firstBounded.error_within firstAt
    · exact secondBounded.error_within secondAt
    · exact error_within_either (firstBounded.error_within firstAt)
        (secondBounded.error_within secondAt)

theorem optional_stays_in_bounds (m : Monoid α) {p : Parser α} (bounded : p.StaysInBounds) :
    (optional m p).StaysInBounds := by
  constructor
  · intro text s next a run
    rcases optional_parse_eq_ok run with pAt | same
    · exact bounded.ok_offset pAt
    · cases same
      exact Nat.le_refl _
  · intro text s e run
    exact bounded.error_within (optional_parse_eq_error run).1

theorem map_stays_in_bounds {p : Parser α} (bounded : p.StaysInBounds) (f : α → β) :
    (p.map f).StaysInBounds := by
  constructor
  · intro text s next b run
    obtain ⟨a, pAt, -⟩ := map_parse_eq_ok run
    exact bounded.ok_offset pAt
  · intro text s e run
    exact bounded.error_within (map_parse_eq_error run)

theorem fatal_stays_in_bounds (message : String) : (fatal message : Parser α).StaysInBounds := by
  constructor
  · intro text s next a run
    cases run
  · intro text s e run
    cases run
    exact error_within_fatal s message

theorem to_list_stays_in_bounds {p : Parser α} (bounded : p.StaysInBounds) :
    p.toList.StaysInBounds :=
  map_stays_in_bounds bounded _

theorem chain_many_stays_in_bounds (m : Monoid α) {ps : List (Parser α)}
    (bounded : ∀ p ∈ ps, p.StaysInBounds) : (chainMany m ps).StaysInBounds := by
  cases ps with
  | nil => exact fatal_stays_in_bounds _
  | cons p ps =>
      rw [chain_many_cons]
      exact List.foldlRecOn ps (chain m) (bounded p List.mem_cons_self)
        fun _ accBounded q member =>
          chain_stays_in_bounds m accBounded (bounded q (List.mem_cons_of_mem p member))

theorem surrounded_stays_in_bounds {opening : Parser β} {closing : Parser γ} {inner : Parser α}
    (openingBounded : opening.StaysInBounds) (closingBounded : closing.StaysInBounds)
    (innerBounded : inner.StaysInBounds) : (surrounded opening closing inner).StaysInBounds := by
  constructor
  · intro text s s₃ a run
    obtain ⟨s₁, x, s₂, y, openingAt, innerAt, closingAt⟩ := surrounded_parse_eq_ok run
    calc s.offset ≤ s₁.offset := openingBounded.ok_offset openingAt
      _ ≤ s₂.offset := innerBounded.ok_offset innerAt
      _ ≤ s₃.offset := closingBounded.ok_offset closingAt
  · intro text s e run
    rcases surrounded_parse_eq_error run with openingAt | ⟨s₁, x, openingAt, innerAt⟩ |
      ⟨s₁, x, s₂, a, openingAt, innerAt, closingAt⟩
    · exact openingBounded.error_within openingAt
    · exact (innerBounded.error_within innerAt).of_le (openingBounded.ok_offset openingAt)
    · have innerLater := Nat.le_trans (openingBounded.ok_offset openingAt)
        (innerBounded.ok_offset innerAt)
      exact (closingBounded.error_within closingAt).of_le innerLater

theorem between_stays_in_bounds {delimiter : Parser β} {inner : Parser α}
    (delimiterBounded : delimiter.StaysInBounds) (innerBounded : inner.StaysInBounds) :
    (between delimiter inner).StaysInBounds :=
  surrounded_stays_in_bounds delimiterBounded delimiterBounded innerBounded

/-! ## Repetition -/

theorem greedy_from_error_within (m : Monoid α) {p : Parser α} (bounded : p.StaysInBounds)
    (current : Stream text) (acc : α) {e : ParseError}
    (run : greedyFrom m p current acc = .error e) : ErrorWithin current e := by
  revert run
  apply greedy_from_induction m p (fun current _ outcome => outcome = .error e → ErrorWithin current e)
  · intro current acc outcome leaving
    rcases greedy_pass_exit leaving with ⟨_, rfl⟩ | ⟨_, e', pAt, rfl⟩ | ⟨_, _, _, _, _, rfl⟩
    · intro run
      cases run
    · split
      · intro run
        cases run
        exact bounded.error_within pAt
      · intro run
        cases run
    · intro run
      cases run
      exact error_within_fatal current _
  · intro current acc next acc' going later run
    exact (later run).of_le (Nat.le_of_lt (greedy_pass_proceed going).2.1)

theorem greedy_stays_in_bounds (m : Monoid α) {p : Parser α} (bounded : p.StaysInBounds) :
    (greedy m p).StaysInBounds := by
  constructor
  · intro text s s' v run
    obtain ⟨next, a, _, progress, loopAt⟩ := greedy_parse_eq_ok run
    exact Nat.le_trans (Nat.le_of_lt progress) (greedy_from_ok_offset m p next a loopAt)
  · intro text s e run
    rcases greedy_parse_eq_error run with firstAt | ⟨next, a, _, _, rfl⟩ |
      ⟨next, a, _, progress, loopAt⟩
    · exact bounded.error_within firstAt
    · exact error_within_fatal s _
    · exact (greedy_from_error_within m bounded next a loopAt).of_le (Nat.le_of_lt progress)

theorem many1_stays_in_bounds {p : Parser α} (bounded : p.StaysInBounds) :
    (many1 p).StaysInBounds :=
  greedy_stays_in_bounds _ (to_list_stays_in_bounds bounded)

/-! ## Text parsers -/

theorem satisfy_stays_in_bounds (accepts : Char → Bool) (expected : String) :
    (satisfy accepts expected).StaysInBounds :=
  predicate_stays_in_bounds _ _ _

theorem char_stays_in_bounds (c : Char) : (char c).StaysInBounds :=
  satisfy_stays_in_bounds _ _

theorem any_letter_stays_in_bounds : anyLetter.StaysInBounds :=
  alt_stays_in_bounds (satisfy_stays_in_bounds _ _) (satisfy_stays_in_bounds _ _)

theorem literal_stays_in_bounds : ∀ chars : List Char, (literal chars).StaysInBounds
  | [] => fatal_stays_in_bounds _
  | [c] => char_stays_in_bounds c
  | c :: d :: rest =>
      chain_stays_in_bounds _ (char_stays_in_bounds c) (literal_stays_in_bounds (d :: rest))

theorem string_stays_in_bounds (word : String) : (string word).StaysInBounds :=
  literal_stays_in_bounds word.toList

theorem keywords_stays_in_bounds (words : List String) : (keywords words).StaysInBounds := by
  cases words with
  | nil => exact fatal_stays_in_bounds _
  | cons first rest =>
      rw [keywords_cons]
      exact List.foldlRecOn rest _ (string_stays_in_bounds first)
        fun _ accBounded word _ => alt_stays_in_bounds accBounded (string_stays_in_bounds word)

theorem join_stays_in_bounds {p : Parser (List String)} (bounded : p.StaysInBounds) :
    (join p).StaysInBounds :=
  map_stays_in_bounds bounded _

end Parser

/-! ## Grammars and expressions -/

open Parsing.Parser

theorem Grammar.keyword_stream_stays_in_bounds : Grammar.keywordStream.StaysInBounds :=
  many1_stays_in_bounds (keywords_stays_in_bounds _)

theorem FieldDeclaration.parts_stays_in_bounds : FieldDeclaration.parts.StaysInBounds := by
  have sentenceBounded : FieldDeclaration.sentence.StaysInBounds :=
    greedy_stays_in_bounds _ (alt_stays_in_bounds
      (greedy_stays_in_bounds _ any_letter_stays_in_bounds)
      (greedy_stays_in_bounds _ (satisfy_stays_in_bounds _ _)))
  have defaultBounded : FieldDeclaration.defaultValue.StaysInBounds :=
    surrounded_stays_in_bounds (string_stays_in_bounds _) (char_stays_in_bounds _) sentenceBounded
  apply chain_many_stays_in_bounds
  simp only [List.mem_cons, List.not_mem_nil, or_false, forall_eq_or_imp, forall_eq]
  exact ⟨to_list_stays_in_bounds (greedy_stays_in_bounds _ (satisfy_stays_in_bounds _ _)),
    to_list_stays_in_bounds (char_stays_in_bounds _),
    to_list_stays_in_bounds (keywords_stays_in_bounds _),
    optional_stays_in_bounds _ (to_list_stays_in_bounds defaultBounded)⟩

theorem FieldDeclaration.parser_stays_in_bounds : FieldDeclaration.parser.StaysInBounds :=
  surrounded_stays_in_bounds (char_stays_in_bounds _) (char_stays_in_bounds _)
    (map_stays_in_bounds FieldDeclaration.parts_stays_in_bounds _)

theorem Token.parser_stays_in_bounds : Token.parser.StaysInBounds := by
  have bracedBounded : Token.braced.StaysInBounds :=
    map_stays_in_bounds (surrounded_stays_in_bounds (char_stays_in_bounds _)
      (char_stays_in_bounds _) (greedy_stays_in_bounds _ (satisfy_stays_in_bounds _ _))) _
  have bracketedBounded : Token.bracketed.StaysInBounds :=
    map_stays_in_bounds (surrounded_stays_in_bounds (char_stays_in_bounds _)
      (char_stays_in_bounds _) (greedy_stays_in_bounds _ any_letter_stays_in_bounds)) _
  exact greedy_stays_in_bounds _ (alt_stays_in_bounds bracedBounded bracketedBounded)

theorem Named.parser_stays_in_bounds {sh : Shape} : (name : Named sh) → name.parser.StaysInBounds
  | .space | .letter | .upperLetter | .digit => satisfy_stays_in_bounds _ _
  | .anyLetter => any_letter_stays_in_bounds
  | .word | .upperWord | .digits | .spaces => greedy_stays_in_bounds _ (satisfy_stays_in_bounds _ _)
  | .anyWord => greedy_stays_in_bounds _ any_letter_stays_in_bounds
  | .fieldDeclaration => map_stays_in_bounds FieldDeclaration.parser_stays_in_bounds _
  | .keywordStream => map_stays_in_bounds Grammar.keyword_stream_stays_in_bounds _
  | .alternationStream =>
      map_stays_in_bounds (many1_stays_in_bounds (alt_stays_in_bounds
        (alt_stays_in_bounds (string_stays_in_bounds _) (string_stays_in_bounds _))
        (string_stays_in_bounds _))) _
  | .wordTokens =>
      map_stays_in_bounds (many1_stays_in_bounds (between_stays_in_bounds
        (optional_stays_in_bounds _ (satisfy_stays_in_bounds _ _))
        (greedy_stays_in_bounds _ (satisfy_stays_in_bounds _ _)))) _
  | .taggedTokens => map_stays_in_bounds Token.parser_stays_in_bounds _

theorem Exprs.parsers_eq_map : {sh : Shape} → (es : Exprs sh) →
    es.parsers = es.toList.map Expr.parser
  | _, .nil _ => rfl
  | _, .cons e es => by rw [Exprs.parsers, Exprs.toList, List.map_cons, Exprs.parsers_eq_map es]

mutual

theorem Expr.parser_stays_in_bounds : {sh : Shape} → (e : Expr sh) → e.parser.StaysInBounds
  | _, .named name => name.parser_stays_in_bounds
  | _, .char c => char_stays_in_bounds c
  | _, .satisfy _ _ => satisfy_stays_in_bounds _ _
  | _, .predicate _ _ _ => predicate_stays_in_bounds _ _ _
  | _, .string word => string_stays_in_bounds word
  | _, .keywords words => keywords_stays_in_bounds words
  | _, .chain first second =>
      chain_stays_in_bounds _ first.parser_stays_in_bounds second.parser_stays_in_bounds
  | _, .alt first second =>
      alt_stays_in_bounds first.parser_stays_in_bounds second.parser_stays_in_bounds
  | _, .greedy p => greedy_stays_in_bounds _ p.parser_stays_in_bounds
  | _, .optional p => optional_stays_in_bounds _ p.parser_stays_in_bounds
  | _, .chainMany _ ps => chain_many_stays_in_bounds _ (Exprs.parsers_stay_in_bounds ps)
  | _, .surrounded opening closing inner =>
      surrounded_stays_in_bounds opening.parser_stays_in_bounds closing.parser_stays_in_bounds
        inner.parser_stays_in_bounds
  | _, .between delimiter inner =>
      between_stays_in_bounds delimiter.parser_stays_in_bounds inner.parser_stays_in_bounds
  | _, .toList p => to_list_stays_in_bounds (map_stays_in_bounds p.parser_stays_in_bounds _)
  | _, .many1 p => many1_stays_in_bounds (map_stays_in_bounds p.parser_stays_in_bounds _)
  | _, .join p => join_stays_in_bounds (map_stays_in_bounds p.parser_stays_in_bounds _)
  | _, .map _ p => map_stays_in_bounds p.parser_stays_in_bounds _
  | _, .fatal _ _ => fatal_stays_in_bounds _

theorem Exprs.parsers_stay_in_bounds :
    {sh : Shape} → (es : Exprs sh) → ∀ p ∈ es.parsers, p.StaysInBounds
  | _, .nil _ => fun _ member => by cases member
  | _, .cons e es => by
      intro p member
      rcases List.mem_cons.mp member with rfl | member
      · exact e.parser_stays_in_bounds
      · exact Exprs.parsers_stay_in_bounds es p member

end

/-- The position invariant of every parser expression: a success ends at or after where the run
started and not past the end of the text, and an error names a position from the start of the run
to the end of the text, the end itself when the input ran out. -/
theorem parse_stays_within_input {sh : Shape} (e : Expr sh) {text : Array Char} (s : Stream text) :
    (∀ (next : Stream text) (v : sh.Value), e.parser.parse s = .ok (next, v) →
      s.offset ≤ next.offset ∧ next.offset ≤ text.size) ∧
    (∀ err : ParseError, e.parser.parse s = .error err →
      s.offset ≤ err.position ∧ err.position ≤ text.size ∧
        (err.kind = .endOfInput → err.position = text.size)) := by
  have bounded := e.parser_stays_in_bounds
  constructor
  · intro next v run
    exact ⟨bounded.ok_offset run, next.offset_le⟩
  · intro err run
    exact bounded.error_within run

end Parsing
