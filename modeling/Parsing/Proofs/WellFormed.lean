import Parsing.Grammar.Registry
import Parsing.Proofs.Position

/-!
# Well-formed expressions never fail fatally

A fatal error has two sources. One is a parser that cannot work at all: a `fatal` node, an empty
literal, an empty keyword list or a keyword that is empty, a sequence of no parsers. The other is
a repetition whose parser succeeded without consuming. An expression is strict when its syntax
alone shows that every success consumes input, and well formed when it holds no parser of the
first kind and repeats only strict expressions. The parser of a well-formed expression never
fails fatally, so `optional` of it never fails at all; the registered grammars are such parsers.
-/

namespace Parsing

set_option autoImplicit false

variable {α β γ : Type} {text : Array Char}

namespace Parser

structure Consumes (p : Parser α) : Prop where
  ok_offset_lt : ∀ {text : Array Char} {s next : Stream text} {a : α},
    p.parse s = .ok (next, a) → s.offset < next.offset

structure NeverFatal (p : Parser α) : Prop where
  error_not_fatal : ∀ {text : Array Char} {s : Stream text} {e : ParseError},
    p.parse s = .error e → e.isFatal = false

theorem NeverFatal.kind_ne_fatal {p : Parser α} (safe : p.NeverFatal) {s : Stream text}
    {e : ParseError} (run : p.parse s = .error e) : e.kind ≠ .fatal := by
  intro fatal
  have notFatal := safe.error_not_fatal run
  rw [(ParseError.isFatal_iff e).mpr fatal] at notFatal
  cases notFatal

/-! ## Consuming parsers -/

theorem predicate_consumes (accepts : Char → Bool) (value : Char → α) (expected : String) :
    (predicate accepts value expected).Consumes := by
  constructor
  intro text s next a run
  simp only [predicate] at run
  cases peeked : s.peek with
  | none => rw [peeked] at run; cases run
  | some c =>
      rw [peeked] at run
      dsimp only at run
      by_cases accepted : accepts c
      · rw [if_pos accepted] at run
        cases run
        have inside := Stream.offset_lt_of_peek peeked
        rw [Stream.offset_advance_of_lt s inside]
        omega
      · rw [if_neg accepted] at run; cases run

theorem chain_consumes (m : Monoid α) {first second : Parser α}
    (firstBounded : first.StaysInBounds) (secondBounded : second.StaysInBounds)
    (consuming : first.Consumes ∨ second.Consumes) : (chain m first second).Consumes := by
  constructor
  intro text s s₂ v run
  obtain ⟨s₁, a, b, firstAt, secondAt, -⟩ := chain_parse_eq_ok run
  have firstLater := firstBounded.ok_offset firstAt
  have secondLater := secondBounded.ok_offset secondAt
  rcases consuming with firstConsumes | secondConsumes
  · have firstStrict := firstConsumes.ok_offset_lt firstAt
    omega
  · have secondStrict := secondConsumes.ok_offset_lt secondAt
    omega

theorem alt_consumes {first second : Parser α} (firstConsumes : first.Consumes)
    (secondConsumes : second.Consumes) : (alt first second).Consumes := by
  constructor
  intro text s next a run
  rcases alt_parse_eq_ok run with firstAt | secondAt
  · exact firstConsumes.ok_offset_lt firstAt
  · exact secondConsumes.ok_offset_lt secondAt

theorem map_consumes {p : Parser α} (consumes : p.Consumes) (f : α → β) : (p.map f).Consumes := by
  constructor
  intro text s next b run
  obtain ⟨a, pAt, -⟩ := map_parse_eq_ok run
  exact consumes.ok_offset_lt pAt

theorem fatal_consumes (message : String) : (fatal message : Parser α).Consumes := by
  constructor
  intro text s next a run
  cases run

theorem fold_chain_consumes (m : Monoid α) (rest : List (Parser α)) :
    ∀ first : Parser α, first.StaysInBounds → (∀ q ∈ rest, q.StaysInBounds) →
      (first.Consumes ∨ ∃ q ∈ rest, q.Consumes) → (rest.foldl (chain m) first).Consumes := by
  induction rest with
  | nil =>
      intro first _ _ consuming
      rcases consuming with firstConsumes | ⟨q, member, _⟩
      · exact firstConsumes
      · cases member
  | cons q rest induction =>
      intro first firstBounded restBounded consuming
      rw [List.foldl_cons]
      have qBounded := restBounded q List.mem_cons_self
      apply induction (chain m first q) (chain_stays_in_bounds m firstBounded qBounded)
        (fun q' member => restBounded q' (List.mem_cons_of_mem q member))
      rcases consuming with firstConsumes | ⟨q', member, q'Consumes⟩
      · exact .inl (chain_consumes m firstBounded qBounded (.inl firstConsumes))
      · rcases List.mem_cons.mp member with rfl | later
        · exact .inl (chain_consumes m firstBounded qBounded (.inr q'Consumes))
        · exact .inr ⟨q', later, q'Consumes⟩

theorem chain_many_consumes (m : Monoid α) {ps : List (Parser α)}
    (bounded : ∀ p ∈ ps, p.StaysInBounds) (consuming : ∃ p ∈ ps, p.Consumes) :
    (chainMany m ps).Consumes := by
  cases ps with
  | nil => exact fatal_consumes _
  | cons p ps =>
      rw [chain_many_cons]
      apply fold_chain_consumes m ps p (bounded p List.mem_cons_self)
        (fun q member => bounded q (List.mem_cons_of_mem p member))
      obtain ⟨q, member, qConsumes⟩ := consuming
      rcases List.mem_cons.mp member with rfl | later
      · exact .inl qConsumes
      · exact .inr ⟨q, later, qConsumes⟩

theorem surrounded_consumes {opening : Parser β} {closing : Parser γ} {inner : Parser α}
    (openingBounded : opening.StaysInBounds) (closingBounded : closing.StaysInBounds)
    (innerBounded : inner.StaysInBounds)
    (consuming : opening.Consumes ∨ closing.Consumes ∨ inner.Consumes) :
    (surrounded opening closing inner).Consumes := by
  constructor
  intro text s s₃ a run
  obtain ⟨s₁, x, s₂, y, openingAt, innerAt, closingAt⟩ := surrounded_parse_eq_ok run
  have openingLater := openingBounded.ok_offset openingAt
  have innerLater := innerBounded.ok_offset innerAt
  have closingLater := closingBounded.ok_offset closingAt
  rcases consuming with openingConsumes | closingConsumes | innerConsumes
  · have openingStrict := openingConsumes.ok_offset_lt openingAt
    omega
  · have closingStrict := closingConsumes.ok_offset_lt closingAt
    omega
  · have innerStrict := innerConsumes.ok_offset_lt innerAt
    omega

theorem greedy_consumes (m : Monoid α) (p : Parser α) : (greedy m p).Consumes := by
  constructor
  intro text s s' v run
  obtain ⟨next, a, _, progress, loopAt⟩ := greedy_parse_eq_ok run
  exact Nat.lt_of_lt_of_le progress (greedy_from_ok_offset m p next a loopAt)

theorem literal_consumes : ∀ chars : List Char, chars ≠ [] → (literal chars).Consumes
  | [], nonEmpty => absurd rfl nonEmpty
  | [_], _ => predicate_consumes _ _ _
  | c :: d :: rest, _ =>
      chain_consumes _ (char_stays_in_bounds c) (literal_stays_in_bounds (d :: rest))
        (.inl (predicate_consumes _ _ _))

theorem string_consumes {word : String} (nonEmpty : word ≠ "") : (string word).Consumes :=
  literal_consumes word.toList (mt String.toList_eq_nil_iff.mp nonEmpty)

/-! ## Parsers that never fail fatally -/

theorem predicate_never_fatal (accepts : Char → Bool) (value : Char → α) (expected : String) :
    (predicate accepts value expected).NeverFatal := by
  constructor
  intro text s e run
  simp only [predicate] at run
  cases peeked : s.peek with
  | none => rw [peeked] at run; cases run; rfl
  | some c =>
      rw [peeked] at run
      dsimp only at run
      by_cases accepted : accepts c
      · rw [if_pos accepted] at run; cases run
      · rw [if_neg accepted] at run; cases run; rfl

theorem chain_never_fatal (m : Monoid α) {first second : Parser α}
    (firstSafe : first.NeverFatal) (secondSafe : second.NeverFatal) :
    (chain m first second).NeverFatal := by
  constructor
  intro text s e run
  rcases chain_parse_eq_error run with firstAt | ⟨s₁, a, _, secondAt⟩
  · exact firstSafe.error_not_fatal firstAt
  · exact secondSafe.error_not_fatal secondAt

theorem alt_never_fatal {first second : Parser α} (firstSafe : first.NeverFatal)
    (secondSafe : second.NeverFatal) : (alt first second).NeverFatal := by
  constructor
  intro text s e run
  rcases alt_parse_eq_error run with ⟨firstAt, fatal⟩ | ⟨secondAt, fatal⟩ | ⟨e₁, e₂, _, _, rfl⟩
  · rw [firstSafe.error_not_fatal firstAt] at fatal
    cases fatal
  · rw [secondSafe.error_not_fatal secondAt] at fatal
    cases fatal
  · rfl

theorem optional_never_fatal (m : Monoid α) {p : Parser α} (safe : p.NeverFatal) :
    (optional m p).NeverFatal := by
  constructor
  intro text s e run
  obtain ⟨pAt, fatal⟩ := optional_parse_eq_error run
  rw [safe.error_not_fatal pAt] at fatal
  cases fatal

theorem optional_parse_ok (m : Monoid α) {p : Parser α} (safe : p.NeverFatal) (s : Stream text) :
    ∃ next a, (optional m p).parse s = .ok (next, a) := by
  cases run : (optional m p).parse s with
  | ok result => exact ⟨result.1, result.2, rfl⟩
  | error e =>
      obtain ⟨pAt, fatal⟩ := optional_parse_eq_error run
      rw [safe.error_not_fatal pAt] at fatal
      cases fatal

theorem map_never_fatal {p : Parser α} (safe : p.NeverFatal) (f : α → β) :
    (p.map f).NeverFatal := by
  constructor
  intro text s e run
  exact safe.error_not_fatal (map_parse_eq_error run)

theorem chain_many_never_fatal (m : Monoid α) {ps : List (Parser α)} (nonEmpty : ps ≠ [])
    (safe : ∀ p ∈ ps, p.NeverFatal) : (chainMany m ps).NeverFatal := by
  cases ps with
  | nil => exact absurd rfl nonEmpty
  | cons p ps =>
      rw [chain_many_cons]
      exact List.foldlRecOn ps (chain m) (safe p List.mem_cons_self)
        fun _ accSafe q member =>
          chain_never_fatal m accSafe (safe q (List.mem_cons_of_mem p member))

theorem surrounded_never_fatal {opening : Parser β} {closing : Parser γ} {inner : Parser α}
    (openingSafe : opening.NeverFatal) (closingSafe : closing.NeverFatal)
    (innerSafe : inner.NeverFatal) : (surrounded opening closing inner).NeverFatal := by
  constructor
  intro text s e run
  rcases surrounded_parse_eq_error run with openingAt | ⟨_, _, _, innerAt⟩ |
    ⟨_, _, _, _, _, _, closingAt⟩
  · exact openingSafe.error_not_fatal openingAt
  · exact innerSafe.error_not_fatal innerAt
  · exact closingSafe.error_not_fatal closingAt

theorem greedy_from_never_fatal (m : Monoid α) {p : Parser α} (safe : p.NeverFatal)
    (consumes : p.Consumes) (current : Stream text) (acc : α) {e : ParseError}
    (run : greedyFrom m p current acc = .error e) : e.isFatal = false := by
  revert run
  apply greedy_from_induction m p (fun _ _ outcome => outcome = .error e → e.isFatal = false)
  · intro current acc outcome leaving
    rcases greedy_pass_exit leaving with ⟨_, rfl⟩ | ⟨_, e', pAt, rfl⟩ |
      ⟨_, next, a, pAt, stalled, rfl⟩
    · intro run
      cases run
    · rw [safe.error_not_fatal pAt, if_neg Bool.false_ne_true]
      intro run
      cases run
    · have progress := consumes.ok_offset_lt pAt
      omega
  · intro _ _ _ _ _ later
    exact later

theorem greedy_never_fatal (m : Monoid α) {p : Parser α} (safe : p.NeverFatal)
    (consumes : p.Consumes) : (greedy m p).NeverFatal := by
  constructor
  intro text s e run
  rcases greedy_parse_eq_error run with firstAt | ⟨next, a, firstAt, stalled, -⟩ |
    ⟨next, a, -, -, loopAt⟩
  · exact safe.error_not_fatal firstAt
  · have progress := consumes.ok_offset_lt firstAt
    omega
  · exact greedy_from_never_fatal m safe consumes next a loopAt

theorem literal_never_fatal : ∀ chars : List Char, chars ≠ [] → (literal chars).NeverFatal
  | [], nonEmpty => absurd rfl nonEmpty
  | [_], _ => predicate_never_fatal _ _ _
  | _ :: d :: rest, _ =>
      chain_never_fatal _ (predicate_never_fatal _ _ _)
        (literal_never_fatal (d :: rest) (List.cons_ne_nil d rest))

theorem string_never_fatal {word : String} (nonEmpty : word ≠ "") : (string word).NeverFatal :=
  literal_never_fatal word.toList (mt String.toList_eq_nil_iff.mp nonEmpty)

theorem many1_never_fatal {p : Parser α} (safe : p.NeverFatal) (consumes : p.Consumes) :
    (many1 p).NeverFatal :=
  greedy_never_fatal _ (map_never_fatal safe _) (map_consumes consumes _)

/-! ## Keyword lists -/

theorem keywords_consumes {words : List String} (nonEmpty : ∀ word ∈ words, word ≠ "") :
    (keywords words).Consumes := by
  cases words with
  | nil => exact fatal_consumes _
  | cons first rest =>
      rw [keywords_cons]
      exact List.foldlRecOn rest _ (string_consumes (nonEmpty first List.mem_cons_self))
        fun _ accConsumes word member =>
          alt_consumes accConsumes (string_consumes (nonEmpty word (List.mem_cons_of_mem _ member)))

theorem keywords_never_fatal {words : List String} (present : words ≠ [])
    (nonEmpty : ∀ word ∈ words, word ≠ "") : (keywords words).NeverFatal := by
  cases words with
  | nil => exact absurd rfl present
  | cons first rest =>
      rw [keywords_cons]
      exact List.foldlRecOn rest _ (string_never_fatal (nonEmpty first List.mem_cons_self))
        fun _ accSafe word member =>
          alt_never_fatal accSafe (string_never_fatal (nonEmpty word (List.mem_cons_of_mem _ member)))

/-! ## The library's text parsers and grammars -/

theorem any_letter_consumes : anyLetter.Consumes :=
  alt_consumes (predicate_consumes _ _ _) (predicate_consumes _ _ _)

theorem any_letter_never_fatal : anyLetter.NeverFatal :=
  alt_never_fatal (predicate_never_fatal _ _ _) (predicate_never_fatal _ _ _)

theorem greedy_satisfy_never_fatal (m : Monoid String) (accepts : Char → Bool)
    (expected : String) : (greedy m (satisfy accepts expected)).NeverFatal :=
  greedy_never_fatal m (predicate_never_fatal _ _ _) (predicate_consumes _ _ _)

end Parser

open Parsing.Parser

theorem FieldDeclaration.parser_consumes : FieldDeclaration.parser.Consumes :=
  surrounded_consumes (char_stays_in_bounds _) (char_stays_in_bounds _)
    (map_stays_in_bounds FieldDeclaration.parts_stays_in_bounds _) (.inl (predicate_consumes _ _ _))

theorem FieldDeclaration.parser_never_fatal : FieldDeclaration.parser.NeverFatal := by
  have anyWordSafe : anyWord.NeverFatal :=
    greedy_never_fatal _ any_letter_never_fatal any_letter_consumes
  have sentenceSafe : FieldDeclaration.sentence.NeverFatal :=
    greedy_never_fatal _ (alt_never_fatal anyWordSafe (greedy_satisfy_never_fatal _ _ _))
      (alt_consumes (greedy_consumes _ _) (greedy_consumes _ _))
  have defaultSafe : FieldDeclaration.defaultValue.NeverFatal :=
    surrounded_never_fatal (string_never_fatal (by decide)) (predicate_never_fatal _ _ _)
      sentenceSafe
  have partsSafe : FieldDeclaration.parts.NeverFatal := by
    apply chain_many_never_fatal _ (List.cons_ne_nil _ _)
    simp only [List.mem_cons, List.not_mem_nil, or_false, forall_eq_or_imp, forall_eq]
    exact ⟨map_never_fatal (greedy_satisfy_never_fatal _ _ _) _,
      map_never_fatal (predicate_never_fatal _ _ _) _,
      map_never_fatal (keywords_never_fatal (List.cons_ne_nil _ _) (by decide)) _,
      optional_never_fatal _ (map_never_fatal defaultSafe _)⟩
  exact surrounded_never_fatal (predicate_never_fatal _ _ _) (predicate_never_fatal _ _ _)
    (map_never_fatal partsSafe _)

theorem Token.parser_never_fatal : Token.parser.NeverFatal := by
  have digitsSafe : digits.NeverFatal := greedy_satisfy_never_fatal _ _ _
  have anyWordSafe : anyWord.NeverFatal :=
    greedy_never_fatal _ any_letter_never_fatal any_letter_consumes
  have bracedConsumes : Token.braced.Consumes :=
    map_consumes (surrounded_consumes (char_stays_in_bounds _) (char_stays_in_bounds _)
      (greedy_stays_in_bounds _ (satisfy_stays_in_bounds _ _)) (.inl (predicate_consumes _ _ _))) _
  have bracketedConsumes : Token.bracketed.Consumes :=
    map_consumes (surrounded_consumes (char_stays_in_bounds _) (char_stays_in_bounds _)
      (greedy_stays_in_bounds _ any_letter_stays_in_bounds) (.inl (predicate_consumes _ _ _))) _
  apply greedy_never_fatal _ _ (alt_consumes bracedConsumes bracketedConsumes)
  exact alt_never_fatal
    (map_never_fatal (surrounded_never_fatal (predicate_never_fatal _ _ _)
      (predicate_never_fatal _ _ _) digitsSafe) _)
    (map_never_fatal (surrounded_never_fatal (predicate_never_fatal _ _ _)
      (predicate_never_fatal _ _ _) anyWordSafe) _)

theorem Grammar.keyword_stream_never_fatal : Grammar.keywordStream.NeverFatal :=
  many1_never_fatal (keywords_never_fatal (List.cons_ne_nil _ _) (by decide))
    (keywords_consumes (by decide))

theorem Grammar.alternation_stream_never_fatal : Grammar.alternationStream.NeverFatal :=
  many1_never_fatal
    (alt_never_fatal (alt_never_fatal (string_never_fatal (by decide))
      (string_never_fatal (by decide))) (string_never_fatal (by decide)))
    (alt_consumes (alt_consumes (string_consumes (by decide)) (string_consumes (by decide)))
      (string_consumes (by decide)))

theorem Grammar.word_tokens_never_fatal : Grammar.wordTokens.NeverFatal := by
  have spaceBounded : (optional Monoid.text space).StaysInBounds :=
    optional_stays_in_bounds _ (satisfy_stays_in_bounds _ _)
  apply many1_never_fatal
  · exact surrounded_never_fatal (optional_never_fatal _ (predicate_never_fatal _ _ _))
      (optional_never_fatal _ (predicate_never_fatal _ _ _)) (greedy_satisfy_never_fatal _ _ _)
  · exact surrounded_consumes spaceBounded spaceBounded
      (greedy_stays_in_bounds _ (satisfy_stays_in_bounds _ _)) (.inr (.inr (greedy_consumes _ _)))

theorem Grammar.registered_never_fatal : ∀ g ∈ Grammar.all, g.parser.NeverFatal := by
  intro g member
  simp only [Grammar.all, List.mem_cons, List.not_mem_nil, or_false] at member
  rcases member with rfl | rfl | rfl | rfl | rfl | rfl | rfl
  · exact map_never_fatal (greedy_satisfy_never_fatal _ _ _) _
  · exact map_never_fatal (greedy_satisfy_never_fatal _ _ _) _
  · exact Grammar.keyword_stream_never_fatal
  · exact Grammar.alternation_stream_never_fatal
  · exact Grammar.word_tokens_never_fatal
  · exact map_never_fatal
      (many1_never_fatal FieldDeclaration.parser_never_fatal FieldDeclaration.parser_consumes) _
  · exact map_never_fatal Token.parser_never_fatal _

theorem Named.parser_consumes {sh : Shape} : (name : Named sh) → name.parser.Consumes
  | .space | .letter | .upperLetter | .digit => predicate_consumes _ _ _
  | .anyLetter => any_letter_consumes
  | .word | .upperWord | .anyWord | .digits | .spaces => greedy_consumes _ _
  | .fieldDeclaration => map_consumes FieldDeclaration.parser_consumes _
  | .keywordStream | .alternationStream | .wordTokens | .taggedTokens =>
      map_consumes (greedy_consumes _ _) _

theorem Named.parser_never_fatal {sh : Shape} : (name : Named sh) → name.parser.NeverFatal
  | .space | .letter | .upperLetter | .digit => predicate_never_fatal _ _ _
  | .anyLetter => any_letter_never_fatal
  | .word | .upperWord | .digits | .spaces => greedy_satisfy_never_fatal _ _ _
  | .anyWord => greedy_never_fatal _ any_letter_never_fatal any_letter_consumes
  | .fieldDeclaration => map_never_fatal FieldDeclaration.parser_never_fatal _
  | .keywordStream => map_never_fatal Grammar.keyword_stream_never_fatal _
  | .alternationStream => map_never_fatal Grammar.alternation_stream_never_fatal _
  | .wordTokens => map_never_fatal Grammar.word_tokens_never_fatal _
  | .taggedTokens => map_never_fatal Token.parser_never_fatal _

/-! ## Strict and well-formed expressions -/

def usableKeywords (words : List String) : Bool :=
  !words.isEmpty && words.all fun word => !word.isEmpty

theorem usable_keywords_spec {words : List String} (usable : usableKeywords words = true) :
    words ≠ [] ∧ ∀ word ∈ words, word ≠ "" := by
  simp only [usableKeywords, Bool.and_eq_true, Bool.not_eq_true', List.isEmpty_eq_false_iff,
    List.all_eq_true, String.isEmpty_eq_false_iff] at usable
  exact usable

mutual

/-- Whether the syntax of an expression shows that each of its successes consumes input. -/
def Expr.strict : {sh : Shape} → Expr sh → Bool
  | _, .named _ => true
  | _, .char _ => true
  | _, .satisfy _ _ => true
  | _, .predicate _ _ _ => true
  | _, .string word => !word.isEmpty
  | _, .keywords words => usableKeywords words
  | _, .chain first second => first.strict || second.strict
  | _, .alt first second => first.strict && second.strict
  | _, .greedy p => p.strict
  | _, .optional _ => false
  | _, .chainMany _ ps => Exprs.anyStrict ps
  | _, .surrounded opening closing inner => opening.strict || closing.strict || inner.strict
  | _, .between delimiter inner => delimiter.strict || inner.strict
  | _, .toList p => p.strict
  | _, .many1 p => p.strict
  | _, .join p => p.strict
  | _, .map _ p => p.strict
  | _, .fatal _ _ => true

def Exprs.anyStrict : {sh : Shape} → Exprs sh → Bool
  | _, .nil _ => false
  | _, .cons e es => e.strict || Exprs.anyStrict es

end

mutual

/-- Whether an expression holds no parser that fails fatally wherever it runs, and repeats only
strict expressions. -/
def Expr.wellFormed : {sh : Shape} → Expr sh → Bool
  | _, .named _ => true
  | _, .char _ => true
  | _, .satisfy _ _ => true
  | _, .predicate _ _ _ => true
  | _, .string word => !word.isEmpty
  | _, .keywords words => usableKeywords words
  | _, .chain first second => first.wellFormed && second.wellFormed
  | _, .alt first second => first.wellFormed && second.wellFormed
  | _, .greedy p => p.strict && p.wellFormed
  | _, .optional p => p.wellFormed
  | _, .chainMany _ ps => !ps.toList.isEmpty && Exprs.allWellFormed ps
  | _, .surrounded opening closing inner =>
      opening.wellFormed && closing.wellFormed && inner.wellFormed
  | _, .between delimiter inner => delimiter.wellFormed && inner.wellFormed
  | _, .toList p => p.wellFormed
  | _, .many1 p => p.strict && p.wellFormed
  | _, .join p => p.wellFormed
  | _, .map _ p => p.wellFormed
  | _, .fatal _ _ => false

def Exprs.allWellFormed : {sh : Shape} → Exprs sh → Bool
  | _, .nil _ => true
  | _, .cons e es => e.wellFormed && Exprs.allWellFormed es

end

example : (Expr.many1 (.between (.optional (.named .space)) (.named .word))).wellFormed = true ∧
    (Expr.greedy (.optional (.char 'a'))).wellFormed = false := by decide

mutual

theorem Expr.parser_consumes : {sh : Shape} → (e : Expr sh) → e.strict = true → e.parser.Consumes
  | _, .named name, _ => name.parser_consumes
  | _, .char _, _ => predicate_consumes _ _ _
  | _, .satisfy _ _, _ => predicate_consumes _ _ _
  | _, .predicate _ _ _, _ => predicate_consumes _ _ _
  | _, .string _, strict => by
      simp only [Expr.strict, Bool.not_eq_true', String.isEmpty_eq_false_iff] at strict
      exact string_consumes strict
  | _, .keywords _, strict => keywords_consumes (usable_keywords_spec strict).2
  | _, .chain first second, strict => by
      simp only [Expr.strict, Bool.or_eq_true] at strict
      apply chain_consumes _ first.parser_stays_in_bounds second.parser_stays_in_bounds
      rcases strict with firstStrict | secondStrict
      · exact .inl (first.parser_consumes firstStrict)
      · exact .inr (second.parser_consumes secondStrict)
  | _, .alt first second, strict => by
      simp only [Expr.strict, Bool.and_eq_true] at strict
      exact alt_consumes (first.parser_consumes strict.1) (second.parser_consumes strict.2)
  | _, .greedy _, _ => greedy_consumes _ _
  | _, .optional _, strict => by simp [Expr.strict] at strict
  | _, .chainMany _ ps, strict =>
      chain_many_consumes _ (Exprs.parsers_stay_in_bounds ps) (Exprs.parsers_consume ps strict)
  | _, .surrounded opening closing inner, strict => by
      simp only [Expr.strict, Bool.or_eq_true] at strict
      apply surrounded_consumes opening.parser_stays_in_bounds closing.parser_stays_in_bounds
        inner.parser_stays_in_bounds
      rcases strict with (openingStrict | closingStrict) | innerStrict
      · exact .inl (opening.parser_consumes openingStrict)
      · exact .inr (.inl (closing.parser_consumes closingStrict))
      · exact .inr (.inr (inner.parser_consumes innerStrict))
  | _, .between delimiter inner, strict => by
      simp only [Expr.strict, Bool.or_eq_true] at strict
      apply surrounded_consumes delimiter.parser_stays_in_bounds delimiter.parser_stays_in_bounds
        inner.parser_stays_in_bounds
      rcases strict with delimiterStrict | innerStrict
      · exact .inl (delimiter.parser_consumes delimiterStrict)
      · exact .inr (.inr (inner.parser_consumes innerStrict))
  | _, .toList p, strict => map_consumes (map_consumes (p.parser_consumes strict) _) _
  | _, .many1 _, _ => greedy_consumes _ _
  | _, .join p, strict => map_consumes (map_consumes (p.parser_consumes strict) _) _
  | _, .map _ p, strict => map_consumes (p.parser_consumes strict) _
  | _, .fatal _ _, _ => fatal_consumes _

theorem Exprs.parsers_consume : {sh : Shape} → (es : Exprs sh) → Exprs.anyStrict es = true →
    ∃ p ∈ es.parsers, p.Consumes
  | _, .nil _, strict => by simp [Exprs.anyStrict] at strict
  | _, .cons e es, strict => by
      simp only [Exprs.anyStrict, Bool.or_eq_true] at strict
      rcases strict with headStrict | tailStrict
      · exact ⟨e.parser, List.mem_cons_self, e.parser_consumes headStrict⟩
      · obtain ⟨p, member, consumes⟩ := Exprs.parsers_consume es tailStrict
        exact ⟨p, List.mem_cons_of_mem _ member, consumes⟩

end

mutual

theorem Expr.parser_never_fatal : {sh : Shape} → (e : Expr sh) → e.wellFormed = true →
    e.parser.NeverFatal
  | _, .named name, _ => name.parser_never_fatal
  | _, .char _, _ => predicate_never_fatal _ _ _
  | _, .satisfy _ _, _ => predicate_never_fatal _ _ _
  | _, .predicate _ _ _, _ => predicate_never_fatal _ _ _
  | _, .string _, wellFormed => by
      simp only [Expr.wellFormed, Bool.not_eq_true', String.isEmpty_eq_false_iff] at wellFormed
      exact string_never_fatal wellFormed
  | _, .keywords _, wellFormed =>
      keywords_never_fatal (usable_keywords_spec wellFormed).1 (usable_keywords_spec wellFormed).2
  | _, .chain first second, wellFormed => by
      simp only [Expr.wellFormed, Bool.and_eq_true] at wellFormed
      exact chain_never_fatal _ (first.parser_never_fatal wellFormed.1)
        (second.parser_never_fatal wellFormed.2)
  | _, .alt first second, wellFormed => by
      simp only [Expr.wellFormed, Bool.and_eq_true] at wellFormed
      exact alt_never_fatal (first.parser_never_fatal wellFormed.1)
        (second.parser_never_fatal wellFormed.2)
  | _, .greedy p, wellFormed => by
      simp only [Expr.wellFormed, Bool.and_eq_true] at wellFormed
      exact greedy_never_fatal _ (p.parser_never_fatal wellFormed.2) (p.parser_consumes wellFormed.1)
  | _, .optional p, wellFormed => optional_never_fatal _ (p.parser_never_fatal wellFormed)
  | _, .chainMany _ ps, wellFormed => by
      simp only [Expr.wellFormed, Bool.and_eq_true, Bool.not_eq_true',
        List.isEmpty_eq_false_iff] at wellFormed
      have present : ps.parsers ≠ [] := by
        rw [Exprs.parsers_eq_map]
        exact mt List.map_eq_nil_iff.mp wellFormed.1
      exact chain_many_never_fatal _ present (Exprs.parsers_never_fatal ps wellFormed.2)
  | _, .surrounded opening closing inner, wellFormed => by
      simp only [Expr.wellFormed, Bool.and_eq_true] at wellFormed
      exact surrounded_never_fatal (opening.parser_never_fatal wellFormed.1.1)
        (closing.parser_never_fatal wellFormed.1.2) (inner.parser_never_fatal wellFormed.2)
  | _, .between delimiter inner, wellFormed => by
      simp only [Expr.wellFormed, Bool.and_eq_true] at wellFormed
      have delimiterSafe := delimiter.parser_never_fatal wellFormed.1
      exact surrounded_never_fatal delimiterSafe delimiterSafe (inner.parser_never_fatal wellFormed.2)
  | _, .toList p, wellFormed => map_never_fatal (map_never_fatal (p.parser_never_fatal wellFormed) _) _
  | _, .many1 p, wellFormed => by
      simp only [Expr.wellFormed, Bool.and_eq_true] at wellFormed
      exact many1_never_fatal (map_never_fatal (p.parser_never_fatal wellFormed.2) _)
        (map_consumes (p.parser_consumes wellFormed.1) _)
  | _, .join p, wellFormed => map_never_fatal (map_never_fatal (p.parser_never_fatal wellFormed) _) _
  | _, .map _ p, wellFormed => map_never_fatal (p.parser_never_fatal wellFormed) _
  | _, .fatal _ _, wellFormed => by simp [Expr.wellFormed] at wellFormed

theorem Exprs.parsers_never_fatal : {sh : Shape} → (es : Exprs sh) →
    Exprs.allWellFormed es = true → ∀ p ∈ es.parsers, p.NeverFatal
  | _, .nil _, _ => fun _ member => by cases member
  | _, .cons e es, wellFormed => by
      simp only [Exprs.allWellFormed, Bool.and_eq_true] at wellFormed
      intro p member
      rcases List.mem_cons.mp member with rfl | member
      · exact e.parser_never_fatal wellFormed.1
      · exact Exprs.parsers_never_fatal es wellFormed.2 p member

end

/-- Strict expressions consume whenever they succeed, and well-formed expressions never fail
fatally: from any stream, an error of their parser is recoverable, so `optional` of such an
expression always succeeds. The registered grammars never fail fatally either. -/
theorem well_formed_never_fails_fatally :
    (∀ (sh : Shape) (e : Expr sh), e.strict = true →
      ∀ (text : Array Char) (s next : Stream text) (v : sh.Value),
        e.parser.parse s = .ok (next, v) → s.offset < next.offset) ∧
    (∀ (sh : Shape) (e : Expr sh), e.wellFormed = true →
      ∀ (text : Array Char) (s : Stream text) (err : ParseError),
        e.parser.parse s = .error err → err.kind ≠ .fatal) ∧
    (∀ g ∈ Grammar.all, ∀ (text : Array Char) (s : Stream text) (err : ParseError),
      g.parser.parse s = .error err → err.kind ≠ .fatal) ∧
    (∀ (sh : Shape) (e : Expr sh), e.wellFormed = true →
      ∀ (text : Array Char) (s : Stream text),
        ∃ next v, e.optional.parser.parse s = .ok (next, v)) := by
  refine ⟨?_, ?_, ?_, ?_⟩
  · intro sh e strict text s next v run
    exact (e.parser_consumes strict).ok_offset_lt run
  · intro sh e wellFormed text s err run
    exact (e.parser_never_fatal wellFormed).kind_ne_fatal run
  · intro g member text s err run
    exact (Grammar.registered_never_fatal g member).kind_ne_fatal run
  · intro sh e wellFormed text s
    exact optional_parse_ok _ (e.parser_never_fatal wellFormed) s

theorem spaced_words_never_fail_fatally :
    (Expr.many1 (.between (.optional (.named .space)) (.named .word))).strict = true ∧
    (Expr.many1 (.between (.optional (.named .space)) (.named .word))).wellFormed = true ∧
    (∀ (text : Array Char) (s next : Stream text) (v : List Item),
      (Expr.many1 (.between (.optional (.named .space)) (.named .word))).parser.parse s =
        .ok (next, v) → s.offset < next.offset) ∧
    (∀ (text : Array Char) (s : Stream text) (err : ParseError),
      (Expr.many1 (.between (.optional (.named .space)) (.named .word))).parser.parse s =
        .error err → err.kind ≠ .fatal) ∧
    ∀ (text : Array Char) (s : Stream text), ∃ next v,
      (Expr.many1 (.between (.optional (.named .space)) (.named .word))).optional.parser.parse s =
        .ok (next, v) := by
  have strict : (Expr.many1 (.between (.optional (.named .space)) (.named .word))).strict = true := by
    decide
  have wellFormed :
      (Expr.many1 (.between (.optional (.named .space)) (.named .word))).wellFormed = true := by
    decide
  exact ⟨strict, wellFormed, well_formed_never_fails_fatally.1 .list _ strict,
    well_formed_never_fails_fatally.2.1 .list _ wellFormed,
    well_formed_never_fails_fatally.2.2.2 .list _ wellFormed⟩

end Parsing
