import Mathlib.Data.List.Induction
import Mathlib.Data.Nat.Digits.Defs
import Parsing.Proofs.ClassRuns
import Parsing.Proofs.KeywordStreams

/-!
# Tagged tokens

The tagged grammar repeats a choice of two items: digits in braces, read as a number, and
letters in brackets, read as a word. An item can be recognised from its first character and
ends at the first closing bracket, so the input splits in one way only into the items in front
and what follows them, and the grammar reads exactly the items in front. A number is the decimal
value of its digits, held at the largest 64-bit value once it passes it: the loop that reads the
digits saturates at every step, and saturating at every step is saturating once at the end.
-/

namespace Parsing

set_option autoImplicit false

variable {text : Array Char}

def decimalValue (digits : List Char) : Nat :=
  Nat.ofDigits 10 (digits.reverse.map fun c => c.toNat - '0'.toNat)

theorem decimal_value_append_digit (digits : List Char) (c : Char) :
    decimalValue (digits ++ [c]) = (c.toNat - '0'.toNat) + 10 * decimalValue digits := by
  simp [decimalValue, Nat.ofDigits_cons]

theorem saturating_value_eq_min (digits : List Char) :
    Token.saturatingValue digits = min (decimalValue digits) (UInt64.size - 1) := by
  induction digits using List.reverseRecOn with
  | nil => rfl
  | append_singleton digits c induction =>
      rw [Token.saturatingValue, List.foldl_append, ← Token.saturatingValue, induction,
        decimal_value_append_digit]
      simp only [List.foldl_cons, List.foldl_nil]
      omega

/-- An item of the tagged grammar as it is written: ASCII letters in brackets, or ASCII digits in
braces, at least one of them. -/
inductive TaggedItem where
  | word (letters : List Char) (present : letters ≠ []) (alphabetic : ∀ c ∈ letters, c.isAlpha = true)
  | number (digits : List Char) (present : digits ≠ []) (decimal : ∀ c ∈ digits, c.isDigit = true)

namespace TaggedItem

def written : TaggedItem → List Char
  | word letters _ _ => '[' :: letters ++ [']']
  | number digits _ _ => '{' :: digits ++ ['}']

/-- The token an item stands for: its word, or its number, held at the largest 64-bit value. -/
def token : TaggedItem → Token
  | word letters _ _ => .text (String.ofList letters)
  | number digits _ _ => .number (UInt64.ofNat (min (decimalValue digits) (UInt64.size - 1)))

def StartsText (rest : List Char) : Prop := ∃ i : TaggedItem, i.written <+: rest

theorem written_ne_nil (i : TaggedItem) : i.written ≠ [] := by
  cases i <;> simp [written]

theorem render_number (digits : List Char) (present : digits ≠ [])
    (decimal : ∀ c ∈ digits, c.isDigit = true) :
    (number digits present decimal).token.render =
      "num:" ++ toString (min (decimalValue digits) (UInt64.size - 1)) := by
  have fits : min (decimalValue digits) (UInt64.size - 1) < UInt64.size := by
    have positive : 0 < UInt64.size := by decide
    omega
  show "num:" ++ toString (UInt64.ofNat _).toNat = _
  rw [UInt64.toNat_ofNat_of_lt' fits]

end TaggedItem

namespace Token

open Parsing.Parser

theorem parser_eq : parser = greedy (Monoid.list Token) (alt braced bracketed) := rfl

theorem digit_value_lt {c : Char} (digit : c.isDigit = true) :
    '0'.toNat ≤ c.toNat ∧ c.toNat - '0'.toNat < 10 := by
  simp only [Char.isDigit, Bool.and_eq_true, decide_eq_true_eq, UInt32.le_iff_toNat_le,
    ge_iff_le] at digit
  have zero : '0'.val.toNat = 48 := rfl
  have nine : '9'.val.toNat = 57 := rfl
  have value : c.toNat = c.val.toNat := rfl
  have zeroValue : '0'.toNat = 48 := rfl
  omega

theorem digits_parse_eq_ok {s next : Stream text} {ds : String}
    (run : digits.parse s = .ok (next, ds)) :
    ∀ c ∈ ds.toList, '0'.toNat ≤ c.toNat ∧ c.toNat - '0'.toNat < 10 := by
  obtain ⟨-, decimal, -⟩ :=
    greedy_parse_eq_ok_in_class (satisfy_reads_class Char.isDigit "expected digit") run
  exact fun c member => digit_value_lt (decimal c member)

/-! ## One item -/

theorem braced_parse_of_written {s : Stream text} {digits r : List Char} (present : digits ≠ [])
    (decimal : ∀ c ∈ digits, c.isDigit = true) (restAt : s.rest = '{' :: digits ++ '}' :: r) :
    ∃ next : Stream text, next.rest = r ∧
      braced.parse s = .ok (next, [(TaggedItem.number digits present decimal).token]) := by
  obtain ⟨s₁, rest₁, opened⟩ := char_parse_of_rest restAt
  obtain ⟨s₂, rest₂, read⟩ : ∃ next : Stream text, next.rest = '}' :: r ∧
      Parser.digits.parse s₁ = .ok (next, String.ofList digits) :=
    greedy_parse_of_exact_run (satisfy_reads_class Char.isDigit _) present decimal
      (fun c atHead => by cases atHead; rfl) rest₁
  obtain ⟨s₃, rest₃, closed⟩ := char_parse_of_rest rest₂
  refine ⟨s₃, rest₃, ?_⟩
  rw [braced, map_parse, surrounded_parse_of_ok opened read closed]
  simp [Except.map, TaggedItem.token, saturating_value_eq_min]

theorem bracketed_parse_of_written {s : Stream text} {letters r : List Char}
    (present : letters ≠ []) (alphabetic : ∀ c ∈ letters, c.isAlpha = true)
    (restAt : s.rest = '[' :: letters ++ ']' :: r) :
    ∃ next : Stream text, next.rest = r ∧
      bracketed.parse s = .ok (next, [(TaggedItem.word letters present alphabetic).token]) := by
  obtain ⟨s₁, rest₁, opened⟩ := char_parse_of_rest restAt
  obtain ⟨s₂, rest₂, read⟩ : ∃ next : Stream text, next.rest = ']' :: r ∧
      anyWord.parse s₁ = .ok (next, String.ofList letters) :=
    greedy_parse_of_exact_run any_letter_reads_class present alphabetic
      (fun c atHead => by cases atHead; rfl) rest₁
  obtain ⟨s₃, rest₃, closed⟩ := char_parse_of_rest rest₂
  refine ⟨s₃, rest₃, ?_⟩
  rw [bracketed, map_parse, surrounded_parse_of_ok opened read closed]
  rfl

theorem item_parse_of_written (i : TaggedItem) {s : Stream text} {r : List Char}
    (restAt : s.rest = i.written ++ r) :
    ∃ next : Stream text, next.rest = r ∧ (alt braced bracketed).parse s = .ok (next, [i.token]) := by
  cases i with
  | number digits present decimal =>
      obtain ⟨next, nextRest, read⟩ := braced_parse_of_written (r := r) present decimal (by
        rw [restAt]
        simp [TaggedItem.written])
      exact ⟨next, nextRest, by rw [alt_parse_of_settles (by rw [read]; rfl), read]⟩
  | word letters present alphabetic =>
      -- a bracket is no brace, so the number fails where the word begins
      have notBrace : s.rest.head? ≠ some '{' := by
        rw [restAt]
        simp [TaggedItem.written]
      have failed : braced.parse s = .error (ParseError.missingChar text.size s.offset '{') := by
        rw [braced, map_parse, surrounded_parse_of_opening_error (char_parse_of_not_head notBrace)]
        rfl
      obtain ⟨next, nextRest, read⟩ := bracketed_parse_of_written (r := r) present alphabetic (by
        rw [restAt]
        simp [TaggedItem.written])
      refine ⟨next, nextRest, ?_⟩
      rw [alt_parse_of_second_settles failed (ParseError.missing_char_recoverable _ _ _)
        (by rw [read]; rfl), read]

theorem item_parse_eq_ok {s next : Stream text} {tokens : List Token}
    (run : (alt braced bracketed).parse s = .ok (next, tokens)) :
    ∃ i : TaggedItem, s.rest = i.written ++ next.rest ∧ tokens = [i.token] := by
  rcases alt_parse_eq_ok run with read | read
  · obtain ⟨ds, between, rfl⟩ := map_parse_eq_ok read
    obtain ⟨s₁, _, s₂, _, opened, inner, closed⟩ := surrounded_parse_eq_ok between
    obtain ⟨rest₁, -⟩ := char_parse_eq_ok opened
    obtain ⟨present, decimal, rest₂⟩ :=
      greedy_parse_eq_ok_in_class (satisfy_reads_class Char.isDigit "expected digit") inner
    obtain ⟨rest₃, -⟩ := char_parse_eq_ok closed
    refine ⟨.number ds.toList present decimal, ?_, ?_⟩
    · rw [rest₁, rest₂, rest₃]
      simp [TaggedItem.written]
    · simp [TaggedItem.token, saturating_value_eq_min]
  · obtain ⟨w, between, rfl⟩ := map_parse_eq_ok read
    obtain ⟨s₁, _, s₂, _, opened, inner, closed⟩ := surrounded_parse_eq_ok between
    obtain ⟨rest₁, -⟩ := char_parse_eq_ok opened
    obtain ⟨present, alphabetic, rest₂⟩ := greedy_parse_eq_ok_in_class any_letter_reads_class inner
    obtain ⟨rest₃, -⟩ := char_parse_eq_ok closed
    refine ⟨.word w.toList present alphabetic, ?_, ?_⟩
    · rw [rest₁, rest₂, rest₃]
      simp [TaggedItem.written]
    · simp [TaggedItem.token]

theorem item_never_fatal : (alt braced bracketed).NeverFatal := by
  apply alt_never_fatal
  · exact map_never_fatal (surrounded_never_fatal (predicate_never_fatal _ _ _)
      (predicate_never_fatal _ _ _) (greedy_satisfy_never_fatal _ _ _)) _
  · exact map_never_fatal (surrounded_never_fatal (predicate_never_fatal _ _ _)
      (predicate_never_fatal _ _ _) (greedy_never_fatal _ any_letter_never_fatal
        any_letter_consumes)) _

theorem stops_at_iff {t : Stream text} :
    StopsAt (alt braced bracketed) t ↔ ¬TaggedItem.StartsText t.rest := by
  constructor
  · rintro stops ⟨i, after, restAt⟩
    obtain ⟨next, -, read⟩ := item_parse_of_written i restAt.symm
    rcases stops with ended | ⟨e, failed, -⟩
    · rw [(Stream.rest_eq_nil_iff t).mpr ((Stream.isEof_iff t).mp ended)] at restAt
      exact i.written_ne_nil (List.append_eq_nil_iff.mp restAt).1
    · rw [read] at failed
      cases failed
  · intro none
    cases run : (alt braced bracketed).parse t with
    | ok result =>
        obtain ⟨next, tokens⟩ := result
        obtain ⟨i, restAt, -⟩ := item_parse_eq_ok run
        exact absurd ⟨i, _, restAt.symm⟩ none
    | error e => exact .inr ⟨e, run, item_never_fatal.error_not_fatal run⟩

/-! ## The repetition -/

theorem items_runs (items : List TaggedItem) :
    ∀ (s : Stream text) (y : List Char), s.rest = (items.map TaggedItem.written).flatten ++ y →
      ¬TaggedItem.StartsText y →
      ∃ last : Stream text, last.rest = y ∧
        Runs (alt braced bracketed) s (items.map fun i => [i.token]) last ∧
        StopsAt (alt braced bracketed) last := by
  induction items with
  | nil =>
      intro s y restAt none
      exact ⟨s, by simpa using restAt, .stop s, stops_at_iff.mpr (by simpa [restAt] using none)⟩
  | cons i items induction =>
      intro s y restAt none
      rw [List.map_cons, List.flatten_cons, List.append_assoc] at restAt
      obtain ⟨next, nextRest, read⟩ := item_parse_of_written i restAt
      have moved : next.offset = s.offset + i.written.length :=
        Stream.offset_of_rest (by rw [restAt, nextRest])
      have longer := List.length_pos_iff.mpr i.written_ne_nil
      obtain ⟨last, lastRest, runs, stops⟩ := induction next y nextRest none
      exact ⟨last, lastRest, .step read (by omega) runs, stops⟩

theorem runs_items {s last : Stream text} {tokens : List (List Token)}
    (runs : Runs (alt braced bracketed) s tokens last) :
    ∃ items : List TaggedItem, s.rest = (items.map TaggedItem.written).flatten ++ last.rest ∧
      tokens = items.map fun i => [i.token] := by
  induction runs with
  | stop s => exact ⟨[], rfl, rfl⟩
  | step read _ _ induction =>
      obtain ⟨i, restAt, rfl⟩ := item_parse_eq_ok read
      obtain ⟨items, restAt', rfl⟩ := induction
      exact ⟨i :: items, by rw [restAt, restAt']; simp, rfl⟩

theorem concat_tokens (items : List TaggedItem) :
    (Monoid.list Token).concat (items.map fun i => [i.token]) = items.map TaggedItem.token := by
  have listed : (items.map fun i => [i.token]) = (items.map TaggedItem.token).map fun t => [t] := by
    rw [List.map_map]
    rfl
  rw [listed, concat_singletons]

/-- The tagged grammar reads the items written in front, one after another, and stops at the first
text that is no item. It succeeds exactly where the input starts with an item; then, however the
input splits into items and a rest that starts with none, it gives their tokens in order and
stops after them, and each of its successes is such a split. Numbers are held at the largest
64-bit value, and written back as that value in decimal; the digits read are ASCII digits only. -/
theorem tagged_tokens_read_the_items_in_front (s : Stream text) :
    ((∃ next tokens, parser.parse s = .ok (next, tokens)) ↔ TaggedItem.StartsText s.rest) ∧
    (∀ (items : List TaggedItem) (y : List Char), items ≠ [] →
      s.rest = (items.map TaggedItem.written).flatten ++ y → ¬TaggedItem.StartsText y →
      ∃ next : Stream text,
        next.offset = s.offset + (items.map TaggedItem.written).flatten.length ∧
        parser.parse s = .ok (next, items.map TaggedItem.token)) ∧
    (∀ next tokens, parser.parse s = .ok (next, tokens) →
      ∃ (items : List TaggedItem) (y : List Char), items ≠ [] ∧
        s.rest = (items.map TaggedItem.written).flatten ++ y ∧ ¬TaggedItem.StartsText y ∧
        tokens = items.map TaggedItem.token ∧
        next.offset = s.offset + (items.map TaggedItem.written).flatten.length) ∧
    (∀ (digits : List Char) (present : digits ≠ []) (decimal : ∀ c ∈ digits, c.isDigit = true),
      (TaggedItem.number digits present decimal).token.render =
        "num:" ++ toString (min (decimalValue digits) (UInt64.size - 1))) ∧
    (∀ (t next : Stream text) (ds : String), Parser.digits.parse t = .ok (next, ds) →
      ∀ c ∈ ds.toList, '0'.toNat ≤ c.toNat ∧ c.toNat - '0'.toNat < 10) := by
  refine ⟨⟨?_, ?_⟩, ?_, ?_, TaggedItem.render_number, fun _ _ _ run => digits_parse_eq_ok run⟩
  · rintro ⟨next, tokens, run⟩
    obtain ⟨values, present, runs, -, -⟩ := greedy_ok_runs (Monoid.list_lawful Token) _ run
    cases runs with
    | stop => exact absurd rfl present
    | step read _ _ =>
        obtain ⟨i, restAt, -⟩ := item_parse_eq_ok read
        exact ⟨i, _, restAt.symm⟩
  · rintro ⟨i, after, restAt⟩
    obtain ⟨next, nextRest, read⟩ := item_parse_of_written i restAt.symm
    have moved : next.offset = s.offset + i.written.length :=
      Stream.offset_of_rest (by rw [← restAt, nextRest])
    have longer := List.length_pos_iff.mpr i.written_ne_nil
    obtain ⟨r, loop⟩ := greedy_from_succeeds (Monoid.list Token) item_never_fatal
      (alt_consumes (map_consumes (surrounded_consumes (char_stays_in_bounds _)
        (char_stays_in_bounds _) (greedy_stays_in_bounds _ (satisfy_stays_in_bounds _ _))
        (.inl (predicate_consumes _ _ _))) _)
        (map_consumes (surrounded_consumes (char_stays_in_bounds _) (char_stays_in_bounds _)
          (greedy_stays_in_bounds _ any_letter_stays_in_bounds)
          (.inl (predicate_consumes _ _ _))) _)) next [i.token]
    exact ⟨r.1, r.2, by rw [parser_eq, greedy_parse_of_progress read (by omega), loop]⟩
  · intro items y present restAt none
    obtain ⟨last, lastRest, runs, stops⟩ := items_runs items s y restAt none
    refine ⟨last, Stream.offset_of_rest (by rw [restAt, lastRest]), ?_⟩
    rw [parser_eq, greedy_parse_of_runs (Monoid.list_lawful Token) (by simpa using present) runs
      stops, concat_tokens]
  · intro next tokens run
    obtain ⟨values, present, runs, stops, rfl⟩ := greedy_ok_runs (Monoid.list_lawful Token) _ run
    obtain ⟨items, restAt, rfl⟩ := runs_items runs
    refine ⟨items, next.rest, by simpa using present, restAt, stops_at_iff.mp stops,
      concat_tokens items, Stream.offset_of_rest restAt⟩

theorem number_then_word_read_as_two_tokens :
    ∃ next : Stream #['{', '4', '2', '}', '[', 'a', ']'],
      next.offset = 7 ∧ parser.parse (Stream.start _) = .ok (next, [.number 42, .text "a"]) := by
  have nothingAfter : ¬TaggedItem.StartsText [] := fun ⟨i, before⟩ =>
    i.written_ne_nil (List.prefix_nil.mp before)
  obtain ⟨next, moved, run⟩ := (tagged_tokens_read_the_items_in_front
    (Stream.start #['{', '4', '2', '}', '[', 'a', ']'])).2.1
    [.number ['4', '2'] (by simp) (by simp), .word ['a'] (by simp) (by simp)] [] (by simp) rfl
    nothingAfter
  exact ⟨next, moved, run⟩

end Token

end Parsing
