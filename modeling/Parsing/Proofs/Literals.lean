import Parsing.Proofs.Laws
import Parsing.Proofs.WellFormed

/-!
# Literals and keyword lists

A literal is read one character at a time, so it succeeds exactly on input that starts with it,
and otherwise stops at the first character where the input and the literal part: the length of
their common prefix says where, and the literal's character there says what was expected. A
non-empty literal never fails fatally, so in a keyword list it settles the choice exactly when the
input starts with it. The list therefore takes the first of its keywords that the input starts
with, and when there is none it fails at the furthest point that any keyword reached, with every
keyword's message.
-/

namespace Parsing

set_option autoImplicit false

variable {text : Array Char}

/-! ## Common prefixes -/

def commonPrefixLength {α : Type} [DecidableEq α] : List α → List α → Nat
  | [], _ => 0
  | _ :: _, [] => 0
  | a :: as, b :: bs => if a = b then commonPrefixLength as bs + 1 else 0

section CommonPrefix

variable {α : Type} [DecidableEq α]

@[simp] theorem common_prefix_length_nil (r : List α) : commonPrefixLength [] r = 0 := rfl

@[simp] theorem common_prefix_length_cons_nil (a : α) (l : List α) :
    commonPrefixLength (a :: l) [] = 0 := rfl

@[simp] theorem common_prefix_length_cons_self (a : α) (l r : List α) :
    commonPrefixLength (a :: l) (a :: r) = commonPrefixLength l r + 1 := by
  simp [commonPrefixLength]

theorem common_prefix_length_cons_of_ne {a b : α} (differ : a ≠ b) (l r : List α) :
    commonPrefixLength (a :: l) (b :: r) = 0 := by
  simp [commonPrefixLength, differ]

theorem common_prefix_length_cons_of_head_ne {a : α} {l r : List α} (differs : r.head? ≠ some a) :
    commonPrefixLength (a :: l) r = 0 := by
  cases r with
  | nil => rfl
  | cons b r => exact common_prefix_length_cons_of_ne (fun same => differs (by rw [same]; rfl)) l r

theorem common_prefix_length_le (l r : List α) : commonPrefixLength l r ≤ l.length := by
  induction l generalizing r with
  | nil => simp
  | cons a l induction =>
      cases r with
      | nil => simp
      | cons b r =>
          by_cases same : a = b
          · subst same
            simpa using induction r
          · simp [common_prefix_length_cons_of_ne same]

theorem common_prefix_length_eq_length_iff (l r : List α) :
    commonPrefixLength l r = l.length ↔ l <+: r := by
  induction l generalizing r with
  | nil => simp
  | cons a l induction =>
      cases r with
      | nil => simp
      | cons b r =>
          by_cases same : a = b
          · subst same
            simp [induction r]
          · simp [common_prefix_length_cons_of_ne same, same]

end CommonPrefix

theorem max?_map_add_left (c : Nat) (l : List Nat) :
    (l.map (c + ·)).max? = l.max?.map (c + ·) := by
  induction l with
  | nil => rfl
  | cons a l induction =>
      rw [List.map_cons, List.max?_cons, List.max?_cons, induction]
      cases l.max? with
      | none => rfl
      | some b => simp [Nat.add_max_add_left]

/-! ## The characters left after a position -/

namespace Stream

theorem peek_eq_head_rest (s : Stream text) : s.peek = s.rest.head? := by
  simp only [peek, rest, List.head?_drop, Array.getElem?_toList]

theorem rest_eq_nil_iff (s : Stream text) : s.rest = [] ↔ s.offset = text.size := by
  have bounded := s.offset_le
  simp only [rest, List.drop_eq_nil_iff, Array.length_toList]
  omega

theorem advance_of_rest_eq_cons {s : Stream text} {c : Char} {tail : List Char}
    (restAt : s.rest = c :: tail) : s.advance.offset = s.offset + 1 ∧ s.advance.rest = tail := by
  have inside : s.offset < text.size := by
    have bounded := s.offset_le
    have notEnd := mt (rest_eq_nil_iff s).mpr (by rw [restAt]; exact List.cons_ne_nil c tail)
    omega
  have later := offset_advance_of_lt s inside
  refine ⟨later, ?_⟩
  simp only [rest, later, ← List.tail_drop]
  rw [show text.toList.drop s.offset = s.rest from rfl, restAt, List.tail_cons]

theorem rest_eq_drop {s t : Stream text} (later : s.offset ≤ t.offset) :
    t.rest = s.rest.drop (t.offset - s.offset) := by
  simp only [rest, List.drop_drop, Nat.add_sub_cancel' later]

end Stream

/-! ## One character -/

namespace ParseError

/-- The error of a literal whose character `c` is missing at `position` in a text of `size`
characters: the end of the input where the text ends there, a plain failure where another
character stands. -/
def missingChar (size position : Nat) (c : Char) : ParseError :=
  if position = size then
    ⟨.endOfInput, s!"{position}: end of input, expected character \"{c}\"", position⟩
  else ⟨.parseFailure, s!"{position}: expected character \"{c}\"", position⟩

theorem missing_char_eq (size position : Nat) (c : Char) :
    missingChar size position c =
      if position = size then endOfInput position s!"expected character \"{c}\""
      else failure position s!"expected character \"{c}\"" := by
  have endJoined : ": end of input, " ++ "expected character \"" =
      ": end of input, expected character \"" := rfl
  have failureJoined : ": " ++ "expected character \"" = ": expected character \"" := rfl
  unfold missingChar endOfInput failure
  rw [← endJoined, ← failureJoined]
  simp only [toString, String.append_assoc]

@[simp] theorem missing_char_position (size position : Nat) (c : Char) :
    (missingChar size position c).position = position := by
  unfold missingChar
  split <;> rfl

@[simp] theorem missing_char_recoverable (size position : Nat) (c : Char) :
    (missingChar size position c).isFatal = false := by
  unfold missingChar
  split <;> rfl

end ParseError

namespace Parser

theorem char_parse_of_head {c : Char} {s : Stream text} (atHead : s.rest.head? = some c) :
    (char c).parse s = .ok (s.advance, c.toString) := by
  simp [char, satisfy, predicate, Stream.peek_eq_head_rest, atHead]

theorem char_parse_of_not_head {c : Char} {s : Stream text} (notHead : s.rest.head? ≠ some c) :
    (char c).parse s = .error (ParseError.missingChar text.size s.offset c) := by
  rw [ParseError.missing_char_eq]
  simp only [char, satisfy, predicate, Stream.peek_eq_head_rest]
  cases headAt : s.rest.head? with
  | none =>
      have atEnd := (Stream.rest_eq_nil_iff s).mp (List.head?_eq_none_iff.mp headAt)
      simp [atEnd]
  | some d =>
      have differs : d ≠ c := fun same => notHead (by rw [headAt, same])
      have inside : s.offset ≠ text.size := fun atEnd => by
        rw [← Stream.rest_eq_nil_iff] at atEnd
        rw [atEnd] at headAt
        cases headAt
      simp [differs, inside]

/-! ## Literals -/

theorem literal_cons_cons (c d : Char) (rest : List Char) :
    literal (c :: d :: rest) = chain Monoid.text (char c) (literal (d :: rest)) := rfl

theorem literal_parse_of_not_head {c : Char} {rest : List Char} {s : Stream text}
    (notHead : s.rest.head? ≠ some c) :
    (literal (c :: rest)).parse s = .error (ParseError.missingChar text.size s.offset c) := by
  cases rest with
  | nil => exact char_parse_of_not_head notHead
  | cons d rest => exact chain_parse_of_error (char_parse_of_not_head notHead)

theorem literal_parse_of_head {c : Char} {rest : List Char} {s : Stream text} (more : rest ≠ [])
    (atHead : s.rest.head? = some c) :
    (literal (c :: rest)).parse s =
      ((literal rest).parse s.advance).map fun r => (r.1, c.toString ++ r.2) := by
  obtain ⟨d, rest, rfl⟩ := List.exists_cons_of_ne_nil more
  rw [literal_cons_cons, chain_parse_of_ok (char_parse_of_head atHead)]
  rfl

theorem literal_parse_of_prefix : ∀ (chars : List Char), chars ≠ [] → ∀ (s : Stream text),
    chars <+: s.rest → ∃ next : Stream text, next.offset = s.offset + chars.length ∧
      (literal chars).parse s = .ok (next, String.ofList chars)
  | [], nonEmpty, _, _ => absurd rfl nonEmpty
  | [c], _, s, ⟨tail, restAt⟩ => by
      obtain ⟨later, -⟩ := Stream.advance_of_rest_eq_cons restAt.symm
      refine ⟨s.advance, later, ?_⟩
      rw [literal, char_parse_of_head (by rw [← restAt]; rfl)]
      rfl
  | c :: d :: rest, _, s, ⟨tail, restAt⟩ => by
      obtain ⟨later, restLater⟩ := Stream.advance_of_rest_eq_cons restAt.symm
      obtain ⟨next, nextOffset, restRead⟩ := literal_parse_of_prefix (d :: rest)
        (List.cons_ne_nil d rest) s.advance ⟨tail, restLater.symm⟩
      refine ⟨next, ?_, ?_⟩
      · rw [nextOffset, later]
        simp only [List.length_cons]
        omega
      · rw [literal_parse_of_head (List.cons_ne_nil d rest) (by rw [← restAt]; rfl), restRead]
        simp [String.ofList_cons, Except.map]

theorem literal_parse_of_mismatch : ∀ (chars : List Char) (s : Stream text) (c : Char),
    chars[commonPrefixLength chars s.rest]? = some c →
    (literal chars).parse s =
      .error (ParseError.missingChar text.size (s.offset + commonPrefixLength chars s.rest) c)
  | [], _, _, missing => by simp at missing
  | d :: more, s, c, missing => by
      -- only where the input goes on with `d` does the literal read further
      by_cases atHead : s.rest.head? = some d
      · obtain ⟨tail, restAt⟩ := List.head?_eq_some_iff.mp atHead
        rw [restAt, common_prefix_length_cons_self, List.getElem?_cons_succ] at missing
        rw [restAt, common_prefix_length_cons_self]
        have longer : more ≠ [] := by
          rintro rfl
          simp at missing
        obtain ⟨later, restLater⟩ := Stream.advance_of_rest_eq_cons restAt
        have position : s.advance.offset + commonPrefixLength more s.advance.rest =
            s.offset + (commonPrefixLength more tail + 1) := by
          rw [later, restLater]
          omega
        rw [literal_parse_of_head longer atHead,
          literal_parse_of_mismatch more s.advance c (by rw [restLater]; exact missing), position]
        rfl
      · rw [common_prefix_length_cons_of_head_ne atHead] at missing ⊢
        simp only [List.getElem?_cons_zero, Option.some.injEq] at missing
        subst missing
        rw [Nat.add_zero]
        exact literal_parse_of_not_head atHead

theorem literal_mismatch_exists {chars : List Char} {s : Stream text}
    (notPrefix : ¬chars <+: s.rest) : ∃ c, chars[commonPrefixLength chars s.rest]? = some c := by
  have shorter : commonPrefixLength chars s.rest < chars.length :=
    Nat.lt_of_le_of_ne (common_prefix_length_le _ _)
      (mt (common_prefix_length_eq_length_iff _ _).mp notPrefix)
  exact ⟨_, List.getElem?_eq_getElem shorter⟩

/-- A literal reads exactly itself. Where the input starts with it, it succeeds with the literal,
as many characters on as it has; elsewhere it fails where the input departs from it, with the error
of its character there, and the empty literal fails fatally where it is run. -/
theorem string_reads_exactly_its_literal (word : String) (s : Stream text) :
    (word = "" → (string word).parse s =
      .error ⟨.fatal, "string literal must not be empty", s.offset⟩) ∧
    (word ≠ "" → commonPrefixLength word.toList s.rest = word.length →
      ∃ next : Stream text, next.offset = s.offset + word.length ∧
        (string word).parse s = .ok (next, word)) ∧
    (∀ c : Char, word.toList[commonPrefixLength word.toList s.rest]? = some c →
      (string word).parse s = .error
        (ParseError.missingChar text.size (s.offset + commonPrefixLength word.toList s.rest) c)) := by
  refine ⟨fun empty => ?_, fun nonEmpty whole => ?_,
    fun c missing => literal_parse_of_mismatch word.toList s c missing⟩
  · subst empty
    rfl
  · have chars : word.toList ≠ [] := mt String.toList_eq_nil_iff.mp nonEmpty
    have isPrefix : word.toList <+: s.rest := by
      rw [← common_prefix_length_eq_length_iff, whole, String.length_toList]
    obtain ⟨next, nextOffset, read⟩ := literal_parse_of_prefix word.toList chars s isPrefix
    refine ⟨next, by rw [nextOffset, String.length_toList], ?_⟩
    rw [string, read, String.ofList_toList]

theorem literal_abc_on_abcd_and_abd :
    ("abc" ≠ "" ∧ commonPrefixLength "abc".toList (Stream.start #['a', 'b', 'c', 'd']).rest =
      "abc".length) ∧
    (∃ next : Stream #['a', 'b', 'c', 'd'], next.offset = 3 ∧
      (string "abc").parse (Stream.start #['a', 'b', 'c', 'd']) = .ok (next, "abc")) ∧
    "abc".toList[commonPrefixLength "abc".toList (Stream.start #['a', 'b', 'd']).rest]? = some 'c' ∧
    (string "abc").parse (Stream.start #['a', 'b', 'd']) =
      .error ⟨.parseFailure, "2: expected character \"c\"", 2⟩ := by
  have fits : "abc" ≠ "" ∧ commonPrefixLength "abc".toList
      (Stream.start #['a', 'b', 'c', 'd']).rest = "abc".length := by decide
  have departs : "abc".toList[commonPrefixLength "abc".toList
      (Stream.start #['a', 'b', 'd']).rest]? = some 'c' := by decide
  refine ⟨fits, ?_, departs, ?_⟩
  · exact (string_reads_exactly_its_literal "abc" (Stream.start #['a', 'b', 'c', 'd'])).2.1
      fits.1 fits.2
  · rw [(string_reads_exactly_its_literal "abc" (Stream.start #['a', 'b', 'd'])).2.2 'c' departs]
    exact congrArg Except.error (by decide)

/-! ## Keyword lists -/

theorem string_settles_iff_prefix {word : String} (nonEmpty : word ≠ "") (s : Stream text) :
    settlesChoice ((string word).parse s) = word.toList.isPrefixOf s.rest := by
  by_cases isPrefix : word.toList <+: s.rest
  · obtain ⟨next, -, read⟩ := literal_parse_of_prefix word.toList
      (mt String.toList_eq_nil_iff.mp nonEmpty) s isPrefix
    rw [string, read, List.isPrefixOf_iff_prefix.mpr isPrefix]
    rfl
  · obtain ⟨c, missing⟩ := literal_mismatch_exists isPrefix
    rw [string, literal_parse_of_mismatch _ s c missing,
      Bool.eq_false_iff.mpr (mt List.isPrefixOf_iff_prefix.mp isPrefix)]
    exact ParseError.missing_char_recoverable _ _ _

theorem find_settling_literal (s : Stream text) :
    ∀ words : List String, (∀ word ∈ words, word ≠ "") →
      (words.map fun word => (string word).parse s).find? settlesChoice =
        (words.find? fun word => word.toList.isPrefixOf s.rest).map fun word => (string word).parse s
  | [], _ => rfl
  | word :: words, nonEmpty => by
      have rest := find_settling_literal s words
        fun other member => nonEmpty other (List.mem_cons_of_mem word member)
      rw [List.map_cons, List.find?_cons, List.find?_cons,
        string_settles_iff_prefix (nonEmpty word List.mem_cons_self) s]
      cases word.toList.isPrefixOf s.rest with
      | true => rfl
      | false => exact rest

theorem literals_fail_where_none_fits (s : Stream text) : ∀ words : List String,
    (∀ word ∈ words, ¬word.toList <+: s.rest) →
    ∃ errors : List ParseError, words.map (fun word => (string word).parse s) = errors.map .error ∧
      (∀ e ∈ errors, e.isFatal = false) ∧
      errors.map (·.position) =
        words.map fun word => s.offset + commonPrefixLength word.toList s.rest
  | [], _ => ⟨[], rfl, by simp, rfl⟩
  | word :: words, noneFits => by
      obtain ⟨c, missing⟩ := literal_mismatch_exists (noneFits word List.mem_cons_self)
      obtain ⟨errors, outcomes, recoverable, positions⟩ := literals_fail_where_none_fits s words
        fun other member => noneFits other (List.mem_cons_of_mem word member)
      refine ⟨ParseError.missingChar text.size (s.offset + commonPrefixLength word.toList s.rest) c
        :: errors, ?_, ?_, ?_⟩
      · rw [List.map_cons, List.map_cons, outcomes, string, literal_parse_of_mismatch _ s c missing]
      · intro e member
        rcases List.mem_cons.mp member with rfl | later
        · exact ParseError.missing_char_recoverable _ _ _
        · exact recoverable e later
      · rw [List.map_cons, List.map_cons, positions, ParseError.missing_char_position]

theorem keywords_eq_nest_right (word : String) (words : List String) :
    keywords (word :: words) = nestRight alt (string word) (words.map string) := by
  rw [keywords_cons, ← List.foldl_map, foldl_eq_nest_right alt_assoc]

theorem keyword_branches_parse (s : Stream text) (word : String) (words : List String) :
    (string word :: words.map string).map (·.parse s) =
      (word :: words).map fun w => (string w).parse s := by
  simp

section KeywordList

variable {first : String} {others : List String} (s : Stream text)

theorem keywords_parse_of_first_fit (nonEmpty : ∀ word ∈ first :: others, word ≠ "")
    {word : String} (found : (first :: others).find? (fun w => w.toList.isPrefixOf s.rest) = some word) :
    ∃ next : Stream text, next.offset = s.offset + word.length ∧
      (keywords (first :: others)).parse s = .ok (next, word) := by
  have fits := List.find?_some found
  obtain ⟨next, nextOffset, read⟩ := literal_parse_of_prefix word.toList
    (mt String.toList_eq_nil_iff.mp (nonEmpty word (List.mem_of_find?_eq_some found))) s
    (List.isPrefixOf_iff_prefix.mp fits)
  have settles : ((string first :: others.map string).map (·.parse s)).find? settlesChoice =
      some ((string word).parse s) := by
    rw [keyword_branches_parse, find_settling_literal s _ nonEmpty, found]
    rfl
  refine ⟨next, by rw [nextOffset, String.length_toList], ?_⟩
  rw [keywords_eq_nest_right, nest_alt_parse_of_settles s _ _ _ settles, string, read,
    String.ofList_toList]

theorem keywords_parse_of_none_fits
    (none : (first :: others).find? (fun w => w.toList.isPrefixOf s.rest) = none) :
    ∃ e errors, (first :: others).map (fun w => (string w).parse s) = (e :: errors).map .error ∧
      (e :: errors).map (·.position) =
        (first :: others).map (fun w => s.offset + commonPrefixLength w.toList s.rest) ∧
      (keywords (first :: others)).parse s = .error (ParseError.eitherAll e errors) := by
  have unfit : ∀ word ∈ first :: others, ¬word.toList <+: s.rest := fun word member isPrefix =>
    List.find?_eq_none.mp none word member (List.isPrefixOf_iff_prefix.mpr isPrefix)
  obtain ⟨errors, outcomes, recoverable, positions⟩ :=
    literals_fail_where_none_fits s (first :: others) unfit
  obtain ⟨e, errors, rfl⟩ : ∃ e rest, errors = e :: rest := by
    cases errors with
    | nil => simp at outcomes
    | cons e rest => exact ⟨e, rest, rfl⟩
  refine ⟨e, errors, outcomes, positions, ?_⟩
  rw [keywords_eq_nest_right]
  exact nest_alt_parse_of_recoverable s _ _ e errors
    ((keyword_branches_parse s first others).trans outcomes) recoverable

end KeywordList

/-- A keyword list takes the first of its keywords that the input starts with. It succeeds exactly
when there is one, and then moves past it; where there is none, one keyword gives its own error
and two or more fail with every keyword's message in order, at the furthest point any keyword
reached. A list of non-empty keywords never fails fatally. -/
theorem keywords_take_the_first_literal_that_fits (words : List String) (present : words ≠ [])
    (nonEmpty : ∀ word ∈ words, word ≠ "") (s : Stream text) :
    ((∃ next value, (keywords words).parse s = .ok (next, value)) ↔
      ∃ word ∈ words, word.toList <+: s.rest) ∧
    (∀ word, words.find? (fun w => w.toList.isPrefixOf s.rest) = some word →
      ∃ next : Stream text, next.offset = s.offset + word.length ∧
        (keywords words).parse s = .ok (next, word)) ∧
    (words.find? (fun w => w.toList.isPrefixOf s.rest) = none →
      ∃ errors : List ParseError, words.map (fun w => (string w).parse s) = errors.map .error ∧
        (words.length = 1 → (keywords words).parse s = (string (words.head present)).parse s) ∧
        (2 ≤ words.length → ∃ e, (keywords words).parse s = .error e ∧
          e.kind = .parseFailure ∧
          e.message = " | ".intercalate (errors.map (·.message)) ∧
          ∃ longest, (words.map fun w => commonPrefixLength w.toList s.rest).max? = some longest ∧
            e.position = s.offset + longest)) ∧
    (∀ e, (keywords words).parse s = .error e → e.kind ≠ .fatal) := by
  obtain ⟨first, others, rfl⟩ := List.exists_cons_of_ne_nil present
  refine ⟨⟨?_, ?_⟩, fun word found => keywords_parse_of_first_fit s nonEmpty found, ?_, ?_⟩
  · rintro ⟨next, value, read⟩
    cases found : (first :: others).find? (fun w => w.toList.isPrefixOf s.rest) with
    | none =>
        obtain ⟨e, errors, -, -, failed⟩ := keywords_parse_of_none_fits s found
        rw [read] at failed
        cases failed
    | some word =>
        have fits := List.find?_some found
        exact ⟨word, List.mem_of_find?_eq_some found, List.isPrefixOf_iff_prefix.mp fits⟩
  · rintro ⟨word, member, isPrefix⟩
    cases found : (first :: others).find? (fun w => w.toList.isPrefixOf s.rest) with
    | none =>
        exact absurd (List.isPrefixOf_iff_prefix.mpr isPrefix)
          (List.find?_eq_none.mp found word member)
    | some word' =>
        obtain ⟨next, -, read⟩ := keywords_parse_of_first_fit s nonEmpty found
        exact ⟨next, word', read⟩
  · intro none
    obtain ⟨e, errors, outcomes, positions, failed⟩ := keywords_parse_of_none_fits s none
    refine ⟨e :: errors, outcomes, fun single => ?_, fun several => ?_⟩
    · have alone : others = [] := List.length_eq_zero_iff.mp (by simpa using single)
      subst alone
      rfl
    · cases errors with
      | nil =>
          simp only [List.map_cons, List.map_nil, List.cons.injEq, List.map_eq_nil_iff] at outcomes
          simp [outcomes.2] at several
      | cons e' errors =>
          refine ⟨_, failed, ParseError.either_all_kind e e' errors,
            ParseError.either_all_message e (e' :: errors), ?_⟩
          -- the furthest error is the longest common prefix, counted from where the choice began
          have furthest := ParseError.either_all_position e (e' :: errors)
          have shifted : (first :: others).map
              (fun w => s.offset + commonPrefixLength w.toList s.rest) =
              ((first :: others).map fun w => commonPrefixLength w.toList s.rest).map
                (s.offset + ·) := by
            rw [List.map_map]
            rfl
          rw [positions, shifted, max?_map_add_left] at furthest
          obtain ⟨longest, found, position⟩ := Option.map_eq_some_iff.mp furthest
          exact ⟨longest, found, position.symm⟩
  · intro e failed
    exact (keywords_never_fatal present nonEmpty).kind_ne_fatal failed

theorem keywords_mick_shadows_mickey :
    (["mick", "mickey"] ≠ [] ∧ ∀ word ∈ ["mick", "mickey"], word ≠ "") ∧
    ∃ next : Stream #['m', 'i', 'c', 'k', 'e', 'y'], next.offset = 4 ∧
      (keywords ["mick", "mickey"]).parse (Stream.start #['m', 'i', 'c', 'k', 'e', 'y']) =
        .ok (next, "mick") := by
  have wellFormed : ["mick", "mickey"] ≠ [] ∧ ∀ word ∈ ["mick", "mickey"], word ≠ "" := by decide
  obtain ⟨next, nextOffset, read⟩ := (keywords_take_the_first_literal_that_fits ["mick", "mickey"]
    wellFormed.1 wellFormed.2 (Stream.start #['m', 'i', 'c', 'k', 'e', 'y'])).2.1 "mick" (by decide)
  exact ⟨wellFormed, next, by rw [nextOffset]; decide, read⟩

end Parser

end Parsing
