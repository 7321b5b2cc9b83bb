import Parsing.Proofs.ClassRuns
import Parsing.Proofs.Unrolling

/-!
# Words separated by white space

`wordTokens` repeats a lower-case word with at most one white-space character taken on either
side of it. Between two words the repetition passes one or two white-space characters: one as
the trailing space of the word before, one as the leading space of the word after. A wider gap
stops it, because the next item takes one space and then finds white space where its word should
start, and the words after the gap are left unread. So on words separated by gaps of any width
the grammar lists exactly the words in front of the first gap of three or more characters.
-/

namespace Parsing

set_option autoImplicit false

variable {text : Array Char}

namespace Grammar

def IsLowerWord (w : List Char) : Prop := w ≠ [] ∧ ∀ c ∈ w, c.isLower = true

def IsGap (gap : List Char) : Prop := gap ≠ [] ∧ ∀ c ∈ gap, isAsciiSpace c = true

/-- What the optional space in front of a word may take: at most one white-space character. -/
def IsSpacing (lead : List Char) : Prop := lead.length ≤ 1 ∧ ∀ c ∈ lead, isAsciiSpace c = true

-- The characters are checked by `List.all`: an instance found for the bounded quantifier could
-- as well decide it over every character there is.
instance : DecidablePred IsLowerWord := fun w =>
  decidable_of_iff (w ≠ [] ∧ w.all Char.isLower = true) (by simp [IsLowerWord])

instance : DecidablePred IsGap := fun gap =>
  decidable_of_iff (gap ≠ [] ∧ gap.all isAsciiSpace = true) (by simp [IsGap])

theorem is_lower_of_space {c : Char} (space : isAsciiSpace c = true) : c.isLower = false := by
  simp only [isAsciiSpace, Bool.or_eq_true, beq_iff_eq] at space
  rcases space with (((rfl | rfl) | rfl) | rfl) | rfl <;> rfl

theorem is_space_of_lower {c : Char} (lower : c.isLower = true) : isAsciiSpace c = false := by
  cases space : isAsciiSpace c
  · rfl
  · rw [is_lower_of_space space] at lower
    cases lower

open Parsing.Parser

/-! ## One item: a word with the spacing around it -/

theorem optional_space_parse_before_word {s : Stream text} {lead w r : List Char}
    (spacing : IsSpacing lead) (word : IsLowerWord w) (restAt : s.rest = lead ++ w ++ r) :
    ∃ next : Stream text, next.rest = w ++ r ∧
      ∃ v, (optional Monoid.text space).parse s = .ok (next, v) := by
  obtain ⟨short, spaces⟩ := spacing
  match lead, short, spaces with
  | [], _, _ =>
      -- a word starts here, so there is no space to take
      obtain ⟨c, rest, rfl⟩ := List.exists_cons_of_ne_nil word.1
      have noSpace : s.rest.takeWhile isAsciiSpace = [] := by
        rw [restAt]
        simp [is_space_of_lower (word.2 c List.mem_cons_self)]
      have failed := satisfy_parse_of_no_run "expected space" noSpace
      refine ⟨s, by rw [restAt]; rfl, _, optional_parse_of_recoverable failed ?_⟩
      split <;> rfl
  | [c], _, spaces =>
      have restAt' : s.rest = c :: (w ++ r) := by rw [restAt]; rfl
      refine ⟨s.advance, (Stream.advance_of_rest_eq_cons restAt').2, _,
        optional_parse_of_ok (satisfy_parse_of_rest _ restAt' (spaces c List.mem_cons_self))⟩

theorem word_parse_of_word {s : Stream text} {w after : List Char} (word : IsLowerWord w)
    (stops : ∀ c, after.head? = some c → c.isLower = false) (restAt : s.rest = w ++ after) :
    ∃ next : Stream text, next.rest = after ∧ Parser.word.parse s = .ok (next, String.ofList w) :=
  greedy_parse_of_exact_run (satisfy_reads_class _ _) word.1 word.2 stops restAt

theorem spaced_word_parse_of_trailing_space {s : Stream text} {lead w r : List Char} {c : Char}
    (spacing : IsSpacing lead) (word : IsLowerWord w) (white : isAsciiSpace c = true)
    (restAt : s.rest = lead ++ w ++ c :: r) :
    ∃ next : Stream text, next.rest = r ∧
      (between (optional Monoid.text space) Parser.word).parse s = .ok (next, String.ofList w) := by
  obtain ⟨s₁, rest₁, v₁, opened⟩ := optional_space_parse_before_word spacing word restAt
  obtain ⟨s₂, rest₂, read⟩ := word_parse_of_word word
    (fun d atHead => by
      cases atHead
      exact is_lower_of_space white) rest₁
  have trailing := satisfy_parse_of_rest "expected space" rest₂ white
  exact ⟨s₂.advance, (Stream.advance_of_rest_eq_cons rest₂).2,
    surrounded_parse_of_ok opened read (optional_parse_of_ok trailing)⟩

theorem spaced_word_parse_at_end {s : Stream text} {lead w : List Char}
    (spacing : IsSpacing lead) (word : IsLowerWord w) (restAt : s.rest = lead ++ w) :
    ∃ next : Stream text, next.rest = [] ∧
      (between (optional Monoid.text space) Parser.word).parse s = .ok (next, String.ofList w) := by
  obtain ⟨s₁, rest₁, v₁, opened⟩ :=
    optional_space_parse_before_word (r := []) spacing word (by rw [restAt, List.append_nil])
  obtain ⟨s₂, rest₂, read⟩ := word_parse_of_word word (fun _ atHead => by cases atHead) rest₁
  have noSpace : s₂.rest.takeWhile isAsciiSpace = [] := by rw [rest₂]; rfl
  have trailing := satisfy_parse_of_no_run "expected space" noSpace
  refine ⟨s₂, rest₂, surrounded_parse_of_ok opened read (optional_parse_of_recoverable trailing ?_)⟩
  split <;> rfl

theorem spaced_word_fails_on_two_spaces {s : Stream text} {c d : Char} {r : List Char}
    (first : isAsciiSpace c = true) (second : isAsciiSpace d = true) (restAt : s.rest = c :: d :: r) :
    ∃ e, (between (optional Monoid.text space) Parser.word).parse s = .error e ∧
      e.isFatal = false := by
  have opened := optional_parse_of_ok (m := Monoid.text)
    (satisfy_parse_of_rest "expected space" restAt first)
  have noWord : s.advance.rest.takeWhile Char.isLower = [] := by
    rw [(Stream.advance_of_rest_eq_cons restAt).2]
    simp [is_lower_of_space second]
  have failed := greedy_parse_of_no_run (satisfy_reads_class Char.isLower "expected alpha character")
    noWord
  rw [satisfy_parse_of_no_run _ noWord] at failed
  refine ⟨_, surrounded_parse_of_inner_error opened failed, ?_⟩
  split <;> rfl

/-! ## The whole repetition -/

theorem spaced_words_runs (pairs : List (String × String)) :
    ∀ (lead : List Char) (w : String) (s : Stream text), IsSpacing lead → IsLowerWord w.toList →
      (∀ pair ∈ pairs, IsGap pair.1.toList ∧ IsLowerWord pair.2.toList) →
      s.rest = lead ++ w.toList ++ (pairs.map fun pair => pair.1.toList ++ pair.2.toList).flatten →
      ∃ last, Runs (between (optional Monoid.text space) Parser.word) s
        (w :: (pairs.takeWhile fun pair => pair.1.length ≤ 2).map Prod.snd) last ∧
        StopsAt (between (optional Monoid.text space) Parser.word) last := by
  induction pairs with
  | nil =>
      intro lead w s spacing word _ restAt
      rw [List.map_nil, List.flatten_nil, List.append_nil] at restAt
      obtain ⟨next, atEnd, read⟩ := spaced_word_parse_at_end spacing word restAt
      have moved : next.offset = s.offset + (lead ++ w.toList).length :=
        Stream.offset_of_rest (by rw [restAt, atEnd, List.append_nil])
      have longer : 0 < (lead ++ w.toList).length := by
        have present := List.length_pos_iff.mpr word.1
        rw [List.length_append]
        omega
      rw [String.ofList_toList] at read
      exact ⟨next, .step read (by omega) (.stop next), stops_at_of_rest_eq_nil atEnd⟩
  | cons pair pairs induction =>
      intro lead w s spacing word wellFormed restAt
      obtain ⟨gap, w'⟩ := pair
      obtain ⟨⟨gapPresent, gapSpaces⟩, word'⟩ := wellFormed (gap, w') List.mem_cons_self
      obtain ⟨c, more, gapAt⟩ := List.exists_cons_of_ne_nil gapPresent
      have restAt' : s.rest = lead ++ w.toList ++
          c :: (more ++ w'.toList ++ (pairs.map fun pair => pair.1.toList ++ pair.2.toList).flatten) := by
        rw [restAt, List.map_cons, List.flatten_cons, gapAt]
        simp
      obtain ⟨next, nextRest, read⟩ := spaced_word_parse_of_trailing_space spacing word
        (gapSpaces c (by rw [gapAt]; exact List.mem_cons_self)) restAt'
      have moved : next.offset = s.offset + (lead ++ w.toList ++ [c]).length :=
        Stream.offset_of_rest (by rw [restAt', nextRest]; simp)
      rw [String.ofList_toList] at read
      have progress : s.offset < next.offset := by simp at moved; omega
      have others : ∀ pair ∈ pairs, IsGap pair.1.toList ∧ IsLowerWord pair.2.toList :=
        fun pair member => wellFormed pair (List.mem_cons_of_mem _ member)
      by_cases narrow : gap.length ≤ 2
      · -- the rest of the gap is the spacing in front of the next word
        have spacing' : IsSpacing more := by
          have lengths := congrArg List.length gapAt
          rw [String.length_toList] at lengths
          refine ⟨by simp at lengths; omega, fun d member => gapSpaces d ?_⟩
          rw [gapAt]
          exact List.mem_cons_of_mem c member
        obtain ⟨last, runs, stops⟩ := induction more w' next spacing' word' others nextRest
        refine ⟨last, ?_, stops⟩
        rw [List.takeWhile_cons_of_pos (by simpa using narrow)]
        exact .step read progress runs
      · -- a gap of three or more leaves two spaces where the next item starts
        obtain ⟨d, e, more', moreAt⟩ : ∃ d e more', more = d :: e :: more' := by
          have lengths := congrArg List.length gapAt
          rw [String.length_toList] at lengths
          match more, lengths with
          | d :: e :: more', _ => exact ⟨d, e, more', rfl⟩
          | [], lengths => simp at lengths; omega
          | [_], lengths => simp at lengths; omega
        have inGap : ∀ x ∈ more, isAsciiSpace x = true := fun x member => gapSpaces x (by
          rw [gapAt]
          exact List.mem_cons_of_mem c member)
        obtain ⟨failure, failed, recoverable⟩ := spaced_word_fails_on_two_spaces
          (inGap d (by rw [moreAt]; exact List.mem_cons_self))
          (inGap e (by rw [moreAt]; simp)) (s := next) (r := more' ++ w'.toList ++
            (pairs.map fun pair => pair.1.toList ++ pair.2.toList).flatten)
          (by rw [nextRest, moreAt]; simp)
        refine ⟨next, ?_, .inr ⟨failure, failed, recoverable⟩⟩
        rw [List.takeWhile_cons_of_neg (by simpa using narrow)]
        exact .step read progress (.stop next)

theorem word_tokens_run_spaced (first : String) (pairs : List (String × String))
    (firstWord : IsLowerWord first.toList)
    (wellFormed : ∀ pair ∈ pairs, IsGap pair.1.toList ∧ IsLowerWord pair.2.toList) :
    wordTokens.run (first ++ String.join (pairs.map fun pair => pair.1 ++ pair.2)) =
      .ok (first :: (pairs.takeWhile fun pair => pair.1.length ≤ 2).map Prod.snd) := by
  have restAt : (Stream.ofString (first ++ String.join (pairs.map fun pair => pair.1 ++ pair.2))).rest =
      [] ++ first.toList ++ (pairs.map fun pair => pair.1.toList ++ pair.2.toList).flatten := by
    rw [Stream.rest_ofString, String.toList_append, String.toList_join, List.flatMap_map]
    simp [List.flatMap]
  obtain ⟨last, runs, stops⟩ := spaced_words_runs pairs [] first _ ⟨by simp, by simp⟩ firstWord
    wellFormed restAt
  rw [Parser.run, wordTokens, many1_parse_of_runs (List.cons_ne_nil _ _) runs stops]
  rfl

/-- `wordTokens` reads words separated by white space only where every gap has one or two
characters: on any words and gaps it lists the words in front of the first gap of three or more,
so it lists them all exactly when there is no such gap. -/
theorem word_tokens_read_words_before_wide_gap (first : String) (pairs : List (String × String))
    (firstWord : IsLowerWord first.toList)
    (wellFormed : ∀ pair ∈ pairs, IsGap pair.1.toList ∧ IsLowerWord pair.2.toList) :
    wordTokens.run (first ++ String.join (pairs.map fun pair => pair.1 ++ pair.2)) =
      .ok (first :: (pairs.takeWhile fun pair => pair.1.length ≤ 2).map Prod.snd) ∧
    (wordTokens.run (first ++ String.join (pairs.map fun pair => pair.1 ++ pair.2)) =
      .ok (first :: pairs.map Prod.snd) ↔ ∀ pair ∈ pairs, pair.1.length ≤ 2) := by
  have read := word_tokens_run_spaced first pairs firstWord wellFormed
  refine ⟨read, ?_⟩
  rw [read, Except.ok.injEq, List.cons.injEq]
  constructor
  · rintro ⟨-, same⟩
    -- the words listed are as many as all of them only where the gaps read are all the gaps
    have lengths := congrArg List.length same
    rw [List.length_map, List.length_map] at lengths
    have whole := (List.takeWhile_prefix _).eq_of_length lengths
    intro pair member
    simpa using List.takeWhile_eq_self_iff.mp whole pair member
  · intro narrow
    rw [List.takeWhile_eq_self_iff.mpr (fun pair member => by simpa using narrow pair member)]
    exact ⟨rfl, rfl⟩

theorem word_tokens_on_single_and_double_gaps :
    (IsLowerWord "mickey".toList ∧ ∀ pair ∈ [(" ", "mouse"), ("  ", "goofey")],
      IsGap pair.1.toList ∧ IsLowerWord pair.2.toList) ∧
    wordTokens.run "mickey mouse  goofey" = .ok ["mickey", "mouse", "goofey"] := by
  have wellFormed : IsLowerWord "mickey".toList ∧ ∀ pair ∈ [(" ", "mouse"), ("  ", "goofey")],
      IsGap pair.1.toList ∧ IsLowerWord pair.2.toList := by decide
  have read := (word_tokens_read_words_before_wide_gap "mickey" [(" ", "mouse"), ("  ", "goofey")]
    wellFormed.1 wellFormed.2).2.mpr (by decide)
  exact ⟨wellFormed, read⟩

theorem word_tokens_drop_the_word_after_three_spaces :
    wordTokens.run "a   b" = .ok ["a"] :=
  word_tokens_run_spaced "a" [("   ", "b")] (by decide) (by decide)

end Grammar

end Parsing
