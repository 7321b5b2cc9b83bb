import Parsing.Proofs.Position

/-!
# A text parser gives back the text it read

The parsers of text keep each character they read as their value. A sequence appends the values
of its parts, a repetition the values of its runs in order, and a choice or an `optional` keeps
the value of the one branch that succeeded, or nothing. So a success of a parser built only from
these yields exactly the characters between where it started and where it stopped. Values are
read as text through a flattening: a string is its own text, a list the texts of its items in
order. A combinator keeps this when its monoid flattens to concatenation (`Monoid.Flattens`);
delimiters (`surrounded`, `between`) and a `map` by any other function drop or change text, so
`Expr.preservesText` leaves them out.
-/

namespace Parsing

set_option autoImplicit false

variable {α β : Type} {text : Array Char}

namespace Stream

theorem slice_self (s : Stream text) : s.slice s = [] := by
  simp [slice]

theorem slice_append {s t r : Stream text} (first : s.offset ≤ t.offset)
    (second : t.offset ≤ r.offset) : s.slice t ++ t.slice r = s.slice r := by
  have lengths : r.offset - s.offset = (t.offset - s.offset) + (r.offset - t.offset) := by omega
  have later : text.toList.drop t.offset =
      (text.toList.drop s.offset).drop (t.offset - s.offset) := by
    rw [List.drop_drop, Nat.add_sub_cancel' first]
  simp only [slice, List.drop_take]
  rw [lengths, List.take_add, ← later]

theorem slice_advance {s : Stream text} {c : Char} (peeked : s.peek = some c) :
    s.slice s.advance = [c] := by
  obtain ⟨inside, atOffset⟩ := Array.getElem?_eq_some_iff.mp peeked
  have inList : s.offset < text.toList.length := by simpa using inside
  simp only [slice, offset_advance_of_lt s inside, List.drop_take, Nat.add_sub_cancel_left,
    List.drop_eq_getElem_cons inList, Array.getElem_toList, atOffset, List.take_succ_cons,
    List.take_zero]

end Stream

/-- A way of reading values as text under which the identity is the empty text and a combination
is the concatenation of the texts of its parts. -/
structure Monoid.Flattens (m : Monoid α) (flatten : α → String) : Prop where
  flatten_identity : flatten m.identity = ""
  flatten_combine : ∀ a b, flatten (m.combine a b) = flatten a ++ flatten b

theorem Monoid.text_flattens : Monoid.text.Flattens id :=
  ⟨rfl, fun _ _ => rfl⟩

theorem Monoid.strings_flatten : (Monoid.list String).Flattens String.join :=
  ⟨String.join_nil, fun _ _ => String.join_append⟩

theorem Item.flattenAll_append (items others : List Item) :
    Item.flattenAll (items ++ others) = Item.flattenAll items ++ Item.flattenAll others := by
  induction items with
  | nil => simp [Item.flattenAll]
  | cons item items induction => simp [Item.flattenAll, induction, String.append_assoc]

theorem Item.flattenAll_singleton (item : Item) : Item.flattenAll [item] = item.flatten := by
  simp [Item.flattenAll]

theorem Item.flattenAll_map_text (words : List String) :
    Item.flattenAll (words.map .text) = String.join words := by
  induction words with
  | nil => rfl
  | cons word words induction => simp [Item.flattenAll, Item.flatten, induction]

theorem Item.flattenAll_eq_join (items : List Item) :
    Item.flattenAll items = String.join (items.map Item.flatten) := by
  induction items with
  | nil => rfl
  | cons item items induction => simp [Item.flattenAll, induction]

theorem Monoid.items_flatten : (Monoid.list Item).Flattens Item.flattenAll :=
  ⟨rfl, Item.flattenAll_append⟩

theorem Shape.monoid_flattens : (sh : Shape) → sh.monoid.Flattens sh.flatten
  | .text => Monoid.text_flattens
  | .list => Monoid.items_flatten

namespace Parser

/-- Every success of `p` yields, read through `flatten`, exactly the characters it consumed. -/
structure ReadsBack (flatten : α → String) (p : Parser α) : Prop where
  ok_text : ∀ {text : Array Char} {s next : Stream text} {a : α},
    p.parse s = .ok (next, a) → flatten a = String.ofList (s.slice next)

section Combinators

variable {flatten : α → String}

theorem predicate_reads_back (accepts : Char → Bool) (expected : String) :
    (predicate accepts Char.toString expected).ReadsBack id := by
  constructor
  intro text s next a run
  obtain ⟨c, peeked, _, rfl, rfl⟩ := predicate_parse_eq_ok run
  rw [Stream.slice_advance peeked]
  rfl

theorem chain_reads_back {m : Monoid α} (flattens : m.Flattens flatten) {first second : Parser α}
    (firstBounded : first.StaysInBounds) (secondBounded : second.StaysInBounds)
    (firstReads : first.ReadsBack flatten) (secondReads : second.ReadsBack flatten) :
    (chain m first second).ReadsBack flatten := by
  constructor
  intro text s s₂ v run
  obtain ⟨s₁, a, b, firstAt, secondAt, rfl⟩ := chain_parse_eq_ok run
  have adjacent := Stream.slice_append (firstBounded.ok_offset firstAt)
    (secondBounded.ok_offset secondAt)
  rw [flattens.flatten_combine, firstReads.ok_text firstAt, secondReads.ok_text secondAt,
    ← String.ofList_append, adjacent]

theorem alt_reads_back {first second : Parser α} (firstReads : first.ReadsBack flatten)
    (secondReads : second.ReadsBack flatten) : (alt first second).ReadsBack flatten := by
  constructor
  intro text s next a run
  rcases alt_parse_eq_ok run with firstAt | secondAt
  · exact firstReads.ok_text firstAt
  · exact secondReads.ok_text secondAt

theorem optional_reads_back {m : Monoid α} (flattens : m.Flattens flatten) {p : Parser α}
    (reads : p.ReadsBack flatten) : (optional m p).ReadsBack flatten := by
  constructor
  intro text s next a run
  rcases optional_parse_eq_ok run with pAt | nothingRead
  · exact reads.ok_text pAt
  -- a recoverable failure reads nothing and yields the identity, whose text is empty
  · cases nothingRead
    rw [flattens.flatten_identity, Stream.slice_self]

theorem map_reads_back {p : Parser α} {f : α → β} {flatten' : β → String}
    (reads : p.ReadsBack flatten) (keeps : ∀ a, flatten' (f a) = flatten a) :
    (p.map f).ReadsBack flatten' := by
  constructor
  intro text s next b run
  obtain ⟨a, pAt, rfl⟩ := map_parse_eq_ok run
  rw [keeps]
  exact reads.ok_text pAt

theorem fatal_reads_back (message : String) : (fatal message : Parser α).ReadsBack flatten := by
  constructor
  intro text s next a run
  cases run

theorem chain_many_reads_back {m : Monoid α} (flattens : m.Flattens flatten)
    {ps : List (Parser α)} (bounded : ∀ p ∈ ps, p.StaysInBounds)
    (reads : ∀ p ∈ ps, p.ReadsBack flatten) : (chainMany m ps).ReadsBack flatten := by
  cases ps with
  | nil => exact fatal_reads_back _
  | cons p ps =>
      rw [chain_many_cons]
      -- the parsers gathered so far stay in bounds too, which the next `chain` needs
      have gathered := List.foldlRecOn ps (chain m)
        (motive := fun acc => acc.StaysInBounds ∧ acc.ReadsBack flatten)
        ⟨bounded p List.mem_cons_self, reads p List.mem_cons_self⟩
        fun acc accFacts q member =>
          have qBounded := bounded q (List.mem_cons_of_mem p member)
          ⟨chain_stays_in_bounds m accFacts.1 qBounded,
            chain_reads_back flattens accFacts.1 qBounded accFacts.2
              (reads q (List.mem_cons_of_mem p member))⟩
      exact gathered.2

theorem greedy_from_reads_back {m : Monoid α} (flattens : m.Flattens flatten) {p : Parser α}
    (reads : p.ReadsBack flatten) (current : Stream text) (acc : α)
    {s' : Stream text} {v : α} (run : greedyFrom m p current acc = .ok (s', v)) :
    flatten v = flatten acc ++ String.ofList (current.slice s') := by
  revert run
  apply greedy_from_induction m p (fun current acc outcome =>
    outcome = .ok (s', v) → flatten v = flatten acc ++ String.ofList (current.slice s'))
  · intro current acc outcome leaving finished
    subst finished
    -- a success out of the loop stops where the pass started, having read nothing more
    obtain ⟨stopped, gathered⟩ := Prod.mk.inj (greedy_pass_exit_ok leaving).1
    rw [stopped, gathered, Stream.slice_self, String.ofList_nil, String.append_empty]
  · intro current acc next acc' going later run
    obtain ⟨_, progress, a, pAt, rfl⟩ := greedy_pass_proceed going
    have rest := later run
    have adjacent := Stream.slice_append (Nat.le_of_lt progress)
      (greedy_from_ok_offset m p next _ run)
    rw [rest, flattens.flatten_combine, reads.ok_text pAt, String.append_assoc,
      ← String.ofList_append, adjacent]

theorem greedy_reads_back {m : Monoid α} (flattens : m.Flattens flatten) {p : Parser α}
    (reads : p.ReadsBack flatten) :
    (greedy m p).ReadsBack flatten := by
  constructor
  intro text s s' v run
  obtain ⟨next, a, firstAt, progress, loopAt⟩ := greedy_parse_eq_ok run
  have adjacent := Stream.slice_append (Nat.le_of_lt progress)
    (greedy_from_ok_offset m p next a loopAt)
  rw [greedy_from_reads_back flattens reads next a loopAt, reads.ok_text firstAt,
    ← String.ofList_append, adjacent]

theorem many1_reads_back {p : Parser α} {flattenAll : List α → String}
    (flattens : (Monoid.list α).Flattens flattenAll) (single : ∀ a, flattenAll [a] = flatten a)
    (reads : p.ReadsBack flatten) : (many1 p).ReadsBack flattenAll :=
  greedy_reads_back flattens (map_reads_back reads single)

end Combinators

/-! ## Text parsers -/

theorem literal_reads_back : ∀ chars : List Char, (literal chars).ReadsBack id
  | [] => fatal_reads_back _
  | [_] => predicate_reads_back _ _
  | c :: d :: rest =>
      chain_reads_back Monoid.text_flattens (char_stays_in_bounds c)
        (literal_stays_in_bounds (d :: rest)) (predicate_reads_back _ _)
        (literal_reads_back (d :: rest))

theorem string_reads_back (word : String) : (string word).ReadsBack id :=
  literal_reads_back word.toList

theorem keywords_reads_back (words : List String) : (keywords words).ReadsBack id := by
  cases words with
  | nil => exact fatal_reads_back _
  | cons first rest =>
      rw [keywords_cons]
      exact List.foldlRecOn rest _ (string_reads_back first)
        fun _ accReads word _ => alt_reads_back accReads (string_reads_back word)

theorem any_letter_reads_back : anyLetter.ReadsBack id :=
  alt_reads_back (predicate_reads_back _ _) (predicate_reads_back _ _)

theorem greedy_satisfy_reads_back (accepts : Char → Bool) (expected : String) :
    (greedy Monoid.text (satisfy accepts expected)).ReadsBack id :=
  greedy_reads_back Monoid.text_flattens (predicate_reads_back _ _)

theorem many1_strings_reads_back {p : Parser String} (reads : p.ReadsBack id) :
    (many1 p).ReadsBack String.join :=
  many1_reads_back Monoid.strings_flatten (fun _ => by simp) reads

end Parser

open Parsing.Parser

/-! ## Expressions -/

/-- Whether a named parser keeps as its value the text it reads: the character-class parsers and
the two keyword streams do; a field declaration, the word tokens and the tagged tokens drop
delimiters. -/
def Named.preservesText : {sh : Shape} → Named sh → Bool
  | _, .space | _, .letter | _, .upperLetter | _, .anyLetter | _, .digit => true
  | _, .word | _, .upperWord | _, .anyWord | _, .digits | _, .spaces => true
  | _, .keywordStream | _, .alternationStream => true
  | _, .fieldDeclaration | _, .wordTokens | _, .taggedTokens => false

theorem Named.parser_reads_back {sh : Shape} :
    (name : Named sh) → name.preservesText = true → name.parser.ReadsBack sh.flatten
  | .space, _ | .letter, _ | .upperLetter, _ | .digit, _ => predicate_reads_back _ _
  | .anyLetter, _ => any_letter_reads_back
  | .word, _ | .upperWord, _ | .digits, _ | .spaces, _ => greedy_satisfy_reads_back _ _
  | .anyWord, _ => greedy_reads_back Monoid.text_flattens any_letter_reads_back
  | .keywordStream, _ =>
      map_reads_back (many1_strings_reads_back (keywords_reads_back _)) Item.flattenAll_map_text
  | .alternationStream, _ =>
      map_reads_back (many1_strings_reads_back
        (alt_reads_back (alt_reads_back (string_reads_back _) (string_reads_back _))
          (string_reads_back _))) Item.flattenAll_map_text
  | .fieldDeclaration, preserving | .wordTokens, preserving | .taggedTokens, preserving =>
      absurd preserving Bool.false_ne_true

mutual

/-- Whether an expression is built only from parsers that keep the text they read: the
single-character parsers that keep the character itself, literals, keyword lists, `fatal`, the
text-keeping named parsers, and the sequences, choices, repetitions, options, item lists and joins
of such expressions. A predicate that keeps its character is written `satisfy`, as the library
defines it; `predicate` turns the character into any string. -/
def Expr.preservesText : {sh : Shape} → Expr sh → Bool
  | _, .named name => name.preservesText
  | _, .char _ => true
  | _, .satisfy _ _ => true
  | _, .predicate _ _ _ => false
  | _, .string _ => true
  | _, .keywords _ => true
  | _, .chain first second => first.preservesText && second.preservesText
  | _, .alt first second => first.preservesText && second.preservesText
  | _, .greedy p => p.preservesText
  | _, .optional p => p.preservesText
  | _, .chainMany _ ps => Exprs.allPreserveText ps
  | _, .surrounded _ _ _ => false
  | _, .between _ _ => false
  | _, .toList p => p.preservesText
  | _, .many1 p => p.preservesText
  | _, .join p => p.preservesText
  | _, .map _ _ => false
  | _, .fatal _ _ => true

def Exprs.allPreserveText : {sh : Shape} → Exprs sh → Bool
  | _, .nil _ => true
  | _, .cons e es => e.preservesText && Exprs.allPreserveText es

end

example : (Expr.join (.many1 (.alt (.named .word) (.string "--")))).preservesText = true ∧
    (Expr.between (.char '"') (.named .word)).preservesText = false := by decide

mutual

theorem Expr.parser_reads_back : {sh : Shape} → (e : Expr sh) → e.preservesText = true →
    e.parser.ReadsBack sh.flatten
  | _, .named name, preserving => name.parser_reads_back preserving
  | _, .char _, _ => predicate_reads_back _ _
  | _, .satisfy _ _, _ => predicate_reads_back _ _
  | _, .string word, _ => string_reads_back word
  | _, .keywords words, _ => keywords_reads_back words
  | sh, .chain first second, preserving => by
      simp only [Expr.preservesText, Bool.and_eq_true] at preserving
      exact chain_reads_back sh.monoid_flattens first.parser_stays_in_bounds
        second.parser_stays_in_bounds (first.parser_reads_back preserving.1)
        (second.parser_reads_back preserving.2)
  | _, .alt first second, preserving => by
      simp only [Expr.preservesText, Bool.and_eq_true] at preserving
      exact alt_reads_back (first.parser_reads_back preserving.1)
        (second.parser_reads_back preserving.2)
  | sh, .greedy p, preserving =>
      greedy_reads_back sh.monoid_flattens (p.parser_reads_back preserving)
  | sh, .optional p, preserving =>
      optional_reads_back sh.monoid_flattens (p.parser_reads_back preserving)
  | sh, .chainMany _ ps, preserving =>
      chain_many_reads_back sh.monoid_flattens (Exprs.parsers_stay_in_bounds ps)
        (Exprs.parsers_read_back ps preserving)
  | _, .predicate _ _ _, preserving | _, .surrounded _ _ _, preserving
  | _, .between _ _, preserving | _, .map _ _, preserving =>
      absurd preserving Bool.false_ne_true
  -- an item list and a join keep each value as the item whose text is that value's text
  | _, @Expr.toList sh p, preserving =>
      map_reads_back (map_reads_back (p.parser_reads_back preserving) sh.flatten_item)
        Item.flattenAll_singleton
  | _, @Expr.many1 sh p, preserving =>
      many1_reads_back Monoid.items_flatten Item.flattenAll_singleton
        (map_reads_back (p.parser_reads_back preserving) sh.flatten_item)
  | _, .join p, preserving =>
      map_reads_back (map_reads_back (p.parser_reads_back preserving)
        fun items => (Item.flattenAll_eq_join items).symm) fun _ => rfl
  | _, .fatal _ _, _ => fatal_reads_back _

theorem Exprs.parsers_read_back : {sh : Shape} → (es : Exprs sh) →
    Exprs.allPreserveText es = true → ∀ p ∈ es.parsers, p.ReadsBack sh.flatten
  | _, .nil _, _ => fun _ member => by cases member
  | _, .cons e es, preserving => by
      simp only [Exprs.allPreserveText, Bool.and_eq_true] at preserving
      intro p member
      rcases List.mem_cons.mp member with rfl | member
      · exact e.parser_reads_back preserving.1
      · exact Exprs.parsers_read_back es preserving.2 p member

end

/-- A parser built only from text-keeping parts gives back exactly the text it consumed: on every
success from any stream, the value read as text is the characters from where the run started to
where it stopped. -/
theorem parsed_value_is_consumed_text {sh : Shape} (e : Expr sh)
    (preserving : e.preservesText = true) {text : Array Char} (s next : Stream text)
    (v : sh.Value) (run : e.parser.parse s = .ok (next, v)) :
    sh.flatten v = String.ofList (s.slice next) :=
  (e.parser_reads_back preserving).ok_text run

theorem keyword_then_missing_option_reads_back :
    (Expr.chain (.keywords ["ab", "a"]) (.optional (.char 'x'))).preservesText = true ∧
    (Expr.chain (.keywords ["ab", "a"]) (.optional (.char 'x'))).parser.parse
      (Stream.start #['a', 'b', 'c']) = .ok (⟨2, by decide⟩, "ab") ∧
    Shape.flatten .text "ab" =
      String.ofList ((Stream.start #['a', 'b', 'c']).slice ⟨2, by decide⟩) :=
  ⟨by decide, rfl, parsed_value_is_consumed_text
    (Expr.chain (.keywords ["ab", "a"]) (.optional (.char 'x'))) (by decide)
    (Stream.start #['a', 'b', 'c']) ⟨2, by decide⟩ "ab" rfl⟩

end Parsing
