import Mathlib.Tactic.MkIffOfInductiveProp
import Parsing.Proofs.ClassRuns
import Parsing.Proofs.Unrolling

/-!
# Field declarations read back

A declaration is written `name:type` or `name:type="default"`, and read in braces. The
declarations that read back as themselves are the `Readable` ones: a name of lower-case letters,
one of the two types, and a default, if there is one, of letters and white space; name and
default are not empty. On the rendering of such a declaration in braces the parser gives the
declaration back and stops right after the closing brace, and every success of the parser read
exactly such a rendering. Written back to back, the renderings of a list of declarations are read
by the repetition of the parser as that list.

Each part stops at the delimiter after it: the name is a maximal run of lower-case letters and
the colon is none of them; neither type is a prefix of the other, so the keyword list takes the
type that is written; the default is a maximal run of letters and white space, which the closing
quote is not. A declaration without a default is followed by the closing brace, where the
opening of a default fails recoverably, so the optional default reads nothing.
-/

namespace Parsing

set_option autoImplicit false

variable {text : Array Char}

theorem Stream.slice_of_rest {s next : Stream text} {read : List Char}
    (restAt : s.rest = read ++ next.rest) : s.slice next = read := by
  have moved := Stream.offset_of_rest restAt
  rw [Stream.slice, List.drop_take, moved, Nat.add_sub_cancel_left,
    show text.toList.drop s.offset = s.rest from rfl, restAt, List.take_left]

namespace Parser

/-! ## Literals read off the front -/

theorem string_parse_of_rest {word : String} (nonEmpty : word ≠ "") {s : Stream text}
    {after : List Char} (restAt : s.rest = word.toList ++ after) :
    ∃ next : Stream text, next.rest = after ∧ (string word).parse s = .ok (next, word) := by
  obtain ⟨next, moved, read⟩ := literal_parse_of_prefix word.toList
    (mt String.toList_eq_nil_iff.mp nonEmpty) s ⟨after, restAt.symm⟩
  refine ⟨next, Stream.rest_of_read restAt moved, ?_⟩
  rw [string, read, String.ofList_toList]

theorem string_parse_eq_ok {word : String} (nonEmpty : word ≠ "") {s next : Stream text}
    {v : String} (run : (string word).parse s = .ok (next, v)) :
    v = word ∧ s.rest = word.toList ++ next.rest := by
  have settles := string_settles_iff_prefix nonEmpty s
  rw [run] at settles
  obtain ⟨after, restAt⟩ := List.isPrefixOf_iff_prefix.mp settles.symm
  obtain ⟨next', rests, read⟩ := string_parse_of_rest nonEmpty restAt.symm
  rw [read] at run
  cases run
  exact ⟨rfl, by rw [rests]; exact restAt.symm⟩

theorem keywords_parse_eq_ok {words : List String} (nonEmpty : ∀ word ∈ words, word ≠ "")
    {s next : Stream text} {v : String} (run : (keywords words).parse s = .ok (next, v)) :
    v ∈ words ∧ s.rest = v.toList ++ next.rest := by
  cases words with
  | nil => rw [keywords, fatal_parse] at run; cases run
  | cons first others =>
      cases found : (first :: others).find? (fun w => w.toList.isPrefixOf s.rest) with
      | none =>
          obtain ⟨e, errors, -, -, failed⟩ := keywords_parse_of_none_fits s found
          rw [run] at failed
          cases failed
      | some word =>
          obtain ⟨next', moved, read⟩ := keywords_parse_of_first_fit s nonEmpty found
          rw [read] at run
          cases run
          have fits := List.find?_some found
          obtain ⟨after, restAt⟩ := List.isPrefixOf_iff_prefix.mp fits
          have nextRest : next.rest = after :=
            Stream.rest_of_read restAt.symm (by rw [moved, String.length_toList])
          refine ⟨List.mem_of_find?_eq_some found, ?_⟩
          rw [nextRest]
          exact restAt.symm

end Parser

namespace FieldDeclaration

open Parsing.Parser

/-! ## Renderings -/

def defaultText : Option String → List Char
  | some t => '=' :: '"' :: t.toList ++ ['"']
  | none => []

theorem render_toList (d : FieldDeclaration) :
    d.render.toList = d.name.toList ++ ':' :: d.typeName.toList ++ defaultText d.default := by
  rcases d with ⟨name, typeName, _ | t⟩ <;> simp [render, defaultText]

/-- The declarations that read back as themselves: a non-empty name of lower-case letters, one of
the known types, and a default, if there is one, of letters and white space, not empty. -/
@[mk_iff]
structure Readable (d : FieldDeclaration) : Prop where
  name_present : d.name ≠ ""
  name_lower : ∀ c ∈ d.name.toList, c.isLower = true
  type_known : d.typeName ∈ typeNames
  default_present : ∀ t ∈ d.default, t ≠ ""
  default_text : ∀ t ∈ d.default, ∀ c ∈ t.toList, (c.isAlpha || isAsciiSpace c) = true

-- The characters are checked by `List.all`: an instance found for the bounded quantifier could
-- as well decide it over every character there is.
instance (d : FieldDeclaration) : Decidable d.Readable :=
  decidable_of_iff (d.name ≠ "" ∧ d.name.toList.all Char.isLower = true ∧ d.typeName ∈ typeNames ∧
      (∀ t ∈ d.default, t ≠ "") ∧
      ∀ t ∈ d.default, (t.toList.all fun c => c.isAlpha || isAsciiSpace c) = true)
    (by simp [readable_iff])

theorem of_parts_rendered (d : FieldDeclaration) :
    ofParts ([d.name, ":", d.typeName] ++ d.default.toList) = d := by
  rcases d with ⟨name, typeName, _ | t⟩ <;> rfl

/-! ## The parts one at a time -/

theorem parts_eq : parts = chain (Monoid.list String)
    (chain (Monoid.list String) (chain (Monoid.list String) word.toList (char ':').toList)
      (keywords typeNames).toList)
    (optional (Monoid.list String) defaultValue.toList) := by
  rw [parts, chain_many_cons]
  rfl

theorem letter_reads_class : letter.ReadsClass Char.isLower := satisfy_reads_class _ _

theorem words_or_spaces_reads_class :
    (alt anyWord spaces).ReadsClass fun c => c.isAlpha || isAsciiSpace c :=
  alt_reads_class (greedy_reads_class any_letter_reads_class)
    (greedy_reads_class (satisfy_reads_class _ _))

theorem opening_quote_toList : ("=\"" : String).toList = ['=', '"'] := rfl

theorem type_parse_of_rest {type : String} (known : type ∈ typeNames) {s : Stream text}
    {after : List Char} (restAt : s.rest = type.toList ++ after) :
    ∃ next : Stream text, next.rest = after ∧ (keywords typeNames).parse s = .ok (next, type) := by
  -- neither type is a prefix of the other, so the type written is the first that fits
  have found : typeNames.find? (fun w => w.toList.isPrefixOf s.rest) = some type := by
    simp only [typeNames, List.mem_cons, List.not_mem_nil, or_false] at known
    rcases known with rfl | rfl <;> simp [typeNames, restAt]
  obtain ⟨next, moved, read⟩ := keywords_parse_of_first_fit s (by decide) found
  exact ⟨next, Stream.rest_of_read restAt (by rw [moved, String.length_toList]), read⟩

theorem default_value_parse_of_rest {t : String} (present : t ≠ "")
    (inClass : ∀ c ∈ t.toList, (c.isAlpha || isAsciiSpace c) = true) {s : Stream text}
    {after : List Char} (restAt : s.rest = '=' :: '"' :: t.toList ++ '"' :: after) :
    ∃ next : Stream text, next.rest = after ∧ defaultValue.parse s = .ok (next, t) := by
  obtain ⟨opened, openedRest, openingAt⟩ := string_parse_of_rest (by decide)
    (show s.rest = ("=\"" : String).toList ++ (t.toList ++ '"' :: after) by
      rw [restAt, opening_quote_toList]; rfl)
  obtain ⟨read, readRest, sentenceAt⟩ := greedy_parse_of_exact_run words_or_spaces_reads_class
    (mt String.toList_eq_nil_iff.mp present) inClass (by rintro c ⟨⟩; decide) openedRest
  obtain ⟨closed, closedRest, closingAt⟩ := char_parse_of_rest readRest
  rw [String.ofList_toList] at sentenceAt
  exact ⟨closed, closedRest, surrounded_parse_of_ok openingAt sentenceAt closingAt⟩

theorem default_parse_of_rest {default : Option String} (present : ∀ t ∈ default, t ≠ "")
    (inClass : ∀ t ∈ default, ∀ c ∈ t.toList, (c.isAlpha || isAsciiSpace c) = true)
    {s : Stream text} {after : List Char} (restAt : s.rest = defaultText default ++ '}' :: after) :
    ∃ next : Stream text, next.rest = '}' :: after ∧
      (optional (Monoid.list String) defaultValue.toList).parse s = .ok (next, default.toList) := by
  cases default with
  | none =>
      -- the closing brace is where the opening of a default fails, recoverably
      have failed : defaultValue.parse s = .error (ParseError.missingChar text.size s.offset '=') :=
        surrounded_parse_of_opening_error (by
          rw [string, opening_quote_toList]
          exact literal_parse_of_not_head (by rw [restAt]; simp [defaultText]))
      exact ⟨s, restAt, optional_parse_of_recoverable (to_list_parse_of_error failed)
        (ParseError.missing_char_recoverable _ _ _)⟩
  | some t =>
      obtain ⟨next, nextRest, read⟩ := default_value_parse_of_rest (present t rfl) (inClass t rfl)
        (show s.rest = '=' :: '"' :: t.toList ++ '"' :: '}' :: after by
          rw [restAt]; simp [defaultText])
      exact ⟨next, nextRest, optional_parse_of_ok (to_list_parse_of_ok read)⟩

theorem parts_parse_of_rendered {d : FieldDeclaration} (readable : d.Readable) {s : Stream text}
    {after : List Char} (restAt : s.rest = d.render.toList ++ '}' :: after) :
    ∃ next : Stream text, next.rest = '}' :: after ∧
      parts.parse s = .ok (next, [d.name, ":", d.typeName] ++ d.default.toList) := by
  have nameRest : s.rest =
      d.name.toList ++ ':' :: (d.typeName.toList ++ (defaultText d.default ++ '}' :: after)) := by
    rw [restAt, render_toList]
    simp
  obtain ⟨named, namedRest, nameAt⟩ := greedy_parse_of_exact_run letter_reads_class
    (mt String.toList_eq_nil_iff.mp readable.name_present) readable.name_lower
    (by rintro c ⟨⟩; decide) nameRest
  obtain ⟨colon, colonRest, colonAt⟩ := char_parse_of_rest namedRest
  obtain ⟨typed, typedRest, typeAt⟩ := type_parse_of_rest readable.type_known colonRest
  obtain ⟨next, nextRest, defaultAt⟩ := default_parse_of_rest readable.default_present
    readable.default_text typedRest
  rw [String.ofList_toList] at nameAt
  refine ⟨next, nextRest, ?_⟩
  rw [parts_eq]
  exact (chain_parse_of_oks (chain_parse_of_oks (chain_parse_of_oks
    (to_list_parse_of_ok nameAt) (to_list_parse_of_ok colonAt)) (to_list_parse_of_ok typeAt))
    defaultAt).trans rfl

theorem default_parse_eq_ok {s next : Stream text} {values : List String}
    (run : (optional (Monoid.list String) defaultValue.toList).parse s = .ok (next, values)) :
    ∃ default : Option String, (∀ t ∈ default, t ≠ "") ∧
      (∀ t ∈ default, ∀ c ∈ t.toList, (c.isAlpha || isAsciiSpace c) = true) ∧
      values = default.toList ∧ s.rest = defaultText default ++ next.rest := by
  rcases optional_parse_eq_ok run with read | nothing
  · obtain ⟨t, valueAt, rfl⟩ := to_list_parse_eq_ok read
    obtain ⟨opened, x, closed, y, openingAt, sentenceAt, closingAt⟩ :=
      surrounded_parse_eq_ok valueAt
    obtain ⟨-, openedAt⟩ := string_parse_eq_ok (by decide) openingAt
    obtain ⟨present, inClass, readAt⟩ :=
      greedy_parse_eq_ok_in_class words_or_spaces_reads_class sentenceAt
    obtain ⟨closedAt, -⟩ := char_parse_eq_ok closingAt
    refine ⟨some t, fun _ same => ?_, fun _ same => ?_, rfl, ?_⟩
    · cases same
      exact mt String.toList_eq_nil_iff.mpr present
    · cases same
      exact inClass
    · rw [openedAt, opening_quote_toList, readAt, closedAt]
      simp [defaultText]
  · cases nothing
    exact ⟨none, by simp, by simp, rfl, rfl⟩

theorem parts_parse_eq_ok {s next : Stream text} {values : List String}
    (run : parts.parse s = .ok (next, values)) :
    ∃ d : FieldDeclaration, d.Readable ∧ values = [d.name, ":", d.typeName] ++ d.default.toList ∧
      s.rest = d.render.toList ++ next.rest := by
  rw [parts_eq] at run
  obtain ⟨typed, front, defaults, frontAt, defaultAt, rfl⟩ := chain_parse_eq_ok run
  obtain ⟨colon, named, types, namedAt, typeAt, rfl⟩ := chain_parse_eq_ok frontAt
  obtain ⟨afterName, names, colons, nameAt, colonAt, rfl⟩ := chain_parse_eq_ok namedAt
  obtain ⟨name, nameRead, rfl⟩ := to_list_parse_eq_ok nameAt
  obtain ⟨colonText, colonRead, rfl⟩ := to_list_parse_eq_ok colonAt
  obtain ⟨type, typeRead, rfl⟩ := to_list_parse_eq_ok typeAt
  obtain ⟨namePresent, lower, nameRest⟩ := greedy_parse_eq_ok_in_class letter_reads_class nameRead
  obtain ⟨colonRest, rfl⟩ := char_parse_eq_ok colonRead
  obtain ⟨known, typeRest⟩ := keywords_parse_eq_ok (by decide) typeRead
  obtain ⟨default, present, inClass, rfl, defaultRest⟩ := default_parse_eq_ok defaultAt
  refine ⟨⟨name, type, default⟩,
    ⟨mt String.toList_eq_nil_iff.mpr namePresent, lower, known, present, inClass⟩, rfl, ?_⟩
  rw [render_toList, nameRest, colonRest, typeRest, defaultRest]
  simp

/-! ## Declarations in braces -/

/-- On the rendering of a readable declaration in braces, the parser gives the declaration back
and stops right after the closing brace. -/
theorem parser_parse_of_rendered {d : FieldDeclaration} (readable : d.Readable) {s : Stream text}
    {after : List Char} (restAt : s.rest = '{' :: (d.render.toList ++ '}' :: after)) :
    ∃ next : Stream text, next.rest = after ∧ parser.parse s = .ok (next, d) := by
  obtain ⟨opened, openedRest, openingAt⟩ := char_parse_of_rest restAt
  obtain ⟨read, readRest, partsAt⟩ := parts_parse_of_rendered readable openedRest
  obtain ⟨closed, closedRest, closingAt⟩ := char_parse_of_rest readRest
  refine ⟨closed, closedRest, surrounded_parse_of_ok openingAt ?_ closingAt⟩
  rw [map_parse, partsAt]
  simp only [Except.map, of_parts_rendered]

theorem parser_parse_eq_ok {s next : Stream text} {d : FieldDeclaration}
    (run : parser.parse s = .ok (next, d)) :
    d.Readable ∧ s.rest = '{' :: (d.render.toList ++ '}' :: next.rest) := by
  obtain ⟨opened, x, read, y, openingAt, partsAt, closingAt⟩ := surrounded_parse_eq_ok run
  obtain ⟨values, valuesAt, rfl⟩ := map_parse_eq_ok partsAt
  obtain ⟨d, readable, rfl, restAt⟩ := parts_parse_eq_ok valuesAt
  obtain ⟨openedAt, -⟩ := char_parse_eq_ok openingAt
  obtain ⟨closedAt, -⟩ := char_parse_eq_ok closingAt
  rw [of_parts_rendered, openedAt, restAt, closedAt]
  exact ⟨readable, rfl⟩

def braced (d : FieldDeclaration) : String := "\x7b" ++ d.render ++ "\x7d"

theorem braced_toList (d : FieldDeclaration) :
    d.braced.toList = '{' :: (d.render.toList ++ ['}']) := by
  simp [braced]

theorem braced_runs {after : List Char} : ∀ (ds : List FieldDeclaration) (s : Stream text),
    (∀ d ∈ ds, d.Readable) → s.rest = (ds.map fun d => d.braced.toList).flatten ++ after →
    ∃ last : Stream text, last.rest = after ∧ Runs parser s ds last
  | [], s, _, restAt => ⟨s, restAt, .stop s⟩
  | d :: ds, s, readable, restAt => by
      have restAt' : s.rest = '{' :: (d.render.toList ++
          '}' :: ((ds.map fun d => d.braced.toList).flatten ++ after)) := by
        rw [restAt, List.map_cons, List.flatten_cons, braced_toList]
        simp
      obtain ⟨next, nextRest, read⟩ :=
        parser_parse_of_rendered (readable d List.mem_cons_self) restAt'
      have moved : next.offset = s.offset + d.braced.toList.length :=
        Stream.offset_of_rest (by rw [restAt', nextRest, braced_toList]; simp)
      obtain ⟨last, lastRest, runs⟩ := braced_runs ds next
        (fun d' member => readable d' (List.mem_cons_of_mem d member)) nextRest
      refine ⟨last, lastRest, .step read ?_ runs⟩
      rw [moved, braced_toList, List.length_cons]
      omega

/-! ## Reading back -/

/-- Field declarations read back. On the rendering in braces of a readable declaration, followed
by any text, the parser gives the declaration and stops right after the closing brace; every
success of the parser read, in braces, the rendering of the readable declaration it gave; and the
repetition of the parser reads the renderings in braces of a non-empty list of readable
declarations, written back to back, as that list. -/
theorem field_declarations_read_back :
    (∀ (d : FieldDeclaration) (r : String), d.Readable →
      parser.parseString ("\x7b" ++ d.render ++ "\x7d" ++ r) = .ok (d, d.render.length + 2, r)) ∧
    (∀ {text : Array Char} (s next : Stream text) (d : FieldDeclaration),
      parser.parse s = .ok (next, d) →
      d.Readable ∧ String.ofList (s.slice next) = "\x7b" ++ d.render ++ "\x7d") ∧
    (∀ ds : List FieldDeclaration, ds ≠ [] → (∀ d ∈ ds, d.Readable) →
      (many1 parser).run (String.join (ds.map fun d => "\x7b" ++ d.render ++ "\x7d")) = .ok ds) := by
  refine ⟨fun d r readable => ?_, fun s next d run => ?_, fun ds present readable => ?_⟩
  · have restAt : (Stream.ofString ("\x7b" ++ d.render ++ "\x7d" ++ r)).rest =
        '{' :: (d.render.toList ++ '}' :: r.toList) := by
      rw [Stream.rest_ofString]
      simp
    obtain ⟨next, nextRest, read⟩ := parser_parse_of_rendered readable restAt
    have moved : next.offset = (Stream.ofString ("\x7b" ++ d.render ++ "\x7d" ++ r)).offset +
        d.braced.toList.length :=
      Stream.offset_of_rest (by rw [restAt, nextRest, braced_toList]; simp)
    have offsetAt : next.offset = d.render.length + 2 := by
      rw [moved, braced_toList, List.length_cons, List.length_append, String.length_toList]
      simp [Stream.ofString]
    rw [parseString, read]
    simp only [Except.map, Stream.remaining, nextRest, String.ofList_toList, offsetAt]
  · obtain ⟨readable, restAt⟩ := parser_parse_eq_ok run
    have consumed : s.slice next = d.braced.toList :=
      Stream.slice_of_rest (by rw [restAt, braced_toList]; simp)
    exact ⟨readable, by rw [consumed, String.ofList_toList]; rfl⟩
  · have restAt : (Stream.ofString (String.join (ds.map fun d => "\x7b" ++ d.render ++ "\x7d"))).rest =
        (ds.map fun d => d.braced.toList).flatten ++ [] := by
      rw [Stream.rest_ofString, String.toList_join, List.flatMap_def, List.map_map, List.append_nil]
      rfl
    obtain ⟨last, lastRest, runs⟩ := braced_runs ds _ readable restAt
    rw [Parser.run, many1_parse_of_runs present runs (stops_at_of_rest_eq_nil lastRest)]
    rfl

theorem speed_and_label_read_back :
    (∀ d ∈ ([⟨"speed", "integer", none⟩, ⟨"label", "string", some "fast car"⟩] :
        List FieldDeclaration), d.Readable) ∧
    (many1 parser).run "\x7bspeed:integer\x7d\x7blabel:string=\"fast car\"\x7d" =
      .ok [⟨"speed", "integer", none⟩, ⟨"label", "string", some "fast car"⟩] := by
  have readable : ∀ d ∈ ([⟨"speed", "integer", none⟩, ⟨"label", "string", some "fast car"⟩] :
      List FieldDeclaration), d.Readable := by decide
  -- the text is compared with the joined renderings by evaluation; unifying the two would
  -- unfold the parser
  refine ⟨readable, (congrArg (many1 parser).run ?_).trans
    (field_declarations_read_back.2.2 _ (by simp) readable)⟩
  decide

end FieldDeclaration

end Parsing
