import Parsing.JsonText.Number

/-!
Reading typed values from JSON text: strings, sequences, records (an object of named fields, or
an array of the fields in order), enumerations written as a name, and values that are skipped.
Where the text holds a value of another kind, the error names the kind found and the kind wanted.
A record's own errors (a missing or repeated field, too few elements) take the position where the
record ends.
-/

namespace Parsing

namespace JsonText

namespace Reader

variable {α : Type}

def skipKey : Reader Unit := do
  match ← whitespace with
  | some 34 => eat
  | some _ => failAtNext .keyMustBeAString
  | none => failAtNext .eofWhileParsingObject
  skipString
  match ← whitespace with
  | some 58 => eat
  | some _ => failAtNext .expectedColon
  | none => failAtNext .eofWhileParsingObject

/-- Skips values inside open arrays and objects. `brackets` holds the open brackets, the innermost
first. Every second round consumes a byte, so twice the bytes left, and one more, are rounds
enough. -/
def skipNested : Nat → List UInt8 → Reader Unit
  | 0, _ => fail .eofWhileParsingValue
  | fuel + 1, brackets => do
    let b ← match ← whitespace with
      | none => failAtNext .eofWhileParsingValue
      | some b => pure b
    if b = 91 ∨ b = 123 then
      eat
      closing fuel false (b :: brackets)
    else
      if b = 110 then do eat; ident [117, 108, 108]
      else if b = 116 then do eat; ident [114, 117, 101]
      else if b = 102 then do eat; ident [97, 108, 115, 101]
      else if b = 45 then do eat; skipNumber
      else if isDigit b then skipNumber
      else if b = 34 then do eat; skipString
      else failAtNext .expectedSomeValue
      if brackets.isEmpty then pure () else closing fuel true brackets
where
  closing : Nat → Bool → List UInt8 → Reader Unit
    | 0, _, _ => fail .eofWhileParsingValue
    | _, _, [] => pure ()
    | fuel + 1, afterValue, frame :: outer => do
      match ← whitespace with
      | none => failAtNext (if frame = 91 then .eofWhileParsingList else .eofWhileParsingObject)
      | some b =>
        if b = 44 ∧ afterValue then
          eat
          if frame = 123 then skipKey
          skipNested fuel (frame :: outer)
        else if (b = 93 ∧ frame = 91) ∨ (b = 125 ∧ frame = 123) then
          eat
          closing fuel true outer
        else if afterValue then
          failAtNext (if frame = 91 then .expectedListCommaOrEnd else .expectedObjectCommaOrEnd)
        else
          if frame = 123 then skipKey
          skipNested fuel (frame :: outer)

def skipValue : Reader Unit := do
  let c ← get
  skipNested (2 * c.bytes.size + 2) []

/-- Reads the value that stands where another kind was wanted, and fails with the error naming
both. -/
def invalid (expected : String) : Reader α := do
  let b ← peekOrNull
  let found ←
    if b = 110 then do eat; ident [117, 108, 108]; pure Unexpected.null
    else if b = 116 then do eat; ident [114, 117, 101]; pure (.bool true)
    else if b = 102 then do eat; ident [97, 108, 115, 101]; pure (.bool false)
    else if b = 45 then do eat; number false
    else if isDigit b then number true
    else if b = 34 then do eat; pure (.string (← string))
    else if b = 91 then pure .sequence
    else if b = 123 then pure .map
    else failAtNext .expectedSomeValue
  throw (← placed (invalidType found expected))

def readString : Reader String := placing do
  match ← whitespace with
  | none => failAtNext .eofWhileParsingValue
  | some 34 => do eat; string
  | some _ => invalid "a string"

def endArray : Reader Unit := do
  match ← whitespace with
  | some 93 => eat
  | some 44 =>
    eat
    match ← whitespace with
    | some 93 => failAtNext .trailingComma
    | _ => failAtNext .trailingCharacters
  | some _ => failAtNext .trailingCharacters
  | none => failAtNext .eofWhileParsingList

def endObject : Reader Unit := do
  match ← whitespace with
  | some 125 => eat
  | some 44 => failAtNext .trailingComma
  | some _ => failAtNext .trailingCharacters
  | none => failAtNext .eofWhileParsingObject

/-- Runs `body`, then `finish` whatever the outcome; the first error wins. -/
def thenFinish (body : Reader α) (finish : Reader Unit) : Reader α := do
  let r ← attempt body
  let f ← attempt finish
  match r, f with
  | .error e, _ => throw e
  | .ok _, .error e => throw e
  | .ok v, .ok () => pure v

def nextElement (first : Bool) (element : Reader α) : Reader (Option α) := do
  let start ← match ← whitespace with
    | some 93 => pure none
    | some 44 =>
      if first then pure (some ())
      else do eat; match ← whitespace with
        | some 93 => failAtNext .trailingComma
        | some _ => pure (some ())
        | none => failAtNext .eofWhileParsingValue
    | some _ => if first then pure (some ()) else failAtNext .expectedListCommaOrEnd
    | none => failAtNext .eofWhileParsingList
  match start with
  | none => pure none
  | some () => some <$> element

def nextKey (first : Bool) : Reader (Option String) := do
  match ← whitespace with
  | some 125 => pure none
  | some 44 => if first then key (some 44) else do eat; key (← whitespace)
  | some b => if first then key (some b) else failAtNext .expectedObjectCommaOrEnd
  | none => failAtNext .eofWhileParsingObject
where
  key : Option UInt8 → Reader (Option String)
    | some 34 => do eat; some <$> string
    | some 125 => failAtNext .trailingComma
    | some _ => failAtNext .keyMustBeAString
    | none => failAtNext .eofWhileParsingValue

def colon : Reader Unit := do
  match ← whitespace with
  | some 58 => eat
  | some _ => failAtNext .expectedColon
  | none => failAtNext .eofWhileParsingObject

def elements (element : Reader α) : Nat → Bool → List α → Reader (List α)
  | 0, _, acc => pure acc.reverse
  | fuel + 1, first, acc => do
    match ← nextElement first element with
    | none => pure acc.reverse
    | some v => elements element fuel false (v :: acc)

def readSequence (element : Reader α) : Reader (List α) := placing do
  match ← whitespace with
  | none => failAtNext .eofWhileParsingValue
  | some 91 => do
    eat
    let c ← get
    thenFinish (elements element (c.bytes.size + 1) true []) endArray
  | some _ => invalid "a sequence"

/-- Reads a record named `name`: from an object by `fromObject`, which reads the members, or from
an array by `fromArray`, which reads the fields in order. -/
def readRecord (name : String) (fromObject fromArray : Reader α) : Reader α := placing do
  match ← whitespace with
  | none => failAtNext .eofWhileParsingValue
  | some 91 => do eat; thenFinish fromArray endArray
  | some 123 => do eat; thenFinish fromObject endObject
  | some _ => invalid s!"struct {name}"

def readUnit : Reader Unit := placing do
  match ← whitespace with
  | none => failAtNext .eofWhileParsingValue
  | some 110 => do eat; ident [117, 108, 108]
  | some _ => invalid "unit"

/-- How a list of names is written in an error: `a`, `a` or `b`, one of `a`, `b`, `c`. -/
def oneOf (names : List String) : String :=
  let quoted := names.map fun n => "`" ++ n ++ "`"
  match quoted with
  | [a] => a
  | [a, b] => a ++ " or " ++ b
  | _ => "one of " ++ ", ".intercalate quoted

def unknownVariant (name : String) (names : List String) : Error :=
  ⟨.custom (if names.isEmpty then s!"unknown variant `{name}`, there are no variants"
    else s!"unknown variant `{name}`, expected {oneOf names}"), none⟩

def variantName (variants : List (String × α)) : Reader α := placing do
  match ← whitespace with
  | none => failAtNext .eofWhileParsingValue
  | some 34 => do
    eat
    let s ← string
    match variants.lookup s with
    | some v => pure v
    | none => throw (unknownVariant s (variants.map Prod.fst))
  | some _ => invalid "variant identifier"

/-- Reads a variant without data: its name as a string, or an object of one member, the name,
whose value is `null`. The object's first byte must open a string key. -/
def readVariant (variants : List (String × α)) : Reader α := do
  match ← whitespace with
  | some 123 =>
    eat
    match ← whitespace with
    | some 34 => pure ()
    | some 125 => failAtNext .expectedSomeValue
    | some _ => failAtNext .keyMustBeAString
    | none => failAtNext .eofWhileParsingObject
    let v ← variantName variants
    colon
    readUnit
    match ← whitespace with
    | some 125 => do eat; pure v
    | some _ => fail .expectedSomeValue
    | none => fail .eofWhileParsingObject
  | some 34 => variantName variants
  | some _ => failAtNext .expectedSomeValue
  | none => failAtNext .eofWhileParsingValue

def invalidLength (length : Nat) (expected : String) : Error :=
  ⟨.custom s!"invalid length {length}, expected {expected}", none⟩

def missingField (field : String) : Error := ⟨.custom s!"missing field `{field}`", none⟩

def duplicateField (field : String) : Error := ⟨.custom s!"duplicate field `{field}`", none⟩

end Reader

/-- Reads a text delivered as `delivery` with `r`; only white space may follow the value. -/
def read {α : Type} (r : Reader α) (delivery : Delivery) (text : String) : Except Error α :=
  let go : Reader α := do
    let v ← r
    match ← Reader.whitespace with
    | some _ => Reader.failAtNext .trailingCharacters
    | none => pure v
  (go.run.run ⟨text.toUTF8, delivery, 0, false⟩).1

end JsonText

end Parsing
