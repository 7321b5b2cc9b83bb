import Parsing.JsonText.Error

/-!
A reader of JSON text: a cursor over the bytes of the text, and the steps that read its tokens —
white space, the literals `null`, `true` and `false`, strings with their escapes, numbers, and
whole values that are skipped. Every step that loops consumes at least one byte per round, so
each loop is bounded by the bytes left, which is the fuel it is given.

Text reaches the reader either whole, in memory, or as a stream read one byte at a time. An
error names the position after the bytes consumed; one that concerns the next byte, not yet
consumed, names the position after that byte. A stream counts a byte once it has been looked at,
so there every error names the position after the bytes consumed and the byte looked at, if any.
-/

namespace Parsing

namespace JsonText

inductive Delivery where
  | whole
  | stream
deriving DecidableEq, Repr

/-- The text being read, how it is delivered, how many of its bytes are consumed, and whether the
next byte has been looked at. -/
structure Cursor where
  bytes : ByteArray
  delivery : Delivery
  index : Nat
  lookahead : Bool

/-- Steps of reading: they move the cursor and may fail. The cursor stays where a failure left
it. -/
abbrev Reader := ExceptT Error (StateM Cursor)

def positionAt (bytes : ByteArray) (i : Nat) : Position :=
  let before := (bytes.extract 0 i).toList
  let lineStart := before.length - (before.reverse.takeWhile (· != 10)).length
  ⟨1 + (before.take lineStart).count 10, i - lineStart⟩

/-- How many bytes the position of an error counts: those consumed, and on a stream the byte
looked at. -/
def Cursor.counted (c : Cursor) : Nat :=
  match c.delivery with
  | .whole => c.index
  | .stream => if c.lookahead then c.index + 1 else c.index

namespace Reader

variable {α : Type}

def peek : Reader (Option UInt8) := do
  let c ← get
  let b := c.bytes[c.index]?
  set { c with lookahead := b.isSome }
  pure b

def peekOrNull : Reader UInt8 := do pure ((← peek).getD 0)

def eat : Reader Unit := modify fun c => { c with index := c.index + 1, lookahead := false }

def seek (i : Nat) : Reader Unit := modify fun c => { c with index := i, lookahead := false }

def next : Reader (Option UInt8) := do
  let b ← peek
  if b.isSome then eat
  pure b

def nextOrNull : Reader UInt8 := do pure ((← next).getD 0)

def errorHere (reason : Reason) : Reader Error := do
  let c ← get
  pure ⟨reason, some (positionAt c.bytes c.counted)⟩

def fail (reason : Reason) : Reader α := do throw (← errorHere reason)

def failAtNext (reason : Reason) : Reader α := do
  let c ← get
  match c.delivery with
  | .whole => throw ⟨reason, some (positionAt c.bytes (min c.bytes.size (c.index + 1)))⟩
  | .stream => throw ⟨reason, some (positionAt c.bytes c.counted)⟩

def placed (e : Error) : Reader Error :=
  match e.position with
  | some _ => pure e
  | none => errorHere e.reason

/-- Runs `r`; an error without a position leaving it gets the position where it left. -/
def placing (r : Reader α) : Reader α :=
  tryCatch r fun e => do throw (← placed e)

/-- Runs `r` and returns its outcome; the cursor keeps what `r` consumed either way. -/
def attempt (r : Reader α) : Reader (Except Error α) :=
  tryCatch (Except.ok <$> r) fun e => pure (.error e)

def skipWhile (keep : UInt8 → Bool) (bytes : ByteArray) (i : Nat) : Nat :=
  if h : i < bytes.size then
    if keep bytes[i] then skipWhile keep bytes (i + 1) else i
  else i
termination_by bytes.size - i

def whitespace : Reader (Option UInt8) := do
  let c ← get
  seek (skipWhile (fun b => b == 32 || b == 10 || b == 9 || b == 13) c.bytes c.index)
  peek

def isDigit (b : UInt8) : Bool := 48 ≤ b && b ≤ 57

def skipDigits : Reader Unit := do
  let c ← get
  seek (skipWhile isDigit c.bytes c.index)
  discard peek

def ident (rest : List UInt8) : Reader Unit := do
  match rest with
  | [] => pure ()
  | b :: bs =>
    match ← next with
    | none => fail .eofWhileParsingValue
    | some x => if x = b then ident bs else fail .expectedSomeIdent

def hexValue (digits : List UInt8) : Option Nat :=
  digits.foldlM (fun acc b =>
    if 48 ≤ b && b ≤ 57 then some (acc * 16 + (b.toNat - 48))
    else if 97 ≤ b && b ≤ 102 then some (acc * 16 + (b.toNat - 87))
    else if 65 ≤ b && b ≤ 70 then some (acc * 16 + (b.toNat - 55))
    else none) 0

def hexEscape : Reader Nat := do
  let c ← get
  if c.index + 4 ≤ c.bytes.size then
    seek (c.index + 4)
    match hexValue (c.bytes.extract c.index (c.index + 4)).toList with
    | some n => pure n
    | none => fail .invalidEscape
  else
    seek c.bytes.size
    fail .eofWhileParsingString

def utf8 (n : Nat) : ByteArray := (Char.ofNat n).toString.toUTF8

def unicodeEscape (acc : ByteArray) : Reader ByteArray := do
  let n ← hexEscape
  if 0xDC00 ≤ n ∧ n ≤ 0xDFFF then fail .loneLeadingSurrogateInHexEscape
  else if n < 0xD800 ∨ 0xDBFF < n then pure (acc ++ utf8 n)
  else
    match ← peek with
    | none => fail .eofWhileParsingString
    | some 92 => eat
    | some _ => do eat; fail .unexpectedEndOfHexEscape
    match ← peek with
    | none => fail .eofWhileParsingString
    | some 117 => eat
    | some _ => do eat; fail .unexpectedEndOfHexEscape
    let low ← hexEscape
    if low < 0xDC00 ∨ 0xDFFF < low then fail .loneLeadingSurrogateInHexEscape
    else pure (acc ++ utf8 (((n - 0xD800) <<< 10 ||| (low - 0xDC00)) + 0x10000))

def escape (acc : ByteArray) : Reader ByteArray := do
  match ← next with
  | none => fail .eofWhileParsingString
  | some b =>
    if b = 34 then pure (acc.push 34)
    else if b = 92 then pure (acc.push 92)
    else if b = 47 then pure (acc.push 47)
    else if b = 98 then pure (acc.push 8)
    else if b = 102 then pure (acc.push 12)
    else if b = 110 then pure (acc.push 10)
    else if b = 114 then pure (acc.push 13)
    else if b = 116 then pure (acc.push 9)
    else if b = 117 then unicodeEscape acc
    else fail .invalidEscape

/-- Whether a byte ends a run of plain string content: a quote, a backslash or a control
character. -/
def endsRun (b : UInt8) : Bool := b == 34 || b == 92 || b < 32

/-- Reads string content up to the closing quote, with `fuel` rounds for the escapes. -/
def stringBody : Nat → ByteArray → Reader String
  | 0, _ => fail .eofWhileParsingString
  | fuel + 1, acc => do
    let c ← get
    let j := skipWhile (fun b => !endsRun b) c.bytes c.index
    let acc := acc ++ c.bytes.extract c.index j
    seek j
    match c.bytes[j]? with
    | none => fail .eofWhileParsingString
    | some b =>
      eat
      if b = 34 then pure ((String.fromUTF8? acc).getD "")
      else if b = 92 then stringBody fuel (← escape acc)
      else fail .controlCharacterWhileParsingString

def string : Reader String := do
  let c ← get
  stringBody (c.bytes.size + 1) ByteArray.empty

/-- Skips an escape after its backslash; a `\u` escape needs four hexadecimal digits and no
more. -/
def skipEscape : Reader Unit := do
  match ← next with
  | none => fail .eofWhileParsingString
  | some b =>
    if b = 117 then discard hexEscape
    else if [34, 92, 47, 98, 102, 110, 114, 116].contains b then pure ()
    else fail .invalidEscape

/-- Skips string content up to the closing quote, with `fuel` rounds for the escapes. A control
character is reported where it stands, before it, in a whole text, and after it in a stream,
which has read it. -/
def skipStringBody : Nat → Reader Unit
  | 0 => fail .eofWhileParsingString
  | fuel + 1 => do
    let c ← get
    let j := skipWhile (fun b => !endsRun b) c.bytes c.index
    seek j
    match c.bytes[j]? with
    | none => fail .eofWhileParsingString
    | some b =>
      if b = 34 then eat
      else if b = 92 then do eat; skipEscape; skipStringBody fuel
      else do
        if c.delivery = .stream then eat
        fail .controlCharacterWhileParsingString

def skipString : Reader Unit := do
  let c ← get
  skipStringBody (c.bytes.size + 1)

end Reader

end JsonText

end Parsing
