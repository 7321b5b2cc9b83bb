import Parsing.Text.Quoted
import Parsing.Decimal.Shortest

/-!
Errors of reading JSON text. A syntax error names its reason and the line and column where it
arose; lines count from one, columns count the bytes since the start of the line. An error that a
record type raises (a missing or repeated field, a value of the wrong kind) has no position when
it arises and takes the reader's position when it leaves the value being read.
-/

namespace Parsing

namespace JsonText

inductive Reason where
  | eofWhileParsingList
  | eofWhileParsingObject
  | eofWhileParsingString
  | eofWhileParsingValue
  | expectedColon
  | expectedListCommaOrEnd
  | expectedObjectCommaOrEnd
  | expectedSomeIdent
  | expectedSomeValue
  | invalidEscape
  | invalidNumber
  | numberOutOfRange
  | controlCharacterWhileParsingString
  | keyMustBeAString
  | loneLeadingSurrogateInHexEscape
  | trailingComma
  | trailingCharacters
  | unexpectedEndOfHexEscape
  | custom (message : String)
deriving DecidableEq, Repr

def Reason.message : Reason → String
  | .eofWhileParsingList => "EOF while parsing a list"
  | .eofWhileParsingObject => "EOF while parsing an object"
  | .eofWhileParsingString => "EOF while parsing a string"
  | .eofWhileParsingValue => "EOF while parsing a value"
  | .expectedColon => "expected `:`"
  | .expectedListCommaOrEnd => "expected `,` or `]`"
  | .expectedObjectCommaOrEnd => "expected `,` or `\x7d`"
  | .expectedSomeIdent => "expected ident"
  | .expectedSomeValue => "expected value"
  | .invalidEscape => "invalid escape"
  | .invalidNumber => "invalid number"
  | .numberOutOfRange => "number out of range"
  | .controlCharacterWhileParsingString =>
    "control character (\\u0000-\\u001F) found while parsing a string"
  | .keyMustBeAString => "key must be a string"
  | .loneLeadingSurrogateInHexEscape => "lone leading surrogate in hex escape"
  | .trailingComma => "trailing comma"
  | .trailingCharacters => "trailing characters"
  | .unexpectedEndOfHexEscape => "unexpected end of hex escape"
  | .custom message => message

/-- A place in the text: the line, from one, and the bytes before it on that line. -/
structure Position where
  line : Nat
  column : Nat
deriving DecidableEq, Repr

structure Error where
  reason : Reason
  position : Option Position
deriving DecidableEq, Repr

def Error.message (e : Error) : String :=
  match e.position with
  | some p => s!"{e.reason.message} at line {p.line} column {p.column}"
  | none => e.reason.message

def exponentText (e : Int) : String :=
  if 0 ≤ e then "e+" ++ toString e else "e" ++ toString e

/-- The text of a 64-bit floating-point value as error messages write it: the shortest decimal
that reads back, positional when its leading digit stands between the fifth place after the
point and the sixteenth before it (with `.0` when it is whole), otherwise one digit, a point and
the rest, then `e` and the exponent, signed. -/
def floatText (x : Float) : String :=
  match Binary.ofBits x.toBits with
  | none =>
    if x.isNaN then "NaN"
    else if x.isInf then (if x < 0 then "-inf" else "inf")
    else if x.toBits >>> 63 == 1 then "-0.0" else "0.0"
  | some (negative, b) =>
    let d := Decimal.shortest b
    let ds := Nat.toDigits 10 d.digits
    let length : Int := ds.length
    let kk := length + d.exponent
    let body :=
      if 0 ≤ d.exponent ∧ kk ≤ 16 then
        String.ofList ds ++ String.ofList (List.replicate d.exponent.toNat '0') ++ ".0"
      else if 0 < kk ∧ kk ≤ 16 then
        String.ofList (ds.take kk.toNat) ++ "." ++ String.ofList (ds.drop kk.toNat)
      else if -5 < kk ∧ kk ≤ 0 then
        "0." ++ String.ofList (List.replicate (-kk).toNat '0') ++ String.ofList ds
      else if ds.length = 1 then
        String.ofList ds ++ exponentText (kk - 1)
      else
        String.ofList (ds.take 1) ++ "." ++ String.ofList (ds.drop 1) ++ exponentText (kk - 1)
    (if negative then "-" else "") ++ body

inductive Unexpected where
  | null
  | bool (b : Bool)
  | unsigned (n : Nat)
  | signed (n : Int)
  | float (x : Float)
  | string (s : String)
  | sequence
  | map

def Unexpected.describe : Unexpected → String
  | .null => "null"
  | .bool b => s!"boolean `{b}`"
  | .unsigned n => s!"integer `{n}`"
  | .signed n => s!"integer `{n}`"
  | .float x => "floating point `" ++ floatText x ++ "`"
  | .string s => "string " ++ Text.quote s
  | .sequence => "sequence"
  | .map => "map"

def invalidType (found : Unexpected) (expected : String) : Error :=
  ⟨.custom s!"invalid type: {found.describe}, expected {expected}", none⟩

end JsonText

end Parsing
