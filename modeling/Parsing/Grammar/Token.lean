import Parsing.Parser.Text

/-!
Tagged tokens: numbers in braces, `{42}`, and words in square brackets, `[text]`, one after
another. A number is a 64-bit unsigned value; digits past its range saturate at the largest
one. A token is written back as `num:42` or `str:text`.
-/

namespace Parsing

inductive Token where
  | number (value : UInt64)
  | text (word : String)
deriving DecidableEq, Repr

namespace Token

open Parsing.Parser

def render : Token → String
  | .number value => s!"num:{value}"
  | .text word => s!"str:{word}"

/-- The value of a string of decimal digits, read from the left; once it passes the largest
64-bit value it stays there. -/
def saturatingValue (digits : List Char) : Nat :=
  digits.foldl (fun acc c => min (acc * 10 + (c.toNat - '0'.toNat)) (UInt64.size - 1)) 0

def braced : Parser (List Token) :=
  (surrounded (char '{') (char '}') digits).map
    fun ds => [.number (UInt64.ofNat (saturatingValue ds.toList))]

def bracketed : Parser (List Token) :=
  (surrounded (char '[') (char ']') anyWord).map fun w => [.text w]

def parser : Parser (List Token) := greedy (Monoid.list Token) (alt braced bracketed)

end Token

end Parsing
