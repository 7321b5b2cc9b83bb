import Parsing.Unicode.Printable

/-!
Quoted text for showing a string to a reader: the string between double quotes, with the
characters that would be invisible or ambiguous written as escapes. A double quote and a
backslash get a backslash; NUL, tab, carriage return and line feed their short escapes; a
character that extends the grapheme before it, or is not printable, its code point in hex as
`\u` with the digits in braces. The single quote is written as it is.
-/

namespace Parsing

namespace Text

def hexDigits (n : Nat) : String := String.ofList (Nat.toDigits 16 n)

/-- How one character is written inside quotes. -/
def escapeChar (c : Char) : String :=
  if c = '\x00' then "\\0"
  else if c = '\t' then "\\t"
  else if c = '\r' then "\\r"
  else if c = '\n' then "\\n"
  else if c = '\\' then "\\\\"
  else if c = '"' then "\\\""
  else if Unicode.isGraphemeExtend c || !Unicode.isPrintable c then
    "\\u\x7b" ++ hexDigits c.toNat ++ "\x7d"
  else c.toString

def quote (s : String) : String :=
  "\"" ++ String.join (s.toList.map escapeChar) ++ "\""

end Text

end Parsing
