/-!
Writing JSON text compactly. A string is written between double quotes; a quote and a backslash
get a backslash, backspace, form feed, line feed, carriage return and tab their short escapes,
and the other control characters `\u00` with two lower-case hex digits. All other characters,
non-ASCII ones included, are written as they are.
-/

namespace Parsing

namespace JsonText

def escapeChar (c : Char) : String :=
  if c = '"' then "\\\""
  else if c = '\\' then "\\\\"
  else if c = '\x08' then "\\b"
  else if c = '\x0C' then "\\f"
  else if c = '\n' then "\\n"
  else if c = '\r' then "\\r"
  else if c = '\t' then "\\t"
  else if c.toNat < 0x20 then
    "\\u00" ++ String.ofList (Nat.toDigits 16 (c.toNat / 16) ++ Nat.toDigits 16 (c.toNat % 16))
  else c.toString

def quote (s : String) : String := "\"" ++ String.join (s.toList.map escapeChar) ++ "\""

def array (items : List String) : String := "[" ++ ",".intercalate (items.map quote) ++ "]"

def object (members : List (String × String)) : String :=
  "\x7b" ++ ",".intercalate (members.map fun m => quote m.1 ++ ":" ++ m.2) ++ "\x7d"

end JsonText

end Parsing
