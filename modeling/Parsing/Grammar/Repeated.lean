import Parsing.Parser.Text

/-!
Grammars that repeat one item as often as it fits, at least once, and list what each repetition
read: a stream of keywords, the same stream written as nested alternatives without the last
keyword, and words with optional single spaces around them.
-/

namespace Parsing

namespace Grammar

open Parsing.Parser

def streamKeywords : List String := ["abc", "def", "fff", "(korova)"]

def keywordStream : Parser (List String) := many1 (keywords streamKeywords)

/-- One or more of `abc`, `def` and `fff`, as alternatives nested to the left. -/
def alternationStream : Parser (List String) :=
  many1 (alt (alt (string "abc") (string "def")) (string "fff"))

/-- One or more lower-case words, each with at most one white-space character before and after
it. -/
def wordTokens : Parser (List String) :=
  many1 (between (optional Monoid.text space) word)

end Grammar

end Parsing
