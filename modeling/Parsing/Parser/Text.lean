import Parsing.Parser.Greedy

/-!
Parsers of text. Each reads characters of one ASCII class, or a literal, and gives the characters
it read as a string, so that sequences of them combine by appending. A word is a maximal run of
lower-case letters, digits a maximal run of decimal digits; a literal is read character by
character; a keyword list tries its words in order and takes the first that matches.
-/

namespace Parsing

/-- ASCII white space: space, tab, line feed, form feed and carriage return; the vertical tab is
not one of them. -/
def isAsciiSpace (c : Char) : Bool :=
  c == ' ' || c == '\t' || c == '\n' || c == '\x0C' || c == '\r'

namespace Parser

def satisfy (accepts : Char → Bool) (expected : String) : Parser String :=
  predicate accepts Char.toString expected

def char (c : Char) : Parser String :=
  satisfy (· == c) s!"expected character \"{c}\""

def space : Parser String := satisfy isAsciiSpace "expected space"

def letter : Parser String := satisfy Char.isLower "expected alpha character"

def upperLetter : Parser String := satisfy Char.isUpper "expected upper alpha character"

/-- One ASCII letter of either case; on a mismatch both messages are given. -/
def anyLetter : Parser String := alt letter upperLetter

def digit : Parser String := satisfy Char.isDigit "expected digit"

def word : Parser String := greedy Monoid.text letter

def upperWord : Parser String := greedy Monoid.text upperLetter

def anyWord : Parser String := greedy Monoid.text anyLetter

def digits : Parser String := greedy Monoid.text digit

def spaces : Parser String := greedy Monoid.text space

def emptyLiteral : String := "string literal must not be empty"

/-- The characters of a literal, one after another; the empty literal fails fatally. -/
def literal : List Char → Parser String
  | [] => fatal emptyLiteral
  | [c] => char c
  | c :: rest => chain Monoid.text (char c) (literal rest)

def string (s : String) : Parser String := literal s.toList

def noKeywords : String := "keywords requires at least one keyword"

/-- The first of `words` that the input starts with, tried in order; the alternatives nest to the
left. The empty list fails fatally. -/
def keywords : List String → Parser String
  | [] => fatal noKeywords
  | w :: ws => ws.foldl (fun acc v => alt acc (string v)) (string w)

def join (p : Parser (List String)) : Parser String := p.map String.join

end Parser

end Parsing
