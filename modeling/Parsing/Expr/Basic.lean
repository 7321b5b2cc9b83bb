import Parsing.Grammar.Repeated
import Parsing.Grammar.Field
import Parsing.Grammar.Token

/-!
Parser expressions: a small language that names the library's parsers and combinators, so that a
parser can be written down as data. Its leaves take any character predicate and any function on
characters or values, as the library's own constructors do. An expression has a shape: a text
expression yields a string and combines by appending strings; a list expression yields a list of
items and combines by appending lists. An item is a string or a nested list of items.
-/

namespace Parsing

inductive Shape where
  | text
  | list
deriving DecidableEq, Repr

inductive Item where
  | text (s : String)
  | list (items : List Item)
deriving Repr

mutual

def Item.flatten : Item → String
  | .text s => s
  | .list items => Item.flattenAll items

def Item.flattenAll : List Item → String
  | [] => ""
  | item :: items => item.flatten ++ Item.flattenAll items

end

namespace Shape

@[reducible] def Value : Shape → Type
  | .text => String
  | .list => List Item

def monoid : (sh : Shape) → Monoid sh.Value
  | .text => Monoid.text
  | .list => Monoid.list Item

def item : (sh : Shape) → sh.Value → Item
  | .text, s => .text s
  | .list, items => .list items

/-- The text of a value: a string is its own text, a list the texts of its items in order. -/
def flatten : (sh : Shape) → sh.Value → String
  | .text, s => s
  | .list, items => Item.flattenAll items

theorem flatten_item (sh : Shape) (v : sh.Value) : (sh.item v).flatten = sh.flatten v := by
  cases sh <;> rfl

end Shape

/-- The named parsers of the library that an expression can refer to. -/
inductive Named : Shape → Type where
  | space : Named .text
  | letter : Named .text
  | upperLetter : Named .text
  | anyLetter : Named .text
  | digit : Named .text
  | word : Named .text
  | upperWord : Named .text
  | anyWord : Named .text
  | digits : Named .text
  | spaces : Named .text
  | fieldDeclaration : Named .text
  | keywordStream : Named .list
  | alternationStream : Named .list
  | wordTokens : Named .list
  | taggedTokens : Named .list

def Named.parser : {sh : Shape} → Named sh → Parser sh.Value
  | _, .space => Parser.space
  | _, .letter => Parser.letter
  | _, .upperLetter => Parser.upperLetter
  | _, .anyLetter => Parser.anyLetter
  | _, .digit => Parser.digit
  | _, .word => Parser.word
  | _, .upperWord => Parser.upperWord
  | _, .anyWord => Parser.anyWord
  | _, .digits => Parser.digits
  | _, .spaces => Parser.spaces
  | _, .fieldDeclaration => FieldDeclaration.parser.map FieldDeclaration.render
  | _, .keywordStream => Grammar.keywordStream.map (·.map .text)
  | _, .alternationStream => Grammar.alternationStream.map (·.map .text)
  | _, .wordTokens => Grammar.wordTokens.map (·.map .text)
  | _, .taggedTokens => Token.parser.map (·.map fun t => .text t.render)

mutual

/-- Parser expressions, indexed by the shape of their value. -/
inductive Expr : Shape → Type where
  | named {sh : Shape} (name : Named sh) : Expr sh
  | char (c : Char) : Expr .text
  | satisfy (accepts : Char → Bool) (expected : String) : Expr .text
  | predicate (accepts : Char → Bool) (image : Char → String) (expected : String) : Expr .text
  | string (s : String) : Expr .text
  | keywords (words : List String) : Expr .text
  | chain {sh : Shape} (first second : Expr sh) : Expr sh
  | alt {sh : Shape} (first second : Expr sh) : Expr sh
  | greedy {sh : Shape} (p : Expr sh) : Expr sh
  | optional {sh : Shape} (p : Expr sh) : Expr sh
  | chainMany (sh : Shape) (ps : Exprs sh) : Expr sh
  | surrounded {sh a b : Shape} (opening : Expr a) (closing : Expr b) (inner : Expr sh) : Expr sh
  | between {sh a : Shape} (delimiter : Expr a) (inner : Expr sh) : Expr sh
  | toList {sh : Shape} (p : Expr sh) : Expr .list
  | many1 {sh : Shape} (p : Expr sh) : Expr .list
  | join (p : Expr .list) : Expr .text
  | map {a b : Shape} (f : a.Value → b.Value) (p : Expr a) : Expr b
  | fatal (sh : Shape) (message : String) : Expr sh

inductive Exprs : Shape → Type where
  | nil (sh : Shape) : Exprs sh
  | cons {sh : Shape} (head : Expr sh) (tail : Exprs sh) : Exprs sh

end

namespace Exprs

def toList {sh : Shape} : Exprs sh → List (Expr sh)
  | .nil _ => []
  | .cons e es => e :: es.toList

def ofList (sh : Shape) : List (Expr sh) → Exprs sh
  | [] => .nil sh
  | e :: es => .cons e (ofList sh es)

theorem toList_ofList (sh : Shape) (es : List (Expr sh)) : (ofList sh es).toList = es := by
  induction es with
  | nil => rfl
  | cons e es ih => simp [ofList, toList, ih]

end Exprs

end Parsing
