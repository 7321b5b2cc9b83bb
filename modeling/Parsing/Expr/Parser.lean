import Parsing.Expr.Basic

/-!
The meaning of a parser expression: the parser it denotes. Each constructor denotes the library
combinator of the same name, at the monoid of the expression's shape; a list-shaped wrapper
(`toList`, `many1`) keeps each value as an item, and `join` flattens the items of a list into one
string.
-/

namespace Parsing

mutual

/-- The parser an expression denotes. -/
def Expr.parser : {sh : Shape} → Expr sh → Parser sh.Value
  | _, .named name => name.parser
  | _, .char c => Parser.char c
  | _, .satisfy accepts expected => Parser.satisfy accepts expected
  | _, .predicate accepts image expected => Parser.predicate accepts image expected
  | _, .string s => Parser.string s
  | _, .keywords words => Parser.keywords words
  | sh, .chain first second => Parser.chain sh.monoid first.parser second.parser
  | _, .alt first second => Parser.alt first.parser second.parser
  | sh, .greedy p => Parser.greedy sh.monoid p.parser
  | sh, .optional p => Parser.optional sh.monoid p.parser
  | sh, .chainMany _ ps => Parser.chainMany sh.monoid (Exprs.parsers ps)
  | _, .surrounded opening closing inner =>
    Parser.surrounded opening.parser closing.parser inner.parser
  | _, .between delimiter inner => Parser.between delimiter.parser inner.parser
  | _, @Expr.toList sh p => (p.parser.map sh.item).toList
  | _, @Expr.many1 sh p => Parser.many1 (p.parser.map sh.item)
  | _, .join p => Parser.join (p.parser.map (·.map Item.flatten))
  | _, .map f p => p.parser.map f
  | _, .fatal _ message => Parser.fatal message

def Exprs.parsers : {sh : Shape} → Exprs sh → List (Parser sh.Value)
  | _, .nil _ => []
  | _, .cons e es => e.parser :: Exprs.parsers es

end

end Parsing
