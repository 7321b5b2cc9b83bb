import Parsing.Error
import Parsing.Grammar.Repeated
import Parsing.Grammar.Field
import Parsing.Grammar.Token

/-!
The registry of named grammars. Each grammar reads a whole input into a list of strings; the
registry keeps them in a fixed order, and a name is looked up by exact match.
-/

namespace Parsing

structure Grammar where
  name : String
  description : String
  parser : Parser (List String)

namespace Grammar

open Parsing.Parser

def all : List Grammar :=
  [⟨"word", "a single lowercase word", word.toList⟩,
   ⟨"digits", "a run of decimal digits", digits.toList⟩,
   ⟨"keywords", "abc, def, fff and (korova) repeated", keywordStream⟩,
   ⟨"alternation", "abc, def and fff repeated, as nested alternatives", alternationStream⟩,
   ⟨"tokens", "whitespace separated words", wordTokens⟩,
   ⟨"fields", "\x7bname:type\x7d or \x7bname:type=\"default\"\x7d declarations",
     (many1 FieldDeclaration.parser).map (·.map FieldDeclaration.render)⟩,
   ⟨"tagged", "[text] and \x7bnumber\x7d items", Token.parser.map (·.map Token.render)⟩]

/-- The grammar of the registry with exactly this name. -/
def lookup (name : String) : Except Error Grammar :=
  match all.find? (·.name == name) with
  | some g => .ok g
  | none => .error (.unknownGrammar name)

def run (g : Grammar) (input : String) : Except ParseError (List String) := g.parser.run input

end Grammar

end Parsing
