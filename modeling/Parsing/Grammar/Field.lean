import Parsing.Parser.Text

/-!
Field declarations such as `{name:integer}` or `{name:string="some text"}`: a lower-case name, a
colon, one of the types `integer` and `string`, and an optional default of words and white space
in double quotes, all inside braces. A declaration is written back as `name:type` or
`name:type="default"`.
-/

namespace Parsing

structure FieldDeclaration where
  name : String
  typeName : String
  default : Option String
deriving DecidableEq, Repr

namespace FieldDeclaration

open Parsing.Parser

/-- The text of a declaration: `name:type`, then `="default"` when there is a default. -/
def render (d : FieldDeclaration) : String :=
  d.name ++ ":" ++ d.typeName ++
    match d.default with
    | some text => "=\"" ++ text ++ "\""
    | none => ""

def sentence : Parser String := greedy Monoid.text (alt anyWord spaces)

def defaultValue : Parser String := surrounded (string "=\"") (char '"') sentence

def typeNames : List String := ["integer", "string"]

def parts : Parser (List String) :=
  chainMany (Monoid.list String)
    [word.toList, (char ':').toList, (keywords typeNames).toList,
      optional (Monoid.list String) defaultValue.toList]

/-- The declaration named by its parts: the first is the name, the third the type and the fourth,
if any, the default. -/
def ofParts (parts : List String) : FieldDeclaration :=
  ⟨parts.getD 0 "", parts.getD 2 "", parts[3]?⟩

def parser : Parser FieldDeclaration := surrounded (char '{') (char '}') (parts.map ofParts)

end FieldDeclaration

end Parsing
