import Parsing.Error
import Parsing.ParseError
import Parsing.JsonText.Decode

/-!
The configuration of a demonstration run: an output format and a list of cases, each a grammar
name and an input. It is read from JSON text. A missing format is `text`, missing cases are the
two default cases, and members of other names are skipped; a case needs both its fields.
-/

namespace Parsing

inductive OutputFormat where
  | text
  | json
deriving DecidableEq, Repr

namespace OutputFormat

def name : OutputFormat → String
  | .text => "text"
  | .json => "json"

def named : List (String × OutputFormat) := [("text", .text), ("json", .json)]

/-- Reads a format from its exact name; case matters. -/
def ofName (s : String) : Except String OutputFormat :=
  match named.lookup s with
  | some f => .ok f
  | none => .error unmatchedName

end OutputFormat

structure DemoCase where
  grammar : String
  input : String
deriving DecidableEq, Repr

structure DemoConfig where
  format : OutputFormat
  cases : List DemoCase
deriving DecidableEq, Repr

namespace DemoConfig

def defaultCases : List DemoCase :=
  [⟨"alternation", "abcfffdef(korova)"⟩, ⟨"keywords", "abcfffdef(korova)"⟩]

def default : DemoConfig := ⟨.text, defaultCases⟩

end DemoConfig

namespace JsonText.Reader

/-- Reads a case: an object with the members `grammar` and `input`, or an array of the two. -/
def readCase : Reader DemoCase :=
  readRecord "DemoCase" fromObject fromArray
where
  members : Nat → Option String → Option String → Bool → Reader (Option String × Option String)
    | 0, g, i, _ => pure (g, i)
    | fuel + 1, g, i, first => do
      match ← nextKey first with
      | none => pure (g, i)
      | some "grammar" =>
        if g.isSome then throw (duplicateField "grammar")
        colon
        members fuel (some (← readString)) i false
      | some "input" =>
        if i.isSome then throw (duplicateField "input")
        colon
        members fuel g (some (← readString)) false
      | some _ => do colon; skipValue; members fuel g i false
  fromObject : Reader DemoCase := do
    let c ← get
    let (g, i) ← members (c.bytes.size + 1) none none true
    match g, i with
    | none, _ => throw (missingField "grammar")
    | some _, none => throw (missingField "input")
    | some g, some i => pure ⟨g, i⟩
  fromArray : Reader DemoCase := do
    let expected := "struct DemoCase with 2 elements"
    let g ← match ← nextElement true readString with
      | some g => pure g
      | none => throw (invalidLength 0 expected)
    let i ← match ← nextElement false readString with
      | some i => pure i
      | none => throw (invalidLength 1 expected)
    pure ⟨g, i⟩

def readFormat : Reader OutputFormat := readVariant OutputFormat.named

/-- Reads a configuration: an object with the members `format` and `cases`, or an array of the
two; what is missing takes its default. -/
def readConfig : Reader DemoConfig :=
  readRecord "DemoConfig" fromObject fromArray
where
  members : Nat → Option OutputFormat → Option (List DemoCase) → Bool →
      Reader (Option OutputFormat × Option (List DemoCase))
    | 0, f, cs, _ => pure (f, cs)
    | fuel + 1, f, cs, first => do
      match ← nextKey first with
      | none => pure (f, cs)
      | some "format" =>
        if f.isSome then throw (duplicateField "format")
        colon
        members fuel (some (← readFormat)) cs false
      | some "cases" =>
        if cs.isSome then throw (duplicateField "cases")
        colon
        members fuel f (some (← readSequence readCase)) false
      | some _ => do colon; skipValue; members fuel f cs false
  fromObject : Reader DemoConfig := do
    let c ← get
    let (f, cs) ← members (c.bytes.size + 1) none none true
    pure ⟨f.getD .text, cs.getD DemoConfig.defaultCases⟩
  fromArray : Reader DemoConfig := do
    let f ← nextElement true readFormat
    let cs ← nextElement f.isNone (readSequence readCase)
    pure ⟨f.getD .text, cs.getD DemoConfig.defaultCases⟩

end JsonText.Reader

namespace DemoConfig

/-- Reads a configuration from JSON text delivered as `delivery`; `source` names where the text
came from in the error. -/
def parse (source : String) (delivery : JsonText.Delivery) (text : String) :
    Except Error DemoConfig :=
  match JsonText.read JsonText.Reader.readConfig delivery text with
  | .ok c => .ok c
  | .error e => .error (.config s!"Failed to parse {source}: {e.message}")

def ofString (text : String) : Except Error DemoConfig := parse "config" .whole text

/-- Reads a configuration from the contents of a file, which arrive as a stream. -/
def ofFile (text : String) : Except Error DemoConfig := parse "config file" .stream text

end DemoConfig

end Parsing
