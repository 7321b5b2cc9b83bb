import Parsing.Grammar.Registry
import Parsing.Demo.Config
import Parsing.Text.Quoted
import Parsing.JsonText.Write

/-!
Running the cases of a configuration and writing their outcomes. A case runs the grammar it names
on its input; its outcome is the list of strings read, or the text of the parse error. A case
naming an unknown grammar stops the whole run before any outcome is written. As text, an outcome
is the grammar, the quoted input, an arrow and the result; as JSON, an object with the members
`grammar`, `input` and `value` or `error`, in that order.
-/

namespace Parsing

structure CaseOutcome where
  grammar : String
  input : String
  value : Option (List String)
  error : Option String

namespace DemoCase

/-- Runs a case with the grammar it names: the strings read are the value, the text of a parse
error is the error. -/
def run (c : DemoCase) : Except Error CaseOutcome := do
  let g ← Grammar.lookup c.grammar
  let (value, error) := match g.run c.input with
    | .ok values => (some values, none)
    | .error e => (none, some e.display)
  pure ⟨c.grammar, c.input, value, error⟩

end DemoCase

namespace DemoConfig

/-- Runs every case in order; the first unknown grammar fails the whole run. -/
def runAll (config : DemoConfig) : Except Error (List CaseOutcome) := config.cases.mapM DemoCase.run

end DemoConfig

namespace CaseOutcome

/-- An outcome as a line of text: `grammar "input" => [a, b]` or `grammar "input" => error: …`;
a value goes before an error, and an outcome with neither has no result. -/
def renderText (o : CaseOutcome) : String :=
  o.grammar ++ " " ++ Text.quote o.input ++ " => " ++
    match o.value, o.error with
    | some values, _ => "[" ++ ", ".intercalate values ++ "]"
    | none, some message => "error: " ++ message
    | none, none => "error: no result"

/-- An outcome as a compact JSON object; an absent value or error is left out. -/
def renderJson (o : CaseOutcome) : String :=
  JsonText.object
    ([("grammar", JsonText.quote o.grammar), ("input", JsonText.quote o.input)] ++
      (o.value.map fun values => ("value", JsonText.array values)).toList ++
      (o.error.map fun message => ("error", JsonText.quote message)).toList)

def render (o : CaseOutcome) : OutputFormat → String
  | .text => o.renderText
  | .json => o.renderJson

end CaseOutcome

end Parsing
