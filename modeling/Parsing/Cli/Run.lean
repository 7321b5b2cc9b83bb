import Parsing.Cli.Usage
import Parsing.Demo.Outcome

/-!
The command line of the demonstration runner. It lists the grammars, or runs cases and writes
their outcomes, one per line: the single case of the input given (with the named grammar, by
default `keywords`), or the cases of the configuration (the default one, or one read from a file),
only those of the named grammar if one is named. A format given on the command line replaces the
configured one. All cases run before anything is written, so an unknown grammar writes nothing
but the error.
-/

namespace Parsing

namespace Cli

def runner : Command where
  name := "monoparse"
  version := "0.1.0"
  about := "A small monoid-generic parser combinator engine over character streams."
  args := [
    ⟨"config", some 'c', some "config", "CONFIG", "Path to a JSON config file with demo cases", [],
      true, .set, false, true⟩,
    ⟨"grammar", some 'g', some "grammar", "GRAMMAR", "Grammar to run the input with (see --list)",
      [], false, .set, false, true⟩,
    ⟨"format", some 'f', some "format", "FORMAT", "", OutputFormat.named.map Prod.fst, false, .set,
      false, true⟩,
    ⟨"list", none, some "list", "", "List the available grammars and exit", [], false, .setTrue,
      false, true⟩,
    ⟨"input", none, none, "INPUT", "Text to parse; without it the configured cases are run", [],
      false, .set, true, true⟩,
    ⟨"help", some 'h', some "help", "", "Print help", [], false, .help, false, false⟩,
    ⟨"version", some 'V', some "version", "", "Print version", [], false, .version, false,
      false⟩]

structure Options where
  config : Option String
  grammar : Option String
  format : Option OutputFormat
  list : Bool
  input : Option String

def Options.ofTaken (taken : List (String × List String)) : Options :=
  let value := fun id => (taken.lookup id).bind List.head?
  { config := value "config"
    grammar := value "grammar"
    format := (value "format").bind fun f => OutputFormat.named.lookup f
    list := (taken.lookup "list").isSome
    input := value "input" }

structure Output where
  code : Nat
  stdout : String
  stderr : String

/-- The line of a grammar in the list: its name padded to twelve characters, and its
description. -/
def listLine (g : Grammar) : String :=
  g.name ++ String.ofList (List.replicate (12 - g.name.length) ' ') ++ " " ++ g.description

/-- What reading a file gave: its text, or the system's reason why it could not be opened, or
why it was opened but could not be read (a directory opens but does not read). -/
inductive FileRead where
  | contents (text : String)
  | cannotOpen (reason : String)
  | cannotRead (reason : String)

def loadConfig (files : String → FileRead) : Option String → Except Error DemoConfig
  | none => .ok DemoConfig.default
  | some path =>
    match files path with
    | .cannotOpen reason => .error (.config s!"Failed to open config file: {reason}")
    | .cannotRead reason => .error (.config s!"Failed to parse config file: {reason}")
    | .contents text => DemoConfig.ofFile text

/-- The cases to run: the single case of the input given (with the named grammar, by default
`keywords`), else the configured cases of the named grammar, in order, else all of them. -/
def Options.selectCases (o : Options) (config : DemoConfig) : List DemoCase :=
  match o.input, o.grammar with
  | some input, g => [⟨g.getD "keywords", input⟩]
  | none, some g => config.cases.filter (·.grammar == g)
  | none, none => config.cases

def Options.execute (o : Options) (files : String → FileRead) : Output :=
  if o.list then ⟨0, String.join (Grammar.all.map fun g => listLine g ++ "\n"), ""⟩
  else
    let outcome : Except Error (OutputFormat × List CaseOutcome) := do
      let config ← loadConfig files o.config
      let format := o.format.getD config.format
      let outcomes ← DemoConfig.runAll ⟨format, o.selectCases config⟩
      pure (format, outcomes)
    match outcome with
    | .ok (format, outcomes) => ⟨0, String.join (outcomes.map fun o => o.render format ++ "\n"), ""⟩
    | .error e => ⟨1, "", "Error: " ++ e.message ++ "\n"⟩

def run (words : List String) (files : String → FileRead) : Output :=
  match parse runner words with
  | .ok taken => (Options.ofTaken taken).execute files
  | .error .help => ⟨0, runner.help, ""⟩
  | .error .version => ⟨0, runner.versionText, ""⟩
  | .error (.problem p) => ⟨2, "", runner.problemText p⟩

def configPath (words : List String) : Option String :=
  match parse runner words with
  | .ok taken => (Options.ofTaken taken).config
  | .error _ => none

end Cli

end Parsing
