import Parsing.Cli.Args

/-!
The texts of a command line: the help text, the usage line and the error messages. The usage
line of the help names `[OPTIONS]` and the positional arguments; after an error it names the
arguments given so far instead, options first. An error message starts with `error:`, may add a
tip, the usage line, and ends by pointing to `--help`.
-/

namespace Parsing

namespace Cli

namespace Command

def helpUsage (cmd : Command) : String :=
  " ".intercalate ([cmd.name] ++ (if cmd.args.any (!·.positional) then ["[OPTIONS]"] else []) ++
    cmd.positionals.map (·.render false))

def groupText (cmd : Command) : String :=
  "<" ++ "|".intercalate ((cmd.args.filter (·.grouped)).map fun a =>
    if a.positional then a.valueName else a.render true) ++ ">"

/-- The usage line after an error, naming `used`: without it the usage line of the help;
otherwise the options named, each once and in the order named, then the group if named, then
every positional argument, in angle brackets if named. Arguments of a named group are left to
the group. -/
def usageOf (cmd : Command) (used : List UsageItem) : String :=
  if used.isEmpty then cmd.helpUsage
  else
    let inGroup := fun (a : Arg) => used.contains .group && a.grouped
    let named := fun (a : Arg) => used.contains (.arg a.id)
    let ids := (used.filterMap fun | .arg id => some id | .group => none).eraseDups
    let options := (ids.filterMap cmd.find).filter fun a => !a.positional && !inGroup a
    let groups := if used.contains .group then [cmd.groupText] else []
    let positionals := (cmd.positionals.filter (!inGroup ·)).map fun p => p.render (named p)
    " ".intercalate ([cmd.name] ++ options.map (·.render true) ++ groups ++ positionals)

def optionHead (a : Arg) : String :=
  let short := match a.short with
    | some s => "-" ++ s.toString ++ (if a.long.isSome then ", " else "")
    | none => "    "
  let long := match a.long with
    | some l => "--" ++ l
    | none => ""
  short ++ long ++ (if a.action = .set then " <" ++ a.valueName ++ ">" else "")

def helpText (a : Arg) : String :=
  let values := if a.possibleValues.isEmpty then ""
    else "[possible values: " ++ ", ".intercalate a.possibleValues ++ "]"
  if a.help.isEmpty then values
  else if values.isEmpty then a.help
  else a.help ++ " " ++ values

/-- A section of the help: a title and lines of a head and a text, the texts aligned two spaces
after the longest head. -/
def helpSection (title : String) (rows : List (String × String)) : String :=
  let width := rows.foldl (fun w r => max w r.1.length) 0
  title ++ ":\n" ++ String.join (rows.map fun r =>
    "  " ++ r.1 ++ String.ofList (List.replicate (width - r.1.length + 2) ' ') ++ r.2 ++ "\n")

def help (cmd : Command) : String :=
  let positionals := cmd.positionals.map fun a => (a.render false, helpText a)
  let options := (cmd.args.filter (!·.positional)).map fun a => (optionHead a, helpText a)
  cmd.about ++ "\n\nUsage: " ++ cmd.helpUsage ++ "\n\n" ++
    (if positionals.isEmpty then "" else helpSection "Arguments" positionals ++ "\n") ++
    helpSection "Options" options

def versionText (cmd : Command) : String := cmd.name ++ " " ++ cmd.version ++ "\n"

def problemText (cmd : Command) (p : Problem) : String :=
  let moreHelp := "\n\nFor more information, try '--help'.\n"
  match p with
  | .unknownArgument word similar escapeTip used =>
    "error: unexpected argument '" ++ word ++ "' found" ++
      (match similar with
        | some s => "\n\n  tip: a similar argument exists: '" ++ s ++ "'"
        | none => "") ++
      (if escapeTip then "\n\n  tip: to pass '" ++ word ++ "' as a value, use '-- " ++ word ++ "'"
        else "") ++
      "\n\nUsage: " ++ cmd.usageOf used ++ moreHelp
  | .invalidValue a value similar =>
    "error: " ++
      (if value.isEmpty then "a value is required for '" ++ a.display ++ "' but none was supplied"
        else "invalid value '" ++ value ++ "' for '" ++ a.display ++ "'") ++
      (if a.possibleValues.isEmpty then ""
        else "\n  [possible values: " ++ ", ".intercalate a.possibleValues ++ "]") ++
      (match similar with
        | some s => "\n\n  tip: a similar value exists: '" ++ s ++ "'"
        | none => "") ++ moreHelp
  | .unexpectedValue value a used =>
    "error: unexpected value '" ++ value ++ "' for '" ++ a.display ++
      "' found; no more were expected\n\nUsage: " ++ cmd.usageOf used ++ moreHelp
  | .repeated a =>
    "error: the argument '" ++ a.display ++ "' cannot be used multiple times\n\nUsage: " ++
      cmd.helpUsage ++ moreHelp

end Command

end Cli

end Parsing
