import Parsing.Cli.Similarity

/-!
Command-line arguments. A command is described by its arguments: options with a value
(`--name value`, `--name=value`, `-n value`, `-nvalue`, `-n=value`), flags, the help and version
flags, and positional arguments. Parsing reads the words in order. A value that an option still
waits for is taken from the next word unless that word is itself an option; it is checked when
the next argument is taken or the words end, so errors appear in the order of the words. A word
`--` makes every later word positional. Help and version stop parsing where they stand.
-/

namespace Parsing

namespace Cli

inductive Action where
  | set
  | setTrue
  | help
  | version
deriving DecidableEq, Repr

structure Arg where
  id : String
  short : Option Char
  long : Option String
  valueName : String
  help : String
  possibleValues : List String  -- empty when any value is accepted
  refusesEmpty : Bool
  action : Action
  positional : Bool
  grouped : Bool  -- one of the command's own arguments, not help or version

structure Command where
  name : String
  version : String
  about : String
  args : List Arg

namespace Arg

/-- How an argument is written in usage lines: `--name <VALUE>`, `--flag`, or the placeholder
of a positional argument, in angle brackets when `required` and square ones otherwise. -/
def render (a : Arg) (required : Bool) : String :=
  if a.positional then
    if required then "<" ++ a.valueName ++ ">" else "[" ++ a.valueName ++ "]"
  else
    let name := match a.long, a.short with
      | some l, _ => "--" ++ l
      | none, some s => "-" ++ s.toString
      | none, none => ""
    if a.action = .set then name ++ " <" ++ a.valueName ++ ">" else name

def display (a : Arg) : String := a.render false

end Arg

namespace Command

def findLong (cmd : Command) (name : String) : Option Arg :=
  cmd.args.find? fun a => !a.positional && a.long = some name

def findShort (cmd : Command) (c : Char) : Option Arg :=
  cmd.args.find? fun a => !a.positional && a.short = some c

def find (cmd : Command) (id : String) : Option Arg := cmd.args.find? (·.id == id)

def positionals (cmd : Command) : List Arg := cmd.args.filter (·.positional)

def longs (cmd : Command) : List String := cmd.args.filterMap fun a => if a.positional then none else a.long

end Command

inductive UsageItem where
  | arg (id : String)
  | group
deriving DecidableEq, Repr

inductive Problem where
  | unknownArgument (word : String) (similar : Option String) (escapeTip : Bool)
      (used : List UsageItem)
  -- the empty value stands for a missing one
  | invalidValue (arg : Arg) (value : String) (similar : Option String)
  | unexpectedValue (value : String) (arg : Arg) (used : List UsageItem)
  | repeated (arg : Arg)

inductive Stop where
  | help
  | version
  | problem (p : Problem)

/-- An argument whose value is still to come, or has come but is not yet checked: an option
after its name, or a positional argument after its word. -/
structure Pending where
  arg : Arg
  values : List String

/-- The state of parsing: the arguments taken so far with their values, in the order taken; the
argument whose value is not yet checked; how many positional arguments were given; and whether a
`--` was seen. -/
structure State where
  taken : List (String × List String)
  pending : Option Pending
  positionals : Nat
  trailing : Bool

namespace State

def usedArgs (st : State) : List UsageItem := st.taken.map fun e => .arg e.1

/-- The arguments taken so far with the group of the command's own arguments, which counts as
taken right after the first of its arguments. -/
def used (cmd : Command) (st : State) : List UsageItem :=
  let rec go : List (String × List String) → Bool → List UsageItem
    | [], _ => []
    | e :: rest, seen =>
      if !seen && ((cmd.find e.1).map (·.grouped)).getD false then .arg e.1 :: .group :: go rest true
      else .arg e.1 :: go rest seen
  go st.taken false

def has (st : State) (id : String) : Bool := st.taken.any (·.1 == id)

/-- Takes an argument with its values: an argument given twice is refused (and dropped), an
option without a value or with a value it does not accept is refused. Returns the state reached
and the problem, if any. -/
def take (st : State) (a : Arg) (values : List String) : State × Option Stop :=
  match a.action with
  | .help => (st, some .help)
  | .version => (st, some .version)
  | .setTrue =>
    if st.has a.id then ({ st with taken := st.taken.filter (·.1 != a.id) }, some (.problem (.repeated a)))
    else ({ st with taken := st.taken ++ [(a.id, ["true"])] }, none)
  | .set =>
    if values.isEmpty then (st, some (.problem (.invalidValue a "" none)))
    else if st.has a.id then
      ({ st with taken := st.taken.filter (·.1 != a.id) }, some (.problem (.repeated a)))
    else
      let st := { st with taken := st.taken ++ [(a.id, [])] }
      let bad := values.find? fun v =>
        (!a.possibleValues.isEmpty && !a.possibleValues.contains v) || (a.refusesEmpty && v.isEmpty)
      match bad with
      | some v =>
        let similar := if a.possibleValues.isEmpty then none else suggest v a.possibleValues
        (st, some (.problem (.invalidValue a v similar)))
      | none => ({ st with taken := st.taken.map fun e => if e.1 == a.id then (a.id, values) else e }, none)

def settle (st : State) : State × Option Stop :=
  match st.pending with
  | none => (st, none)
  | some p => take { st with pending := none } p.arg p.values

def resolve (st : State) : Except Stop State :=
  match st.settle with
  | (st, none) => .ok st
  | (_, some stop) => .error stop

def react (st : State) (a : Arg) (values : List String) : Except Stop State := do
  let st ← st.resolve
  match st.take a values with
  | (st, none) => pure st
  | (_, some stop) => throw stop

def option (st : State) (a : Arg) (attached : Option String) : Except Stop State :=
  match attached with
  | some v => st.react a [v]
  | none => do
    let st ← st.resolve
    pure { st with pending := some ⟨a, []⟩ }

end State

/-- Reads the flags of a cluster such as `-ab` after its dash; an option takes the rest of the
cluster, after an optional `=`, as its value. -/
def shortCluster (cmd : Command) (st : State) : List Char → Except Stop State
  | [] => pure st
  | c :: rest =>
    match cmd.findShort c with
    | none =>
      throw (.problem (.unknownArgument ("-" ++ c.toString) none
        (!st.trailing && !cmd.positionals.isEmpty) []))
    | some a =>
      if a.action = .set then
        let attached := match rest with
          | [] => none
          | '=' :: v => some (String.ofList v)
          | v => some (String.ofList v)
        st.option a attached
      else do
        let st ← st.react a []
        shortCluster cmd st rest

def longOption (cmd : Command) (st : State) (body : String) : Except Stop State :=
  let (name, attached) := match body.splitOn "=" with
    | [] => ("", none)
    | n :: [] => (n, none)
    | n :: vs => (n, some ("=".intercalate vs))
  match cmd.findLong name with
  | some a =>
    if a.action = .set then st.option a attached
    else
      match attached with
      | some v => throw (.problem (.unexpectedValue v a (st.used cmd ++ [.arg a.id])))
      | none => st.react a []
  | none =>
    let st := st.settle.1
    let similar := suggest name cmd.longs
    let st := match similar.bind fun l => cmd.findLong l with
      | some a => if st.has a.id then st else { st with taken := st.taken ++ [(a.id, [])] }
      | none => st
    throw (.problem (.unknownArgument ("--" ++ name) (similar.map ("--" ++ ·))
      (similar.isNone && !st.trailing && !cmd.positionals.isEmpty) st.usedArgs))

def positional (cmd : Command) (st : State) (word : String) : Except Stop State :=
  match cmd.positionals[st.positionals]? with
  | some a => do
    let st ← st.resolve
    pure { st with positionals := st.positionals + 1, pending := some ⟨a, [word]⟩ }
  | none => throw (.problem (.unknownArgument word none false []))

def step (cmd : Command) (st : State) (word : String) : Except Stop State :=
  if st.trailing then positional cmd st word
  else if word = "--" then pure { st with trailing := true }
  else if word.startsWith "--" then longOption cmd st (word.drop 2).toString
  else if word.startsWith "-" ∧ word.length > 1 then shortCluster cmd st (word.drop 1).toString.toList
  else
    match st.pending with
    | some p =>
      if p.values.isEmpty then pure { st with pending := some { p with values := [word] } }
      else positional cmd st word
    | none => positional cmd st word

/-- Parses the words of a command line: the arguments given with their values, in the order
taken, or why parsing stopped. -/
def parse (cmd : Command) (words : List String) : Except Stop (List (String × List String)) := do
  let st ← words.foldlM (step cmd) ⟨[], none, 0, false⟩
  let st ← st.resolve
  pure st.taken

end Cli

end Parsing
