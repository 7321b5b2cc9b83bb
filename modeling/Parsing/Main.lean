import Parsing.Cli.Run

/-!
The program: reads the configuration file its command line names, if any, runs, and writes the
two outputs and the exit code.
-/

/-- The system's reason for a failed file operation, as `text (os error code)`. -/
def osReason : IO.Error → String
  | .alreadyExists _ code text | .otherError code text | .resourceBusy code text
  | .resourceVanished code text | .unsupportedOperation code text | .hardwareFault code text
  | .unsatisfiedConstraints code text | .illegalOperation code text | .protocolError code text
  | .timeExpired code text | .interrupted _ code text | .noFileOrDirectory _ code text
  | .invalidArgument _ code text | .permissionDenied _ code text
  | .resourceExhausted _ code text | .inappropriateType _ code text
  | .noSuchThing _ code text => s!"{text} (os error {code})"
  | e => toString e

def readFile (path : String) : IO Parsing.Cli.FileRead := do
  match ← (IO.FS.Handle.mk path .read).toBaseIO with
  | .error e => pure (.cannotOpen (osReason e))
  | .ok h =>
    match ← h.readBinToEnd.toBaseIO with
    | .error e => pure (.cannotRead (osReason e))
    | .ok bytes => pure (.contents (String.fromUTF8? bytes |>.getD ""))

def main (args : List String) : IO UInt32 := do
  let files : String → Parsing.Cli.FileRead ← match Parsing.Cli.configPath args with
    | none => pure fun _ => .cannotOpen "No such file or directory (os error 2)"
    | some path => do
      let read ← readFile path
      pure fun p => if p = path then read else .cannotOpen "No such file or directory (os error 2)"
  let out := Parsing.Cli.run args files
  IO.print out.stdout
  IO.eprint out.stderr
  pure out.code.toUInt32
