/-!
Parse errors. An error has a kind, a message and the offset where it arose. Two of the kinds are
recoverable: an alternative may try its next branch after them. A fatal error is never recovered
from; it is how the library reports a parser that cannot work at all (one that repeats without
consuming, an empty literal) or an explicit `fatal` node.
-/

namespace Parsing

/-- Reading a name that no constructor has gives this text. -/
def unmatchedName : String := "Matching variant not found"

inductive ErrorKind where
  | endOfInput
  | parseFailure
  | fatal
deriving DecidableEq, Repr

namespace ErrorKind

def name : ErrorKind → String
  | .endOfInput => "EndOfInput"
  | .parseFailure => "ParseFailure"
  | .fatal => "Fatal"

def ofName (s : String) : Except String ErrorKind :=
  if s = "EndOfInput" then .ok .endOfInput
  else if s = "ParseFailure" then .ok .parseFailure
  else if s = "Fatal" then .ok .fatal
  else .error unmatchedName

theorem ofName_name (k : ErrorKind) : ofName k.name = .ok k := by
  cases k <;> simp [ofName, name]

end ErrorKind

structure ParseError where
  kind : ErrorKind
  message : String
  position : Nat
deriving DecidableEq, Repr

namespace ParseError

def endOfInput (position : Nat) (expected : String) : ParseError :=
  ⟨.endOfInput, s!"{position}: end of input, {expected}", position⟩

def failure (position : Nat) (expected : String) : ParseError :=
  ⟨.parseFailure, s!"{position}: {expected}", position⟩

def fatal (position : Nat) (message : String) : ParseError :=
  ⟨.fatal, message, position⟩

/-- Both branches of an alternative failed: the messages are joined by a bar, and the error
names the further of the two offsets. -/
def either (first second : ParseError) : ParseError :=
  ⟨.parseFailure, first.message ++ " | " ++ second.message, max first.position second.position⟩

def isFatal (e : ParseError) : Bool := e.kind == .fatal

/-- The text of an error: a fatal one names its offset, the others are their message. -/
def display (e : ParseError) : String :=
  match e.kind with
  | .fatal => s!"Fatal: {e.message} at position {e.position}"
  | _ => e.message

def noProgress : String := "repeated parser succeeded without consuming input"

@[simp] theorem isFatal_fatal (position : Nat) (message : String) :
    (fatal position message).isFatal = true := rfl

@[simp] theorem isFatal_failure (position : Nat) (expected : String) :
    (failure position expected).isFatal = false := rfl

@[simp] theorem isFatal_endOfInput (position : Nat) (expected : String) :
    (endOfInput position expected).isFatal = false := rfl

@[simp] theorem isFatal_either (first second : ParseError) :
    (either first second).isFatal = false := rfl

theorem isFatal_iff (e : ParseError) : e.isFatal = true ↔ e.kind = .fatal := by
  simp [isFatal]

end ParseError

end Parsing
