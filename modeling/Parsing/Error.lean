/-!
Errors of the grammar registry and of running cases: a configuration that cannot be read, a
grammar name the registry does not know, and a failure inside the library itself.
-/

namespace Parsing

inductive Error where
  | config (detail : String)
  | unknownGrammar (name : String)
  | internal (detail : String)
deriving DecidableEq, Repr

namespace Error

def message : Error → String
  | .config detail => s!"Config error: {detail}"
  | .unknownGrammar name => s!"Unknown grammar: {name}"
  | .internal detail => s!"Internal error: {detail}"

end Error

end Parsing
