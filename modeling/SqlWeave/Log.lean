/-!
# Log levels

How much attention a noted event asks for.
-/

namespace SqlWeave

inductive LogLevel where
  | trace
  | debug
  | warn
  deriving DecidableEq, Repr

def LogLevel.label : LogLevel → String
  | .trace => "TRACE"
  | .debug => "DEBUG"
  | .warn => "WARN"

end SqlWeave
