/-!
# Log lines

A line says how severe it is, which part of the program it comes from, what
happened, and with which values.
-/

namespace ApiTypings

inductive Severity where
  | error
  | warn
  | info
  | debug
  | trace
  deriving DecidableEq, Repr

/-- More severe means a lower rank. -/
def Severity.rank : Severity → Nat
  | .error => 1
  | .warn => 2
  | .info => 3
  | .debug => 4
  | .trace => 5

def Severity.label : Severity → String
  | .error => "ERROR"
  | .warn => "WARN"
  | .info => "INFO"
  | .debug => "DEBUG"
  | .trace => "TRACE"

structure LogLine where
  severity : Severity
  /-- The part of the program. -/
  target : String
  message : String
  /-- Names with values as they are shown. -/
  fields : List (String × String)
  deriving DecidableEq, Repr

/-- The names of all that a line holds. What happened is its message. -/
def LogLine.names (l : LogLine) : List String := "message" :: l.fields.map (·.1)

def LogLine.text (l : LogLine) : String :=
  l.fields.foldl (fun s (name, value) => s ++ " " ++ name ++ "=" ++ value)
    (l.severity.label ++ " " ++ l.target ++ ": " ++ l.message)

end ApiTypings
