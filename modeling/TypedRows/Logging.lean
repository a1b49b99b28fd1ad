import TypedRows.Text.LetterCase

namespace TypedRows

inductive LogLevel
  | trace
  | debug
  | info
  | warn
  | error
  deriving DecidableEq, Repr

namespace LogLevel

-- A name that no level has stands for the middle one.
def ofName (name : String) : LogLevel :=
  match Text.lower name with
  | "trace" => trace
  | "debug" => debug
  | "warn" => warn
  | "error" => error
  | _ => info

def name : LogLevel → String
  | trace => "TRACE"
  | debug => "DEBUG"
  | info => "INFO"
  | warn => "WARN"
  | error => "ERROR"

end LogLevel

structure Logging where
  level : String := "info"
  file : Option String := none
  format : String := "text"
  toOutput : Bool := true
  deriving DecidableEq, Repr

end TypedRows
