import EInvoice.Text.Blank
import EInvoice.Text.Quoted
import EInvoice.Text.Case

/-!
# Log levels

The severity of a log record: `debug` below `info` below `warn` below `error`. A level is read
from its name in any letter case, blanks around it ignored; the empty name is `info`, and
`warning` is another name of `warn`.
-/

namespace EInvoice.Log

open EInvoice.Text

/-- The severity of a log record. -/
inductive Level where
  | debug
  | info
  | warn
  | error
  deriving Repr, DecidableEq

/-- The name a level is written with in log records. -/
def Level.name : Level → String
  | .debug => "DEBUG"
  | .info => "INFO"
  | .warn => "WARN"
  | .error => "ERROR"

/-- The rank of a level: records below the level of a log are not written. -/
def Level.rank : Level → Nat
  | .debug => 0
  | .info => 1
  | .warn => 2
  | .error => 3

/-- A level name that is not known. -/
structure LevelError where
  given : String
  deriving Repr

def LevelError.message (e : LevelError) : String := "unknown log level " ++ quote e.given

/-- Read a level from its name. -/
def parseLevel (s : String) : Except LevelError Level :=
  match lowerText (trim s) with
  | "debug" => .ok .debug
  | "" | "info" => .ok .info
  | "warn" | "warning" => .ok .warn
  | "error" => .ok .error
  | _ => .error ⟨s⟩

example : parseLevel "" = .ok .info := by rfl

end EInvoice.Log
