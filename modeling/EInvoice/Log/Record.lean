import EInvoice.Log.Level

/-!
# Log records

A log record has a level, a message and attributes in the order they were added; an attribute's
value is a text or a whole number. A log at some level writes the records at that level or
above and drops the others (`Record.passes`).
-/

namespace EInvoice.Log

/-- The value of an attribute. -/
inductive Value where
  | text (s : String)
  | int (n : Int)
  deriving Repr, DecidableEq

/-- A log record. -/
structure Record where
  level : Level
  message : String
  attrs : List (String × Value)
  deriving Repr, DecidableEq

/-- Whether a log at `threshold` writes a record. -/
def Record.passes (r : Record) (threshold : Level) : Bool := threshold.rank ≤ r.level.rank

/-- The same record with attributes put in front of its own. -/
def Record.withAttrs (r : Record) (attrs : List (String × Value)) : Record :=
  { r with attrs := attrs ++ r.attrs }

/-- The records a log at `threshold` writes, in order. -/
def written (threshold : Level) (rs : List Record) : List Record :=
  rs.filter (·.passes threshold)

theorem passes_debug (r : Record) : r.passes .debug = true := by
  simp [Record.passes, Level.rank]

end EInvoice.Log
