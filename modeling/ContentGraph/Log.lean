/-!
# Log entries

What the program reports on the way, in order. An entry has a level, and a
reader sees the entries of a level or above.
-/

namespace ContentGraph

/-- How important an entry is. -/
inductive Level where
  | debug
  | info
  | warning
  | error
deriving DecidableEq, Repr

namespace Level

/-- The name of a level. -/
def name : Level → String
  | debug => "DEBUG"
  | info => "INFO"
  | warning => "WARNING"
  | error => "ERROR"

/-- The place of a level among all. -/
def rank : Level → Nat
  | debug => 0
  | info => 1
  | warning => 2
  | error => 3

end Level

/-- An entry of the log. -/
structure LogEntry where
  /-- How important it is. -/
  level : Level
  /-- What it says. -/
  message : String
deriving DecidableEq, Repr

/-- The entries of a level or above. -/
def LogEntry.atLeast (level : Level) (entries : List LogEntry) : List LogEntry :=
  entries.filter fun entry => level.rank ≤ entry.level.rank

end ContentGraph
