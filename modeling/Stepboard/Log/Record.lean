import Stepboard.Text.Loose
/-!
# Log records

What the program notes down about itself and its sessions. A record may tell a path, and so its text
may hold halves of pairs.
-/

namespace Stepboard

/-- How much a record matters. -/
inductive Level where
  | debug
  | info
  | warning
  | error
  deriving DecidableEq, Repr

namespace Level

def name : Level → String
  | debug => "DEBUG"
  | info => "INFO"
  | warning => "WARNING"
  | error => "ERROR"

/-- The levels from the least on. -/
def all : List Level :=
  [debug, info, warning, error]

/-- The place of a level among the levels. -/
def rank : Level → Nat
  | debug => 0
  | info => 1
  | warning => 2
  | error => 3

end Level

/-- A record: its level, the part of the program it comes from, and its text. -/
structure Record where
  level : Level
  source : String
  message : LooseText
  deriving DecidableEq, Repr

namespace Record

/-- Whether a record matters at least as much as a level. -/
def reaches (r : Record) (level : Level) : Bool :=
  level.rank ≤ r.level.rank

/-- The line of a record in a log file. -/
def line (r : Record) : LooseText :=
  r.level.name ++ " " ++ r.source ++ ": " ++ r.message ++ "\n"

end Record

end Stepboard
