-- Log records, and the names of the loggers that write them.
import DesktopPolicy.Rule.Decision

namespace DesktopPolicy.Log

inductive Level where
  | debug
  | info
  | warning
  | error
  | critical
  deriving DecidableEq, Repr

namespace Level

/-- The levels from the least up. -/
def ordered : List Level := [debug, info, warning, error, critical]

def name : Level → String
  | debug => "DEBUG"
  | info => "INFO"
  | warning => "WARNING"
  | error => "ERROR"
  | critical => "CRITICAL"

def rank : Level → Nat
  | debug => 1
  | info => 2
  | warning => 3
  | error => 4
  | critical => 5

def ofName? (name : String) : Option Level := ordered.find? fun level => level.name == name

end Level

/-- The logger above all others of the package. -/
def package : String := "desktop_access"

/-- `_qualified`: the full name of a logger. A name that does not start at the package is put under
it. -/
def qualified (name : String) : String :=
  if name == package || (package ++ ".").toList.isPrefixOf name.toList then name
  else package ++ "." ++ name

structure Record where
  level : Level
  logger : String
  message : String
  deriving DecidableEq, Repr

def atLeast (threshold : Level) (records : List Record) : List Record :=
  records.filter fun record => threshold.rank ≤ record.level.rank

def ofSkipped (skipped : Skipped) : Record :=
  ⟨.debug, qualified "rbac.rules",
    "Skipping invalid resource pattern " ++ Text.quoted skipped.pattern ++ ": " ++
      skipped.fault.message skipped.pattern⟩

end DesktopPolicy.Log
