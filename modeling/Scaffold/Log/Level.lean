/-!
# Levels of the log

How grave a record of the log is. Levels are compared by their weight. Some have two names.

Main statement: `ofName?_name` (a level is found under its name).
-/

namespace Scaffold.Log

/-- A level of the log. -/
inductive Level where
  /-- No level of its own. -/
  | unset
  /-- Details of the work. -/
  | debug
  /-- The usual course of the work. -/
  | info
  /-- Something unexpected. -/
  | warning
  /-- Something failed. -/
  | error
  /-- The program cannot go on. -/
  | critical
  deriving DecidableEq

namespace Level

/-- The weight of a level. -/
def weight : Level → Nat
  | .unset => 0
  | .debug => 10
  | .info => 20
  | .warning => 30
  | .error => 40
  | .critical => 50

/-- The name of a level. -/
def name : Level → String
  | .unset => "NOTSET"
  | .debug => "DEBUG"
  | .info => "INFO"
  | .warning => "WARNING"
  | .error => "ERROR"
  | .critical => "CRITICAL"

/-- The levels, by increasing weight. -/
def all : List Level := [.unset, .debug, .info, .warning, .error, .critical]

/-- The level with a name. -/
def ofName? (s : String) : Option Level :=
  if s = "WARN" then some .warning
  else if s = "FATAL" then some .critical
  else all.find? fun l => l.name = s

theorem ofName?_name (l : Level) : ofName? l.name = some l := by
  cases l <;> decide

/-- The level with a weight. -/
def ofWeight? (weight : Int) : Option Level := all.find? fun l => (l.weight : Int) = weight

end Level

end Scaffold.Log
