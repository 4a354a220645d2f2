import Scaffold.Log.Level
import Scaffold.Text.Numeral

/-!
# Log records

A record has a weight, the name of a logger and a message, and its parts have names under which a
layout can ask for them. Where and when a record was made is not kept: such parts are empty, or
zero.
-/

namespace Scaffold.Log

/-- A record of the log. -/
structure Record where
  /-- The weight of the record. -/
  weight : Int
  /-- The name of the logger. -/
  logger : String
  /-- The message. -/
  message : String
  deriving DecidableEq

/-- The value of a part of a record. -/
inductive Part where
  /-- A text. -/
  | text (s : String)
  /-- A whole number. -/
  | number (n : Int)
  /-- Something else, by the text that shows it. -/
  | other (shown : String)
  deriving DecidableEq

namespace Record

/-- The name of the level of a record. -/
def levelName (r : Record) : String :=
  match Level.ofWeight? r.weight with
  | some l => l.name
  | none => s!"Level {Text.showInt r.weight}"

/-- The parts of a record by name. -/
def parts (r : Record) : List (String × Part) :=
  [("levelname", .text r.levelName), ("name", .text r.logger), ("message", .text r.message),
    ("msg", .text r.message), ("levelno", .number r.weight), ("args", .other "()"),
    ("threadName", .text "MainThread"), ("processName", .text "MainProcess"),
    ("exc_info", .other "None"), ("exc_text", .other "None"), ("stack_info", .other "None"),
    ("asctime", .text ""), ("pathname", .text ""), ("filename", .text ""), ("module", .text ""),
    ("funcName", .text ""), ("lineno", .number 0), ("created", .number 0), ("msecs", .number 0),
    ("relativeCreated", .number 0), ("thread", .number 0), ("process", .number 0)]

/-- The part of a record with a name. -/
def part? (r : Record) (name : String) : Option Part :=
  (r.parts.find? (·.1 = name)).map (·.2)

end Record

end Scaffold.Log
