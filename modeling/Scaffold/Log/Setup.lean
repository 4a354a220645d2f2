import Scaffold.Log.Layout
import Scaffold.Settings.Environment

/-!
# The log

The log keeps the records of the program's loggers from a level on, and writes them to the error
output and, if a log file is set, to the file. Records of other loggers are written bare, if they
are at least warnings.
-/

namespace Scaffold

/-- A log that is set up. -/
structure Log where
  /-- The level from which on records are kept. -/
  level : Log.Level
  /-- The log file. -/
  file : Option Files.Path := none
  /-- The layout of records on the error output. -/
  layout : Log.Layout := Log.Layout.usual
  deriving DecidableEq

namespace Log

/-- How the log is asked to be set up. -/
structure Options where
  /-- The level; the empty text stands for none. -/
  level : Option String := none
  /-- The log file. -/
  file : Option Files.Path := none
  /-- The layout; the empty text stands for none. -/
  layout : Option String := none
  /-- Whether everything is kept. -/
  verbose : Bool := false
  deriving DecidableEq

/-- Why the log cannot be set up. -/
inductive SetupError where
  /-- The settings cannot be loaded. -/
  | settings (error : SettingsError)
  /-- There is no such level. -/
  | unknownLevel (name : String)
  /-- The name stands for a text and not for a level. -/
  | textLevel
  /-- The name stands for a table and not for a level. -/
  | tableLevel
  /-- The log file cannot be opened. -/
  | logFile (error : Files.Failure)
  /-- The layout shows no part of a record. -/
  | badLayout (layout : String)
  deriving DecidableEq

/-- The text that stands for a layout under a name of its own. -/
def basicLayout : String := "%(levelname)s:%(name)s:%(message)s"

/-- The table of the styles of layouts, as it is shown. -/
def styleTable : String :=
  let entry (style name layout : String) : String :=
    s!"'{style}': (<class 'logging.{name}'>, '{layout}')"
  let entries := [entry "%" "PercentStyle" basicLayout,
    entry "\x7b" "StrFormatStyle" "\x7blevelname\x7d:\x7bname\x7d:\x7bmessage\x7d",
    entry "$" "StringTemplateStyle" "$\x7blevelname\x7d:$\x7bname\x7d:$\x7bmessage\x7d"]
  "\x7b" ++ Text.joinTexts ", " entries ++ "\x7d"

/-- The wording of an error. -/
def SetupError.message : SetupError → String
  | .settings e => e.message
  | .unknownLevel name => s!"module 'logging' has no attribute '{name}'"
  | .textLevel => s!"Unknown level: '{basicLayout}'"
  | .tableLevel => s!"Level not an integer or a valid string: {styleTable}"
  | .logFile e => e.message
  | .badLayout layout => s!"Invalid format '{layout}' for '%' style"

/-- The level that is asked for. -/
def Options.chosenLevel (o : Options) (s : Settings) : Except SetupError Level :=
  if o.verbose then .ok .debug
  else
    let name := Text.toUpper ((o.level.filter (· ≠ "")).getD s.logLevel.name)
    match Level.ofName? name with
    | some l => .ok l
    | none =>
      if name = "BASIC_FORMAT" then .error .textLevel
      else if name = "_STYLES" then .error .tableLevel
      else .error (.unknownLevel name)

/-- The layout that is asked for. -/
def Options.chosenLayout (o : Options) : Except SetupError Layout :=
  match o.layout.filter (· ≠ "") with
  | none => .ok Layout.usual
  | some s =>
    match Layout.ofText? s with
    | some l => .ok l
    | none => .error (.badLayout s)

/-- Sets up the log, and makes the log file if there is none. -/
def Options.setUp (o : Options) (s : Settings) (t : Files.Tree) :
    Except SetupError (Log × Files.Tree) := do
  let level ← o.chosenLevel s
  let file := o.file.or s.logFile
  let layout ← o.chosenLayout
  match file with
  | none => return ({ level, file, layout }, t)
  | some p => return ({ level, file, layout }, ← (t.touch (t.absolute p)).mapError .logFile)

/-- Loads the settings and sets up the log. -/
def Options.start (o : Options) (t : Files.Tree) (env : Environment) :
    Except SetupError (Settings × Log × Files.Tree) := do
  let (s, t) ← (Settings.load t env).mapError .settings
  let (log, t) ← o.setUp s t
  return (s, log, t)

/-! ## Records in the log -/

/-- The levels of the outputs of a log. -/
def outputLevels (log : Log) : List Level := log.level :: (log.file.map fun _ => log.level).toList

/-- The name of the program's own logger, and the start of the names of all its loggers. -/
def rootName : String := "uml2spring"

/-- The full name of a logger. -/
def loggerName (name : String) : String :=
  if rootName.toList.isPrefixOf name.toList then name else rootName ++ "." ++ name

/-- Whether a logger is one of the program. -/
def isOwn (logger : String) : Bool :=
  logger = rootName || (rootName ++ ".").toList.isPrefixOf logger.toList

/-- The least weight of the records that are kept. Without a level of its own, the log keeps
warnings. -/
def threshold (log : Log) : Nat :=
  if log.level = .unset then Level.warning.weight else log.level.weight

/-- Whether a record of the program is kept. -/
def kept (log : Log) (r : Record) : Bool := isOwn r.logger && (log.threshold : Int) ≤ r.weight

/-- What is written to the error output for a record. A record that the layout does not fit is left
out. -/
def written (log : Log) (r : Record) : Option String :=
  if log.kept r then log.layout.write r
  else if !isOwn r.logger && (Level.warning.weight : Int) ≤ r.weight then Layout.bare.write r
  else none

end Log

end Scaffold
