import Scaffold.Diagram.Record
import Scaffold.Java.Package
import Scaffold.Settings.Basic
import Scaffold.Settings.Whole

/-!
# Reading settings

How the settings are read from loosely typed values. A setting that has no value keeps its
default. Blanks around a package or a level do not count, and a level may be in small letters.
-/

namespace Scaffold

open Json

namespace Settings

/-- The levels that the log can be set to. -/
def logLevels : List Log.Level := [.debug, .info, .warning, .error, .critical]

/-- The wording for a text that is no level of the log. -/
def levelComplaint (s : String) : String :=
  let levels := Text.joinTexts ", " (logLevels.map (·.name))
  s!"log_level must be one of {levels}, got '{s}'"

/-- Reads a package. -/
def package : Value → Checked String
  | .str s =>
    let name := Text.trim s
    if Java.isPackage name then .valid name else .issue (.rule (Java.packageComplaint name))
  | _ => .issue .text

/-- Reads a level of the log. -/
def level : Value → Checked Log.Level
  | .str s =>
    match logLevels.find? fun l => l.name = Text.toUpper (Text.trim s) with
    | some l => .valid l
    | none => .issue (.rule (levelComplaint s))
  | _ => .issue .text

/-- Reads a path. -/
def path : Value → Checked Files.Path
  | .str s => .valid (Files.Path.ofText s)
  | _ => .issue .path

/-- Reads a path, or nothing for `null`. -/
def pathOrNull : Value → Checked (Option Files.Path)
  | .null => .valid none
  | v => (path v).map some

/-- The names of the settings. -/
def names : List String :=
  ["base_package", "max_derived_queries", "output_dir", "log_level", "log_file"]

/-- Reads the settings from the fields of an object. -/
def ofFields (f : Fields) : Checked Settings :=
  let standard : Settings := {}
  Settings.mk <$> Record.fieldOr f (.word "base_package") standard.basePackage package
    <*> Record.fieldOr f (.word "max_derived_queries") standard.queryLimit Whole.natural
    <*> Record.fieldOr f (.word "output_dir") standard.outputDirectory path
    <*> Record.fieldOr f (.word "log_level") standard.logLevel level
    <*> Record.fieldOr f (.word "log_file") standard.logFile pathOrNull

end Settings

end Scaffold
