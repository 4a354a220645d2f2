import Scaffold.Files.Path
import Scaffold.Log.Level

/-!
# Settings

What can be set for all runs of the program, with the values that hold if nothing is set.
-/

namespace Scaffold

/-- The settings. -/
structure Settings where
  /-- The package that is generated for. -/
  basePackage : String := "com.example.demo"
  /-- The greatest number of scalar members of a class with derived queries. -/
  queryLimit : Nat := 3
  /-- The directory that is generated into. -/
  outputDirectory : Files.Path := ⟨.here, ["output"]⟩
  /-- The level from which on records are kept in the log. -/
  logLevel : Log.Level := .info
  /-- The file that the log is written to. -/
  logFile : Option Files.Path := none
  deriving DecidableEq

end Scaffold
