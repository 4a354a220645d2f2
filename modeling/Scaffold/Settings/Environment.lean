import Scaffold.Files.Tree
import Scaffold.Settings.EnvironmentFile
import Scaffold.Settings.Record

/-!
# Settings from the environment

A setting is taken from what is given for it, else from its variable, else it has its default. The
case of names does not matter; of several given values the first counts, and of several variables
the last. The nearest environment file, in the working directory or up to three directories above
it, adds the variables that the environment does not have, unless a variable says that files do
not count. Loading the settings makes the directory of the log file.

Main statement: `extend_of_mem` (a file does not change what the environment has).
-/

namespace Scaffold

/-- The variables of the environment and their values. -/
abbrev Environment := List (String × String)

/-- Why the settings cannot be loaded. -/
inductive SettingsError where
  /-- Some settings have issues. -/
  | invalid (issues : List Issue)
  /-- The environment file is not in UTF-8. -/
  | undecodable (error : Text.Undecodable)
  /-- The environment file names a variable with an equals sign in its name. -/
  | badVariable
  /-- The environment file gives a zero character to a variable. -/
  | zeroCharacter
  /-- The directory of the log file cannot be made. -/
  | logDirectory (error : Files.Failure)
  deriving DecidableEq

/-- The wording of an error; issues are left to the caller. -/
def SettingsError.message : SettingsError → String
  | .invalid issues => s!"{issues.length} settings are not valid"
  | .undecodable e => e.message
  | .badVariable => "illegal environment variable name"
  | .zeroCharacter => "embedded null byte"
  | .logDirectory e => e.message

namespace Environment

/-- Whether a name or value holds a zero character. -/
def hasZero (s : String) : Bool := '\x00' ∈ s.toList

/-- The environment with the variables of a file that it does not have yet. -/
def extend (env : Environment) :
    List (String × Option String) → Except SettingsError Environment
  | [] => .ok env
  | (name, value) :: rest =>
    match value with
    | none => extend env rest
    | some value =>
      if env.any (·.1 = name) then extend env rest
      else if hasZero name || hasZero value then .error .zeroCharacter
      else if '=' ∈ name.toList then .error .badVariable
      else extend (env ++ [(name, value)]) rest

/-- A file does not change what the environment has. -/
theorem extend_of_mem {env env' : Environment} {values : List (String × Option String)}
    (h : extend env values = .ok env') : ∀ v ∈ env, v ∈ env' := by
  fun_induction extend env values <;> simp_all

/-- The values of a file with one entry per variable: the last value at the first place. -/
def lastValues (values : List (String × Option String)) : List (String × Option String) :=
  values.foldl (fun done v =>
    if done.any (·.1 = v.1) then done.map fun d => if d.1 = v.1 then v else d
    else done ++ [v]) []

/-- The location of the nearest environment file, from a directory up to so many levels. -/
def nearestFile (t : Files.Tree) : Nat → Files.Location → Option Files.Location
  | 0, _ => none
  | levels + 1, l =>
    if (t.get? (l ++ [".env"])).isSome then some (l ++ [".env"])
    else if l = [] then none
    else nearestFile t levels l.dropLast

/-- The number of directories that are searched for an environment file. -/
def searchedLevels : Nat := 4

/-- The variable that keeps environment files from being read. -/
def disablingVariable : String := "PYTHON_DOTENV_DISABLED"

/-- The values of that variable which keep the files from being read, in small letters. -/
def disablingWords : List String := ["1", "true", "t", "yes", "y"]

/-- Whether environment files are not read. The case of letters does not matter, and the long
letter s is one too. -/
def ignoresFiles (env : Environment) : Bool :=
  (env.lookup disablingVariable).any fun value =>
    Text.toLower (value.map fun c => if c = 'ſ' then 's' else c) ∈ disablingWords

/-- The environment with the variables of the nearest environment file. -/
def withFile (t : Files.Tree) (env : Environment) : Except SettingsError Environment :=
  if env.ignoresFiles then .ok env
  else
    match (nearestFile t searchedLevels t.home).bind t.get? with
    | some (.file content) => do
      let s ← content.read.mapError .undecodable
      extend env (lastValues (EnvironmentFile.values env s))
    | _ => .ok env

/-- The start of the names of the variables for settings, in small letters. -/
def variableStart : String := "uml2spring_"

/-- The value of the variable for a setting. -/
def setting? (env : Environment) (setting : String) : Option String :=
  (env.reverse.find? fun v => Text.toLower v.1 = variableStart ++ setting).map (·.2)

/-- The value that is given for a setting: the first one, where case does not matter. -/
def given? (given : Json.Fields) (setting : String) : Option Json.Value :=
  (given.find? fun v => Text.toLower v.1 = setting).map (·.2)

/-- The fields of the settings: what is given, else what the environment has. -/
def settingFields (env : Environment) (given : Json.Fields) : Json.Fields :=
  Settings.names.filterMap fun n =>
    ((given? given n).or ((setting? env n).map .str)).map fun v => (n, v)

end Environment

/-- Loads the settings, and makes the directory of the log file. -/
def Settings.load (t : Files.Tree) (env : Environment) (given : Json.Fields := []) :
    Except SettingsError (Settings × Files.Tree) := do
  let env ← env.withFile t
  match Settings.ofFields (env.settingFields given) with
  | .valid s =>
    match s.logFile with
    | none => return (s, t)
    | some p => return (s, ← (t.ensureDirectories p.parent).mapError .logDirectory)
  | .invalid issues => throw (.invalid issues)
  | .notIterable _ => throw (.invalid [])

end Scaffold
