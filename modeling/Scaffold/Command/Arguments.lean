import Scaffold.Backend.Artifact
import Scaffold.Files.Path
import Scaffold.Settings.Whole

/-!
# Command lines

A command line names a command and gives it switches and words. Switches have a long form, some a
short one too, and some take a value; they may stand between the words. Two dashes end them. Of a
switch that is given twice the last counts.

`Invocation.ofArguments` reads a command line. What is wrong with it is a `Misuse`. Help is given
before words and values are looked at, but not before all switches are known.

Main statement: `scan_words` (arguments without a dash in front are the words).
-/

namespace Scaffold

open Text

/-- A command with all that it is given. -/
inductive Command where
  /-- Generates the files for a diagram. -/
  | generate (diagram : Files.Path) (output : Option Files.Path) (request : Request)
      (mavenLayout : Bool)
  /-- Shows how a diagram is understood. -/
  | inspect (diagram : Files.Path)
  /-- Reports the problems of a diagram. -/
  | validate (diagram : Files.Path) (strict : Bool)
  deriving DecidableEq

namespace Command

/-! ## Switches -/

/-- The switches. -/
inductive Switch where
  /-- The package that is generated for. -/
  | package
  /-- The greatest number of scalar members with derived queries. -/
  | queryLimit
  /-- Whether the sources go where the usual project layout has them. -/
  | mavenLayout
  /-- Whether any problem counts as a failure. -/
  | strict
  /-- Whether the log keeps everything. -/
  | verbose
  /-- Whether help is asked for. -/
  | help
  deriving DecidableEq

/-- How a switch is written, besides its long form. -/
structure SwitchForm where
  /-- The switch. -/
  switch : Switch
  /-- The letter of the short form. -/
  short : Option Char := none
  /-- Whether a value follows. -/
  takesValue : Bool := false
  deriving DecidableEq

/-- What is wrong with a command line. -/
inductive Misuse where
  /-- There is no such switch. -/
  | unknownSwitch (text : String)
  /-- A switch has no value and needs one. -/
  | missingValue (switch : Switch)
  /-- A switch has a value and takes none. -/
  | superfluousValue (switch : Switch)
  /-- The value of a switch is no number. -/
  | notNumber (text : String)
  /-- No command is named. -/
  | missingCommand
  /-- There is no such command. -/
  | unknownCommand (name : String)
  /-- The diagram is missing. -/
  | missingDiagram
  /-- There are more words than the command takes. -/
  | superfluousWords (words : List String)
  /-- A path holds a zero character. -/
  | zeroCharacter
  deriving DecidableEq

/-- The long form of a switch. -/
def Switch.long : Switch → String
  | .package => "--package"
  | .queryLimit => "--max-queries"
  | .mavenLayout => "--maven-layout"
  | .strict => "--strict"
  | .verbose => "--verbose"
  | .help => "--help"

/-- The wording of a misuse. -/
def Misuse.message : Misuse → String
  | .unknownSwitch text => s!"No such option: {text}"
  | .missingValue switch => s!"Option '{switch.long}' requires an argument."
  | .superfluousValue switch => s!"Option '{switch.long}' does not take a value."
  | .notNumber text => s!"'{text}' is not a valid integer."
  | .missingCommand => "Missing command."
  | .unknownCommand name => s!"No such command '{name}'."
  | .missingDiagram => "Missing argument 'DIAGRAM'."
  | .superfluousWords words =>
    let list := joinTexts " " words
    s!"Got unexpected extra arguments ({list})"
  | .zeroCharacter => "A path cannot hold a zero character."

/-- A switch as it is given, and its value. -/
abbrev Given := Switch × Option String

/-- The switches and words of a command line. -/
structure Scanned where
  /-- The switches, in order. -/
  switches : List Given := []
  /-- The words, in order. -/
  words : List String := []
  deriving DecidableEq

namespace Scanned

/-- Whether a switch is given. -/
def has (s : Scanned) (switch : Switch) : Bool := s.switches.any (·.1 = switch)

/-- The value of a switch: the last one counts. -/
def value? (s : Scanned) (switch : Switch) : Option String :=
  (s.switches.reverse.find? (·.1 = switch)).bind (·.2)

/-- With more switches in front. -/
def withSwitches (given : List Given) (s : Scanned) : Scanned :=
  { s with switches := given ++ s.switches }

/-- With one more word in front. -/
def withWord (word : String) (s : Scanned) : Scanned := { s with words := word :: s.words }

end Scanned

/-- Reads the letters of short forms. The last one may need the next argument for a value. -/
def readLetters (forms : List SwitchForm) :
    List Char → Except Misuse (List Given × Option Switch)
  | [] => .ok ([], none)
  | c :: rest =>
    match forms.find? fun f => f.short = some c with
    | none => .error (.unknownSwitch (String.ofList ['-', c]))
    | some f =>
      if f.takesValue then
        if rest = [] then .ok ([], some f.switch)
        else .ok ([(f.switch, some (String.ofList rest))], none)
      else (readLetters forms rest).map fun p => ((f.switch, none) :: p.1, p.2)

/-- Reads an argument that starts with a dash. It may need the next argument for a value. -/
def readSwitch (forms : List SwitchForm) (arg : List Char) :
    Except Misuse (List Given × Option Switch) :=
  let name := String.ofList (arg.takeWhile (· ≠ '='))
  let value? :=
    match arg.dropWhile (· ≠ '=') with
    | _ :: value => some (String.ofList value)
    | [] => none
  match forms.find? fun f => f.switch.long = name with
  | some f =>
    match f.takesValue, value? with
    | true, some value => .ok ([(f.switch, some value)], none)
    | true, none => .ok ([], some f.switch)
    | false, some _ => .error (.superfluousValue f.switch)
    | false, none => .ok ([(f.switch, none)], none)
  | none =>
    if "--".toList.isPrefixOf arg then .error (.unknownSwitch name)
    else readLetters forms (arg.drop 1)

/-- Whether an argument is read as a switch. -/
def isSwitch (arg : String) : Bool := arg.toList.head? = some '-' && arg ≠ "-"

/-- Reads switches and words. If they may not be mixed, the first word ends the switches. -/
def scan (forms : List SwitchForm) (mixed : Bool) : List String → Except Misuse Scanned
  | [] => .ok {}
  | arg :: rest =>
    if arg = "--" then .ok { words := rest }
    else if isSwitch arg then
      match readSwitch forms arg.toList with
      | .error e => .error e
      | .ok (given, none) => (scan forms mixed rest).map (·.withSwitches given)
      | .ok (given, some switch) =>
        match rest with
        | [] => .error (.missingValue switch)
        | value :: rest =>
          (scan forms mixed rest).map (·.withSwitches (given ++ [(switch, some value)]))
    else if mixed then (scan forms mixed rest).map (·.withWord arg)
    else .ok { words := arg :: rest }

theorem scan_words (forms : List SwitchForm) (mixed : Bool) {args : List String}
    (h : ∀ a ∈ args, a ≠ "--" ∧ isSwitch a = false) :
    scan forms mixed args = .ok { words := args } := by
  induction args with
  | nil => rfl
  | cons a rest ih =>
    have ha := h a (by simp)
    have hrest := ih fun b hb => h b (by simp [hb])
    cases mixed <;> simp_all [scan, Except.map, Scanned.withWord]

/-! ## Commands -/

/-- What a command line asks for. -/
inductive Invocation where
  /-- Help. -/
  | help
  /-- A command, and whether the log keeps everything. -/
  | run (command : Command) (verbose : Bool)
  deriving DecidableEq

/-- The commands by name. -/
inductive CommandName where
  /-- Generates the files for a diagram. -/
  | generate
  /-- Shows how a diagram is understood. -/
  | inspect
  /-- Reports the problems of a diagram. -/
  | validate
  deriving DecidableEq

/-- The form of the switch that asks for help. -/
def helpForm : SwitchForm := ⟨.help, none, false⟩

/-- The form of the switch for a log that keeps everything. -/
def verboseForm : SwitchForm := ⟨.verbose, some 'v', false⟩

namespace CommandName

/-- The command with a name. -/
def ofText? : String → Option CommandName
  | "generate" => some .generate
  | "inspect" => some .inspect
  | "validate" => some .validate
  | _ => none

/-- The switches of a command. -/
def forms : CommandName → List SwitchForm
  | .generate =>
    [⟨.package, some 'p', true⟩, ⟨.queryLimit, none, true⟩, ⟨.mavenLayout, none, false⟩,
      verboseForm, helpForm]
  | .inspect => [verboseForm, helpForm]
  | .validate => [⟨.strict, none, false⟩, verboseForm, helpForm]

/-- The greatest number of words that a command takes. -/
def wordLimit : CommandName → Nat
  | .generate => 2
  | .inspect => 1
  | .validate => 1

end CommandName

/-- Reads the value of a switch as a number. -/
def readNumber (s : String) : Except Misuse Int :=
  match Whole.ofText s with
  | .valid i => .ok i
  | _ => .error (.notNumber s)

/-- Reads a word as a path, which cannot hold a zero character. -/
def readPath (word : String) : Except Misuse Files.Path :=
  if '\x00' ∈ word.toList then .error .zeroCharacter else .ok (Files.Path.ofText word)

/-- The command with a name, made from switches and words. -/
def CommandName.command (name : CommandName) (s : Scanned) : Except Misuse Command := do
  if name.wordLimit < s.words.length then throw (.superfluousWords (s.words.drop name.wordLimit))
  match ← s.words.mapM readPath with
  | [] => throw .missingDiagram
  | diagram :: others =>
    match name with
    | .generate =>
      let queryLimit ← (s.value? .queryLimit).mapM readNumber
      return .generate diagram others.head? ⟨s.value? .package, queryLimit⟩ (s.has .mavenLayout)
    | .inspect => return .inspect diagram
    | .validate => return .validate diagram (s.has .strict)

/-- Reads a command line. -/
def Invocation.ofArguments (args : List String) : Except Misuse Invocation := do
  let start ← scan [helpForm] false args
  if start.has .help then return .help
  match start.words with
  | [] => throw .missingCommand
  | word :: rest =>
    match CommandName.ofText? word with
    | none => throw (.unknownCommand word)
    | some name =>
      let s ← scan name.forms true rest
      if s.has .help then return .help
      return .run (← name.command s) (s.has .verbose)

end Command

end Scaffold
