import Scaffold.Command.Arguments
import Scaffold.Command.Console
import Scaffold.Command.Overview

/-!
# Execution of commands

What the commands do. All of them set up the log and load their diagram. `generate` writes the
files for it, `inspect` shows how it is understood, and `validate` reports its problems.

`execute` runs a command line on a file tree and an environment, and its outcome says everything
that can be seen from outside.
-/

namespace Scaffold.Command

/-- Sets up the log, and gives the settings. -/
def prepare (env : Environment) (verbose : Bool) : Run Settings := do
  let options : Log.Options := { verbose }
  match options.start (← get).tree env with
  | .ok (s, _, tree) =>
    modify fun c => { c with tree }
    return s
  | .error e => fail (.log e)

/-- Loads a diagram. -/
def load (p : Files.Path) : Run (Noted Diagram) := do
  match Diagram.load (← get).tree p with
  | .ok d => return d
  | .error e => if e.isMendable then refuse e.message else fail (.load e)

/-- Generates the files for a diagram. -/
def writeFiles (s : Settings) (diagram : Files.Path) (output : Option Files.Path)
    (request : Request) (mavenLayout : Bool) : Run Unit := do
  let package := request.chosenPackage s
  let output := output.getD s.outputDirectory
  unless Java.isPackage package do refuse (Java.packageComplaint package)
  say s!"Loading diagram from {diagram.text}"
  let d ← load diagram
  say "Generating backend..."
  let generated := (request.generate s d.value).run
  match generated.value with
  | .error e => fail (.hugeLength e)
  | .ok artifacts =>
    let notes := d.notes ++ generated.notes
    let target := if mavenLayout then sourceRoot output package else output
    let written ← filing (writeArtifacts target artifacts)
    for n in notes do say s!"  {n.format}"
    say <| s!"✓ Complete! {written.length} files written to {target.text} " ++
      s!"({notes.length} warnings)"

/-- Shows how a diagram is understood. -/
def showOverview (s : Settings) (diagram : Files.Path) : Run Unit := do
  let d ← load diagram
  let built := Context.build d.value s.basePackage s.queryLimit
  let ctx := built.value
  say s!"Classes ({d.value.classes.length}):"
  for c in d.value.classes do
    for line in ctx.classLines c do say line
  unless d.value.associationTables = [] do
    say s!"Association tables ({d.value.associationTables.length}):"
    for t in d.value.associationTables do
      match Context.tableLine? t with
      | some line => say line
      | none => fail (.aimlessKey t.name)
  say s!"Relationships ({d.value.relationships.length}):"
  for r in ctx.diagram.relations do say (ctx.relationLine r)
  let notes := d.notes ++ built.notes
  unless notes = [] do
    say s!"Warnings ({notes.length}):"
    for n in notes do say s!"  {n.format}"

/-- Reports the problems of a diagram. -/
def reportProblems (s : Settings) (diagram : Files.Path) (strict : Bool) : Run Unit := do
  let d ← load diagram
  let standard : Settings := {}
  let notes := d.notes ++ (d.value.check s.basePackage standard.queryLimit).notes
  for n in notes do say n.format
  if notes = [] then say "✓ No problems found"
  else
    say s!"{notes.length} warning(s)"
    if strict then throw (.exit 1)

/-- Runs a command. -/
def run (s : Settings) : Command → Run Unit
  | .generate diagram output request mavenLayout =>
    writeFiles s diagram output request mavenLayout
  | .inspect diagram => showOverview s diagram
  | .validate diagram strict => reportProblems s diagram strict

/-- What can be seen of a run from outside. -/
structure Outcome where
  /-- The console after the run. -/
  console : Console
  /-- The exit code. -/
  exitCode : Nat
  /-- The fault that ended the run. -/
  fault : Option Fault := none
  /-- What is wrong with the command line. -/
  misuse : Option Misuse := none
  /-- Whether the command line asks for help. -/
  help : Bool := false

/-- The outcome of a computation on a console. -/
def Outcome.ofRun (x : Run Unit) (tree : Files.Tree) : Outcome :=
  let (result, console) := x.run.run { tree }
  match result with
  | .ok () => { console, exitCode := 0 }
  | .error (.exit code) => { console, exitCode := code }
  | .error (.fault f) => { console, exitCode := 1, fault := some f }

/-- Runs a command line. -/
def execute (tree : Files.Tree) (env : Environment) (args : List String) : Outcome :=
  match Invocation.ofArguments args with
  | .error m => { console := { tree }, exitCode := 2, misuse := some m }
  | .ok .help => { console := { tree }, exitCode := 0, help := true }
  | .ok (.run command verbose) =>
    Outcome.ofRun (prepare env verbose >>= command.run) tree

end Scaffold.Command
