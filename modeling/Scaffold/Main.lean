import Scaffold.Command.Execution

/-!
# The program

Takes what a command line is about from the file system and the environment, executes it, and puts
into effect what it has written and said.
-/

namespace Scaffold.Main

/-- How the program is used. -/
def usage : List String :=
  ["Usage: uml2spring COMMAND DIAGRAM", "",
    "  generate DIAGRAM [OUT_DIR]  write a backend for a class diagram",
    "    -p, --package NAME        the base package",
    "    --max-queries NUMBER      the number of scalar attributes with derived queries",
    "    --maven-layout            write below src/main/java and the package",
    "  inspect DIAGRAM             show how a diagram is understood",
    "  validate DIAGRAM            report the problems of a diagram",
    "    --strict                  fail on any problem",
    "  -v, --verbose               keep everything in the log"]

/-- The environment, as far as it has variables for settings. -/
def environment : IO Environment := do
  let names := Settings.names.map (Environment.variableStart ++ ·)
  let names := Environment.disablingVariable :: (names ++ names.map Text.toUpper)
  let values ← names.mapM fun n => return (n, ← IO.getEnv n)
  return values.filterMap fun v => v.2.map fun value => (v.1, value)

/-- Takes what is at a path into a tree. -/
def takeIn (t : Files.Tree) (p : Files.Path) : IO Files.Tree := do
  let file := (← IO.currentDir) / p.text
  if ← file.isDir then return (t.ensureDirectories p).toOption.getD t
  else if ← file.pathExists then
    let content := Files.Content.bytes (← IO.FS.readBinFile file).toList
    return (t.place p content).toOption.getD t
  else return t

/-- The tree with what a command line is about: the paths in it, and the environment files. -/
def snapshot (args : List String) : IO Files.Tree := do
  let home := Files.Path.ofText (← IO.currentDir).toString
  let levels := List.range Environment.searchedLevels
  let files := levels.map fun n => Files.Path.mk .here (List.replicate n ".." ++ [".env"])
  (files ++ args.map Files.Path.ofText).foldlM takeIn (.empty home.names)

/-- Puts into effect what is in a tree and was not in another one. A new file without content only
has to be there. -/
def settle (before after : Files.Tree) : IO Unit := do
  for (l, e) in after.entries do
    if before.get? l ≠ some e then
      let file := (← IO.currentDir) / (Files.Path.mk .root l).text
      match e with
      | .directory => IO.FS.createDirAll file
      | .file (.bytes b) => IO.FS.writeBinFile file ⟨b.toArray⟩
      | .file (.text s) =>
        unless s = "" && (← file.pathExists) do IO.FS.writeFile file s

end Scaffold.Main

/-- Runs a command line. -/
def main (args : List String) : IO UInt32 := do
  let tree ← Scaffold.Main.snapshot args
  let o := Scaffold.Command.execute tree (← Scaffold.Main.environment) args
  Scaffold.Main.settle tree o.console.tree
  for s in o.console.said do IO.println s
  for s in o.console.complaints do IO.eprintln s
  if let some m := o.misuse then
    for line in Scaffold.Main.usage do IO.eprintln line
    IO.eprintln s!"Error: {m.message}"
  if o.help then for line in Scaffold.Main.usage do IO.println line
  if let some f := o.fault then IO.eprintln f.message
  return UInt32.ofNat o.exitCode
