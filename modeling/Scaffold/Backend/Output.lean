import Scaffold.Backend.Artifact
import Scaffold.Files.Tree

/-!
# Output directories

Artifacts are written below an output directory, or below the source directory of their package
in it. Files are written one by one in the order of the artifacts; the first failure ends the
writing, and what was written before stays.

Main statement: `names_target` (the path of an artifact continues the output directory).
-/

namespace Scaffold

/-- A computation that changes a file tree and may fail. -/
abbrev Filing := ExceptT Files.Failure (StateM Files.Tree)

namespace Filing

/-- Changes the tree, or fails and leaves it as it is. -/
def change (f : Files.Tree → Except Files.Failure Files.Tree) : Filing Unit := do
  match f (← get) with
  | .ok t => set t
  | .error e => throw e

end Filing

/-- The directory for the sources of a package in the usual project layout. -/
def sourceRoot (out : Files.Path) (basePackage : String) : Files.Path :=
  (Text.splitOn '.' basePackage.toList).foldl
    (fun p segment => p.join (.ofText (String.ofList segment))) (out.join (.ofText "src/main/java"))

/-- The path of an artifact below an output directory. -/
def Artifact.target (a : Artifact) (out : Files.Path) : Files.Path :=
  out.join (.ofText a.path)

theorem Artifact.start_path (a : Artifact) : (Files.Path.ofText a.path).start = .here := by
  obtain ⟨group, name, content⟩ := a
  cases group <;> simp [Artifact.path, Files.Path.ofText, Group.name, Files.Path.startOf, toString]

theorem Artifact.names_target (a : Artifact) (out : Files.Path) :
    (a.target out).names = out.names ++ (Files.Path.ofText a.path).names :=
  Files.Path.names_join a.start_path

/-- Writes artifacts below a directory, and lists their paths. -/
def writeArtifacts (out : Files.Path) (artifacts : List Artifact) : Filing (List Files.Path) :=
  artifacts.mapM fun a => do
    Filing.change fun t => t.place (a.target out) (.text a.content)
    return a.target out

end Scaffold
