import Scaffold.Backend.Controller
import Scaffold.Backend.Dto
import Scaffold.Backend.Entity
import Scaffold.Backend.JoinEntity
import Scaffold.Backend.Mapper
import Scaffold.Backend.Repository
import Scaffold.Backend.Service
import Scaffold.Diagram.Document
import Scaffold.Diagram.Lint
import Scaffold.Settings.Basic

/-!
# Artifacts

An artifact is a generated file. `Diagram.generate` makes all artifacts of a diagram, group by
group and in the order of the classes; the join entities follow the entities. The diagnostics are
those of the context, of the lint, and of the generators, in this order.

Main statement: `fst_run_generate` (what is generated is what the context of the diagram gives).
-/

namespace Scaffold

open Java

/-- A generated file. -/
structure Artifact where
  /-- The group that the file belongs to, and its directory. -/
  group : Group
  /-- The name of the class. -/
  name : String
  /-- The text of the file. -/
  content : String
  deriving DecidableEq

namespace Artifact

/-- The path of the file below the directory of the package. -/
def path (a : Artifact) : String := s!"{a.group.name}/{a.name}.java"

/-- The first artifact with a path. -/
def find? (artifacts : List Artifact) (path : String) : Option Artifact :=
  artifacts.find? (·.path = path)

/-- The artifacts of a kind, which is the name of a group. -/
def ofKind (artifacts : List Artifact) (kind : String) : List Artifact :=
  artifacts.filter (·.group.name = kind)

end Artifact

namespace Context

/-- The two artifacts for the service of a class. -/
def serviceArtifacts (ctx : Context) (c : ClassNode) : Noted (List Artifact) := do
  return [⟨.services, c.name ++ "Service", service ctx c⟩,
    ⟨.services, c.name ++ "ServiceImpl", ← serviceImplementation ctx c⟩]

/-- The artifacts of a context. -/
def artifacts (ctx : Context) : Generation (List Artifact) := do
  let classes := ctx.diagram.classes
  let entities ← classes.mapM fun c => Artifact.mk .entities c.name <$> entity ctx c
  let joinEntities ← (ctx.diagram.associationTables.mapM fun t =>
    Artifact.mk .entities t.name <$> joinEntity ctx t : Noted _)
  let dtos := classes.map fun c => ⟨.dto, Naming.dtoName c.name, dto ctx c⟩
  let mappers ← (classes.mapM fun c =>
    Artifact.mk .mappers (c.name ++ "Mapper") <$> mapper ctx c : Noted _)
  let repositories := classes.map fun c =>
    ⟨.repositories, c.name ++ "Repository", repository ctx c⟩
  let services ← (classes.mapM ctx.serviceArtifacts : Noted _)
  let controllers ← (classes.mapM fun c =>
    Artifact.mk .controllers (c.name ++ "Controller") <$> controller ctx c : Noted _)
  return entities ++ joinEntities ++ dtos ++ mappers ++ repositories ++ services.flatten ++
    controllers

end Context

/-- The context of a diagram. All problems of the diagram are reported. -/
def Diagram.check (d : Diagram) (basePackage : String) (queryLimit : Int) : Noted Context := do
  let ctx ← Context.build d basePackage queryLimit
  (⟨ctx, d.lint ctx.hierarchy.forest.childIds⟩ : Noted Context)

/-- The artifacts of a diagram. -/
def Diagram.generate (d : Diagram) (basePackage : String) (queryLimit : Int) :
    Generation (List Artifact) := do
  (← (d.check basePackage queryLimit : Noted _)).artifacts

theorem fst_run_generate (d : Diagram) (basePackage : String) (queryLimit : Int) :
    (d.generate basePackage queryLimit).run.value =
      (Context.build d basePackage queryLimit).value.artifacts.run.value := rfl

/-- What a generation is asked for: a package, and the greatest number of scalar members of a class
with derived queries. -/
structure Request where
  /-- The package; the empty text stands for none. -/
  package : Option String := none
  /-- The greatest number of scalar members with derived queries. -/
  queryLimit : Option Int := none
  deriving DecidableEq

namespace Request

/-- The package that is generated for: the one in the settings if none is asked for. -/
def chosenPackage (r : Request) (s : Settings) : String :=
  (r.package.filter (· ≠ "")).getD s.basePackage

/-- The number of members with derived queries: the one in the settings if none is asked for. -/
def chosenLimit (r : Request) (s : Settings) : Int := r.queryLimit.getD s.queryLimit

/-- The artifacts of a diagram as they are requested. -/
def generate (r : Request) (s : Settings) (d : Diagram) : Generation (List Artifact) :=
  d.generate (r.chosenPackage s) (r.chosenLimit s)

end Request

/-- Why a document is not compiled. -/
inductive CompileError where
  /-- The document cannot be read. -/
  | document (error : DocumentError)
  /-- A column length is too long to be read, or an integer to be shown. -/
  | hugeLength (error : Constraint.HugeLength)

/-- Reads a document and generates the artifacts of its diagram. -/
def compile (source : Document.Source) (r : Request) (s : Settings := {}) :
    Except CompileError (Noted (List Artifact)) :=
  match Diagram.parse source with
  | .error e => .error (.document e)
  | .ok d =>
    let x := (r.generate s d.value).run
    match x.value with
    | .error e => .error (.hugeLength e)
    | .ok artifacts => .ok ⟨artifacts, d.notes ++ x.notes⟩

end Scaffold
