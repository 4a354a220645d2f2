import Scaffold.Backend.Basic

/-!
# Repositories

The repository of a class declares the queries that are derived from its members, as far as they
are predicted.

Main statement: `mem_queries` (which queries are declared).
-/

namespace Scaffold

open Java

namespace Repository

/-- The queries that the repository of a class declares. -/
def queries (ctx : Context) (c : ClassNode) : List Query :=
  ((ctx.membersOf c).repositoryQueries ctx.queryLimit).filter fun q =>
    q.name ∈ (ctx.prediction c).repositoryMethods

theorem mem_queries {ctx : Context} {c : ClassNode} {q : Query} :
    q ∈ queries ctx c ↔
      q ∈ (ctx.membersOf c).repositoryQueries ctx.queryLimit ∧
        q.name ∈ (ctx.prediction c).repositoryMethods := by
  simp [queries]

/-- The imports of a repository. -/
def imports (ctx : Context) (c : ClassNode) : List String :=
  let members := ctx.membersOf c
  [ctx.groupImport .entities c.name,
    "org.springframework.data.jpa.repository.JpaRepository",
    "org.springframework.stereotype.Repository"] ++
    members.references.map (fun r => ctx.groupImport .entities r.target.name) ++
    (if (queries ctx c).any fun q => q.verb = .find then ["java.util.List"] else []) ++
    JavaType.imports
      ((ctx.entityKey c).javaType :: (ctx.queried c).map (·.javaType) ++
        members.references.map (·.targetKey.javaType))

/-- The source file of the repository of a class. -/
def file (ctx : Context) (c : ClassNode) : SourceFile :=
  let key := (ctx.entityKey c).javaType.name
  { package := ctx.groupPackage .repositories
    imports := imports ctx c
    body := "@Repository" ::
      braced s!"public interface {c.name}Repository extends JpaRepository<{c.name}, {key}>"
        ("" :: (queries ctx c).flatMap fun q => [q.declaration c.name ++ ";", ""]) }

end Repository

/-- The text of the repository of a class. -/
def repository (ctx : Context) (c : ClassNode) : String := (Repository.file ctx c).text

end Scaffold
