import Scaffold.Backend.Basic

/-!
# Services

The service of a class is an interface, with the operations that every service has and the queries
that are predicted for it, and an implementation by the repository. Before an entity is saved, the
implementation loads the entities that it references; an update copies every field but the key. A
reference or field whose accessors are not predicted is left out and reported.

Main statements: `resolved_predicted` and `copied_predicted` (what is loaded or copied calls
nothing that is not predicted).
-/

namespace Scaffold

open Naming Java Text

namespace Service

/-! ## Queries -/

/-- The queries that the service of a class has. -/
def queries (ctx : Context) (c : ClassNode) : List Query :=
  ((ctx.membersOf c).serviceQueries ctx.queryLimit).filter fun q =>
    q.name ∈ (ctx.prediction c).serviceMethods

/-- The types of the keys and columns that a service speaks of. -/
def valueTypes (ctx : Context) (c : ClassNode) : List JavaType :=
  (ctx.entityKey c).javaType :: (ctx.queried c).map (·.javaType) ++
    (ctx.membersOf c).references.map (·.targetKey.javaType)

/-- The imports of the entities that a service speaks of. -/
def entityImports (ctx : Context) (c : ClassNode) : List String :=
  ctx.groupImport .entities c.name ::
    (ctx.membersOf c).references.map fun r => ctx.groupImport .entities r.target.name

/-! ## References that are loaded -/

/-- The call that reads a reference. -/
def referenceRead (c : ClassNode) (r : ReferenceMember) : AccessorCall :=
  ⟨c, .entity, .read, r.fieldName⟩

/-- The call that writes a reference. -/
def referenceWrite (c : ClassNode) (r : ReferenceMember) : AccessorCall :=
  ⟨c, .entity, .write, r.fieldName⟩

/-- The call that reads the key of a referenced entity. -/
def keyRead (r : ReferenceMember) : AccessorCall :=
  ⟨r.target, .entity, .read, r.targetKey.fieldName⟩

/-- The calls for loading the entity that a reference leads to. -/
def resolveCalls (c : ClassNode) (r : ReferenceMember) : List AccessorCall :=
  [referenceRead c r, referenceWrite c r, keyRead r]

/-- Whether the repository of a class finds entities by their key. -/
def findsById (ctx : Context) (c : ClassNode) : Bool :=
  "findById" ∈ (ctx.prediction c).repositoryMethods

/-- The diagnostic for a reference that cannot be loaded. -/
def resolveObstacle? (ctx : Context) (c : ClassNode) (r : ReferenceMember) : Option Diagnostic :=
  let note : Diagnostic := ⟨.unresolvable c.name r.fieldName, some c.id, some r.fieldName⟩
  if findsById ctx r.target then ctx.obstacle? (resolveCalls c r) note else some note

/-- The references that are loaded before an entity is saved. -/
def resolved (ctx : Context) (c : ClassNode) : Noted (List ReferenceMember) :=
  keepFree (resolveObstacle? ctx c) (ctx.chainReferences c)

theorem resolved_predicted {ctx : Context} {c : ClassNode} {r : ReferenceMember}
    (h : r ∈ (resolved ctx c).value) :
    ∀ call ∈ resolveCalls c r, ctx.predicts call = true := by
  have free := (mem_keepFree.1 h).2
  simp only [resolveObstacle?] at free
  split at free
  · exact Context.obstacle?_eq_none_iff.1 free
  · cases free

/-! ## Fields that are copied -/

/-- The calls for copying a field. -/
def copyCalls (c : ClassNode) (field : String) : List AccessorCall :=
  [⟨c, .entity, .read, field⟩, ⟨c, .entity, .write, field⟩]

/-- The fields that an update is to copy: all but the key. -/
def updateFields (ctx : Context) (c : ClassNode) : List String :=
  ((ctx.chainScalars c).filter fun m => !m.isPrimaryKey).map (·.fieldName) ++
    (ctx.chainReferences c).map (·.fieldName)

/-- The fields that an update copies. -/
def copied (ctx : Context) (c : ClassNode) : Noted (List String) :=
  keepFree
    (fun field =>
      ctx.obstacle? (copyCalls c field) ⟨.notCopied c.name field, some c.id, some field⟩)
    (updateFields ctx c)

theorem copied_predicted {ctx : Context} {c : ClassNode} {field : String}
    (h : field ∈ (copied ctx c).value) :
    ∀ call ∈ copyCalls c field, ctx.predicts call = true :=
  Context.obstacle?_eq_none_iff.1 (mem_keepFree.1 h).2

/-! ## The interface -/

/-- The margin of the templates of services. -/
def margin : Nat := 3

/-- The operations that every service has, with an empty line between neighbours. -/
def basics (c : ClassNode) (key : String) : Lines :=
  template margin 0
    [s!"List<{c.name}> findAll();", "",
      s!"Optional<{c.name}> findById({key} id);", "",
      s!"{c.name} create({c.name} entity);", "",
      s!"{c.name} update({key} id, {c.name} entity);", "",
      s!"{c.name} partialUpdate({key} id, {c.name} entity);", "",
      s!"void delete({key} id);", "",
      s!"boolean existsById({key} id);", "",
      "long count();"]

/-- The source file of the service of a class. -/
def file (ctx : Context) (c : ClassNode) : SourceFile where
  package := ctx.groupPackage .services
  imports := entityImports ctx c ++ ["java.util.List", "java.util.Optional"] ++
    JavaType.imports (valueTypes ctx c)
  body := braced s!"public interface {c.name}Service"
    ("" :: basics c (ctx.entityKey c).javaType.name ++
      (queries ctx c).flatMap fun q => ["", q.declaration c.name ++ ";"])

/-! ## The implementation -/

/-- A repository that an implementation uses. -/
structure Access where
  /-- The name of the entities. -/
  entity : String
  /-- The field that holds the repository. -/
  field : String
  deriving DecidableEq

/-- The type of a repository. -/
def Access.type (a : Access) : String := a.entity ++ "Repository"

/-- The repository of the entities of a name. -/
def Access.of (entity : String) : Access := ⟨entity, camelCase entity ++ "Repository"⟩

/-- The repositories of the other classes whose entities are loaded. -/
def relatedAccess (c : ClassNode) (references : List ReferenceMember) : List Access :=
  (distinctBy id ((references.map (·.target.name)).filter (· ≠ c.name))).map Access.of

/-- The fields and the constructor of an implementation. -/
def wiring (c : ClassNode) (accesses : List Access) : Lines :=
  let parameters := joinTexts ", " (accesses.map fun a => s!"{a.type} {a.field}")
  accesses.map (fun a => s!"private final {a.type} {a.field};") ++ [""] ++
    braced s!"public {c.name}ServiceImpl({parameters})"
      (accesses.map fun a => s!"this.{a.field} = {a.field};") ++ [""]

/-- The annotation of methods that change nothing. -/
def readOnly : String := "@Transactional(readOnly = true)"

/-- An implementation of an operation that changes nothing. -/
def reading (head result : String) : Lines :=
  ["@Override", readOnly] ++ braced head [s!"return {result};"]

/-- An implementation of an operation that changes something. -/
def writing (head : String) (body : Lines) : Lines := "@Override" :: braced head body

/-- The implementation of an update, which may be partial. -/
def updating (c : ClassNode) (key repository method isPartial notFound : String) : Lines :=
  writing s!"public {c.name} {method}({key} id, {c.name} entity)"
    (["validateEntity(entity);", s!"return {repository}.findById(id)",
        "        .map(existing -> \x7b"] ++
      indented 3
        [s!"updateEntityFields(existing, entity, {isPartial});", "resolveForeignKeys(existing);",
          s!"return {repository}.save(existing);"] ++
      ["        \x7d)",
        s!"        .orElseThrow(() -> new EntityNotFoundException({notFound}));"])

/-- The implementations of the operations that every service has. -/
def basicImplementations (c : ClassNode) (key repository : String) : Lines :=
  let notFound := s!"\"{c.name} not found with id \" + id"
  template margin 0 <|
    reading s!"public List<{c.name}> findAll()" s!"{repository}.findAll()" ++ [""] ++
      reading s!"public Optional<{c.name}> findById({key} id)" s!"{repository}.findById(id)" ++
      [""] ++
      writing s!"public {c.name} create({c.name} entity)"
        ["validateEntity(entity);", "resolveForeignKeys(entity);",
          s!"return {repository}.save(entity);"] ++
      [""] ++ updating c key repository "update" "false" notFound ++
      [""] ++ updating c key repository "partialUpdate" "true" notFound ++
      [""] ++
      writing s!"public void delete({key} id)"
        (braced s!"if (!{repository}.existsById(id))"
            [s!"throw new EntityNotFoundException({notFound});"] ++
          [s!"{repository}.deleteById(id);"]) ++
      [""] ++
      reading s!"public boolean existsById({key} id)" s!"{repository}.existsById(id)" ++ [""] ++
      reading "public long count()" s!"{repository}.count()"

/-- The implementation of a query. -/
def queryImplementation (c : ClassNode) (repository : String) (q : Query) : Lines :=
  reading s!"public {q.declaration c.name}" s!"{repository}.{q.name}({q.argument})"

/-- The method that refuses a missing entity. -/
def validation (c : ClassNode) : Lines :=
  template margin 0 <|
    braced s!"private void validateEntity({c.name} entity)"
      (braced "if (entity == null)"
        [s!"throw new IllegalArgumentException(\"{c.name} must not be null\");"])

/-- The code that copies a field. -/
def copyField (c : ClassNode) (field : String) : Statements :=
  let read : AccessorCall := ⟨c, .entity, .read, field⟩
  let write : AccessorCall := ⟨c, .entity, .write, field⟩
  let value := read.code "incoming"
  .braced ("if (!partial || " ++ value ++ " != null)") [write.code "existing" value ++ ";"]

/-- The code that copies fields. -/
def copyCode (c : ClassNode) (fields : List String) : Statements := fields.flatMap (copyField c)

/-- The method that copies the fields of an entity to another. -/
def copying (c : ClassNode) (fields : List String) : Lines :=
  braced
    s!"private void updateEntityFields({c.name} existing, {c.name} incoming, boolean partial)"
    (copyCode c fields).written

/-- The margin of the templates for references that are loaded. -/
def loadMargin : Nat := 4

/-- The code that loads the entity that a reference leads to. -/
def loadReference (c : ClassNode) (repository : String) (related : List Access)
    (r : ReferenceMember) : Statements :=
  let target := r.target.name
  let access := ((related.find? (·.entity = target)).map (·.field)).getD repository
  let stub := r.fieldName ++ "Ref"
  let id := (keyRead r).code stub
  let value := (referenceRead c r).code "entity"
  [s!"{target} {stub} = " ++ value ++ ";"] ++
    Statements.braced s!"if ({stub} != null)"
      (["if (" ++ id ++ " != null) \x7b"] ++
        Statements.indented 1
          [s!"{target} loaded = {access}.findById(" ++ id ++ ")",
            "        .orElseThrow(() -> new EntityNotFoundException(",
            s!"                \"Related {target} not found with id \" + " ++ id ++ "));",
            (referenceWrite c r).code "entity" "loaded" ++ ";"] ++
        Statements.braced "\x7d else" [(referenceWrite c r).code "entity" "null" ++ ";"])

/-- The method that loads the entities that an entity references. -/
def loading (c : ClassNode) (repository : String) (related : List Access)
    (references : List ReferenceMember) : Lines :=
  braced s!"private void resolveForeignKeys({c.name} entity)"
    (references.flatMap fun r =>
      template loadMargin 0 (loadReference c repository related r).written)

/-- The imports of an implementation. -/
def implementationImports (ctx : Context) (c : ClassNode) (references : List ReferenceMember)
    (accesses : List Access) : List String :=
  entityImports ctx c ++
    references.map (fun r => ctx.groupImport .entities r.target.name) ++
    accesses.map (fun a => ctx.groupImport .repositories a.type) ++
    ["jakarta.persistence.EntityNotFoundException", "org.springframework.stereotype.Service",
      "org.springframework.transaction.annotation.Transactional", "java.util.List",
      "java.util.Optional"] ++
    JavaType.imports (valueTypes ctx c)

/-- The source file of the implementation of the service of a class. -/
def implementationFile (ctx : Context) (c : ClassNode) : Noted SourceFile := do
  let references ← resolved ctx c
  let fields ← copied ctx c
  let own := Access.of c.name
  let related := relatedAccess c references
  return {
    package := ctx.groupPackage .services
    imports := implementationImports ctx c references (own :: related)
    body := ["@Service", "@Transactional"] ++
      braced s!"public class {c.name}ServiceImpl implements {c.name}Service"
        ("" :: wiring c (own :: related) ++
          basicImplementations c (ctx.entityKey c).javaType.name own.field ++
          (queries ctx c).flatMap (fun q => "" :: queryImplementation c own.field q) ++
          [""] ++ validation c ++ [""] ++ copying c fields ++ [""] ++
          loading c own.field related references) }

end Service

/-- The text of the service of a class. -/
def service (ctx : Context) (c : ClassNode) : String := (Service.file ctx c).text

/-- The text of the implementation of the service of a class. -/
def serviceImplementation (ctx : Context) (c : ClassNode) : Noted String := do
  return (← Service.implementationFile ctx c).text

end Scaffold
