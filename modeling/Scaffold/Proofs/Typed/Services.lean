import Scaffold.Proofs.Typed.Mappers

/-!
# Repositories and services with their types

The files of repositories, services and implementations with the types told apart. The types that
depend on the members of a class are those of the parameters of its queries, and the entities that
an implementation loads.

Main statements: `Repository.artifact_typedFile`, `Service.artifact_typedFile` and
`Service.artifact_typedImplementation` (the files are those that are generated),
`Repository.allTypes_typedFile`, `Service.allTypes_typedFile` and
`Service.allTypes_typedImplementation` (the types in them).
-/

namespace Scaffold

open Naming Java Text TypedCode

/-! ## Queries -/

/-- The type of the parameter of a query in a line. -/
def QueryType.use : QueryType → TypedLine
  | .value type => type.use
  | .entity target => target.entityUse

/-- The type that a query returns, given the class of the entity. -/
def QueryVerb.typedReturns (c : ClassNode) : QueryVerb → TypedLine
  | .find => c.entityUse.list
  | .exist => "boolean"
  | .count => "long"

/-- The declaration of a query, given the class of the entity. -/
def Query.typedDeclaration (c : ClassNode) (q : Query) : TypedLine :=
  q.verb.typedReturns c ++ " " ++ .word q.name ++ "(" ++ (q.type.use ++ " " ++ .word q.property) ++
    ")"

theorem Query.written_declaration (c : ClassNode) (q : Query) :
    (q.typedDeclaration c).written = q.declaration c.name := by
  obtain ⟨verb, property, type⟩ := q
  cases verb <;> cases type <;> rfl

/-- The types in the declaration of a query are those of its result and of its parameter. -/
theorem Query.allTypes_declaration {P : TypeUse → Prop} {c : ClassNode} {q : Query}
    (hentity : P (.generated .entities c.name)) (hparameter : q.type.use.AllTypes P) :
    (q.typedDeclaration c).AllTypes P := by
  have hreturns : (q.verb.typedReturns c).AllTypes P := by
    cases q.verb <;>
      simp (disch := first | exact rfl | decide) [QueryVerb.typedReturns, isPlain_of_chars, hentity]
  simp (disch := first | exact rfl | decide) [Query.typedDeclaration, isPlain_of_chars, hreturns,
    hparameter]

/-! ## Repositories -/

namespace Repository

/-- The head of the interface declaration. -/
def typedHead (ctx : Context) (c : ClassNode) : TypedLine :=
  "public interface " ++ c.repositoryUse ++ " extends JpaRepository<" ++ c.entityUse ++ ", " ++
    (ctx.entityKey c).javaType.use ++ ">"

theorem written_head (ctx : Context) (c : ClassNode) :
    let key := (ctx.entityKey c).javaType.name
    (typedHead ctx c).written =
      s!"public interface {c.name}Repository extends JpaRepository<{c.name}, {key}>" := by
  intro key
  have hsplit :
      "Repository" ++ " extends JpaRepository<" = "Repository extends JpaRepository<" := by decide
  exact congrArg (· ++ c.name ++ ", " ++ key ++ ">")
    (append_suffix hsplit "public interface " c.name)

/-- The file of the repository of a class. -/
def typedFile (ctx : Context) (c : ClassNode) : TypedFile where
  group := .repositories
  name := c.name ++ "Repository"
  imports := imports ctx c
  code :=
    lines ["@Repository"] ++ braced (typedHead ctx c)
      (lines [""] ++ each (queries ctx c) fun q => lines [q.typedDeclaration c ++ ";", ""])

theorem artifact_typedFile (ctx : Context) (c : ClassNode) :
    (typedFile ctx c).artifact ctx =
      ⟨.repositories, c.name ++ "Repository", repository ctx c⟩ := by
  have hbody : (typedFile ctx c).code.written = (file ctx c).body := by
    simp only [typedFile, file, TypedCode.written_append, written_braced, written_each,
      written_head, written_lines, List.map_cons, List.map_nil, TypedLine.written_append,
      Query.written_declaration]
    rfl
  exact TypedFile.artifact_eq hbody rfl rfl

/-- The types in a repository are the repository, its entity, the type of the key, and those of the
parameters of its queries. -/
theorem allTypes_typedFile {P : TypeUse → Prop} {ctx : Context} {c : ClassNode}
    (hrepository : P (.generated .repositories (c.name ++ "Repository")))
    (hentity : P (.generated .entities c.name)) (hkey : P (.value (ctx.entityKey c).javaType))
    (hqueries : ∀ q ∈ queries ctx c, q.type.use.AllTypes P) :
    (typedFile ctx c).code.AllTypes P := by
  have hdeclarations : ∀ q ∈ queries ctx c, (q.typedDeclaration c).AllTypes P :=
    fun q hq => Query.allTypes_declaration hentity (hqueries q hq)
  simpa (disch := first | exact rfl | decide) [typedFile, typedHead, ClassNode.repositoryUse,
    isPlain_of_chars, hrepository, hentity, hkey]
    using hdeclarations

end Repository

/-! ## Services -/

namespace Service

/-- The operations that every service has, with an empty line between neighbours. -/
def typedBasics (c : ClassNode) (key : TypedLine) : TypedCode :=
  template margin 0 <| lines
    ["List<" ++ c.entityUse ++ "> findAll();", "",
      "Optional<" ++ c.entityUse ++ "> findById(" ++ key ++ " id);", "",
      c.entityUse ++ " create(" ++ c.entityUse ++ " entity);", "",
      c.entityUse ++ " update(" ++ key ++ " id, " ++ c.entityUse ++ " entity);", "",
      c.entityUse ++ " partialUpdate(" ++ key ++ " id, " ++ c.entityUse ++ " entity);", "",
      "void delete(" ++ key ++ " id);", "",
      "boolean existsById(" ++ key ++ " id);", "",
      "long count();"]

theorem written_basics (c : ClassNode) (key : TypedLine) :
    (typedBasics c key).written = basics c key.written := rfl

/-- The file of the service of a class. -/
def typedFile (ctx : Context) (c : ClassNode) : TypedFile where
  group := .services
  name := c.name ++ "Service"
  imports := entityImports ctx c ++ ["java.util.List", "java.util.Optional"] ++
    JavaType.imports (valueTypes ctx c)
  code :=
    braced ("public interface " ++ c.serviceUse)
      (lines [""] ++ typedBasics c (ctx.entityKey c).javaType.use ++
        each (queries ctx c) fun q => lines ["", q.typedDeclaration c ++ ";"])

theorem artifact_typedFile (ctx : Context) (c : ClassNode) :
    (typedFile ctx c).artifact ctx = ⟨.services, c.name ++ "Service", service ctx c⟩ := by
  have hhead : ("public interface " ++ c.serviceUse : TypedLine).written =
      s!"public interface {c.name}Service" := (String.append_assoc ..).symm
  have hbody : (typedFile ctx c).code.written = (file ctx c).body := by
    simp only [typedFile, file, TypedCode.written_append, written_lines, List.map_cons,
      List.map_nil, TypedLine.written_append, TypedLine.written_text, List.cons_append,
      List.nil_append, written_braced, written_each, hhead, written_basics,
      Query.written_declaration]
    rfl
  exact TypedFile.artifact_eq hbody rfl rfl

section
variable {P : TypeUse → Prop} {ctx : Context} {c : ClassNode}
  (hentity : P (.generated .entities c.name))
include hentity

theorem allTypes_basics {key : TypedLine} (hkey : key.AllTypes P) :
    (typedBasics c key).AllTypes P := by
  simp (disch := first | exact rfl | decide) [typedBasics, isPlain_of_chars, hentity, hkey]

/-- The types in a service are the service, its entity, the type of the key, and those of the
parameters of its queries. -/
theorem allTypes_typedFile (hservice : P (.generated .services (c.name ++ "Service")))
    (hkey : P (.value (ctx.entityKey c).javaType))
    (hqueries : ∀ q ∈ queries ctx c, q.type.use.AllTypes P) :
    (typedFile ctx c).code.AllTypes P := by
  have hdeclarations : ∀ q ∈ queries ctx c, (q.typedDeclaration c).AllTypes P :=
    fun q hq => Query.allTypes_declaration hentity (hqueries q hq)
  have hbasics : (typedBasics c (ctx.entityKey c).javaType.use).AllTypes P :=
    allTypes_basics hentity hkey
  simpa (disch := first | exact rfl | decide) [typedFile, ClassNode.serviceUse, isPlain_of_chars,
    hservice,
    hbasics]
    using hdeclarations

end

/-! ## Implementations -/

/-- The type of a repository in a line. -/
def Access.use (a : Access) : TypedLine := Group.repositories.use a.type

/-- The implementation of the service of a class in a line. -/
def implementationUse (c : ClassNode) : TypedLine := Group.services.use (c.name ++ "ServiceImpl")

/-- The parameters of the constructor of an implementation. -/
def typedParameters (accesses : List Access) : TypedLine :=
  .joined ", " (accesses.map fun a => a.use ++ " " ++ .word a.field)

/-- The fields and the constructor of an implementation. -/
def typedWiring (c : ClassNode) (accesses : List Access) : TypedCode :=
  lines (accesses.map fun a => "private final " ++ a.use ++ " " ++ .word a.field ++ ";") ++
    lines [""] ++
    braced ("public " ++ implementationUse c ++ "(" ++ typedParameters accesses ++ ")")
      (lines (accesses.map fun a => "this." ++ .word a.field ++ " = " ++ .word a.field ++ ";")) ++
    lines [""]

theorem written_wiring (c : ClassNode) (accesses : List Access) :
    (typedWiring c accesses).written = wiring c accesses := by
  let parameters := joinTexts ", " (accesses.map fun a => s!"{a.type} {a.field}")
  have hparameters : (typedParameters accesses).written = parameters := by
    rw [typedParameters, TypedLine.written_joined, List.map_map]
    rfl
  have hhead : ("public " ++ implementationUse c ++ "(" ++ typedParameters accesses ++
        ")").written =
      s!"public {c.name}ServiceImpl({parameters})" := by
    have hsplit : "ServiceImpl" ++ "(" = "ServiceImpl(" := by decide
    rw [← hparameters]
    exact congrArg (· ++ _ ++ ")") (append_suffix hsplit "public " c.name)
  simp only [typedWiring, wiring, TypedCode.written_append, written_lines, written_braced, hhead,
    List.map_map]
  rfl

/-- An implementation of an operation that changes nothing. -/
def typedReading (head result : TypedLine) : TypedCode :=
  lines ["@Override", readOnly] ++ braced head (lines ["return " ++ result ++ ";"])

/-- An implementation of an operation that changes something. -/
def typedWriting (head : TypedLine) (body : TypedCode) : TypedCode :=
  lines ["@Override"] ++ braced head body

/-- The implementation of an update, which may be partial. -/
def typedUpdating (c : ClassNode) (key : TypedLine)
    (repository method isPartial notFound : String) : TypedCode :=
  typedWriting
    ("public " ++ c.entityUse ++ " " ++ method ++ "(" ++ key ++ " id, " ++ c.entityUse ++
      " entity)")
    (lines ["validateEntity(entity);", "return " ++ .word repository ++ ".findById(id)",
        "        .map(existing -> \x7b"] ++
      indented 3
        (lines ["updateEntityFields(existing, entity, " ++ isPartial ++ ");",
          "resolveForeignKeys(existing);", "return " ++ .word repository ++ ".save(existing);"]) ++
      lines ["        \x7d)",
        "        .orElseThrow(() -> new EntityNotFoundException(" ++ .word notFound ++ "));"])

/-- The implementations of the operations that every service has. -/
def typedBasicImplementations (c : ClassNode) (key : TypedLine) (repository : String) : TypedCode :=
  let notFound := s!"\"{c.name} not found with id \" + id"
  template margin 0 <|
    typedReading ("public List<" ++ c.entityUse ++ "> findAll()")
        (.word repository ++ ".findAll()") ++
      lines [""] ++
      typedReading ("public Optional<" ++ c.entityUse ++ "> findById(" ++ key ++ " id)")
        (.word repository ++ ".findById(id)") ++
      lines [""] ++
      typedWriting ("public " ++ c.entityUse ++ " create(" ++ c.entityUse ++ " entity)")
        (lines ["validateEntity(entity);", "resolveForeignKeys(entity);",
          "return " ++ .word repository ++ ".save(entity);"]) ++
      lines [""] ++ typedUpdating c key repository "update" "false" notFound ++
      lines [""] ++ typedUpdating c key repository "partialUpdate" "true" notFound ++
      lines [""] ++
      typedWriting ("public void delete(" ++ key ++ " id)")
        (braced ("if (!" ++ .word repository ++ ".existsById(id))")
            (lines ["throw new EntityNotFoundException(" ++ .word notFound ++ ");"]) ++
          lines [.word repository ++ ".deleteById(id);"]) ++
      lines [""] ++
      typedReading ("public boolean existsById(" ++ key ++ " id)")
        (.word repository ++ ".existsById(id)") ++
      lines [""] ++ typedReading "public long count()" (.word repository ++ ".count()")

theorem written_basicImplementations (c : ClassNode) (key : TypedLine) (repository : String) :
    (typedBasicImplementations c key repository).written =
      basicImplementations c key.written repository := rfl

/-- The implementation of a query. -/
def typedQueryImplementation (c : ClassNode) (repository : String) (q : Query) : TypedCode :=
  typedReading ("public " ++ q.typedDeclaration c)
    (.word repository ++ "." ++ .word q.name ++ "(" ++ .word q.argument ++ ")")

theorem written_queryImplementation (c : ClassNode) (repository : String) (q : Query) :
    (typedQueryImplementation c repository q).written = queryImplementation c repository q := by
  rw [queryImplementation, ← Query.written_declaration]
  rfl

/-- The method that refuses a missing entity. -/
def typedValidation (c : ClassNode) : TypedCode :=
  template margin 0 <|
    braced ("private void validateEntity(" ++ c.entityUse ++ " entity)")
      (braced "if (entity == null)"
        (lines [.word s!"throw new IllegalArgumentException(\"{c.name} must not be null\");"]))

/-- The code that copies a field. -/
def typedCopyField (c : ClassNode) (field : String) : TypedCode :=
  let read : AccessorCall := ⟨c, .entity, .read, field⟩
  let write : AccessorCall := ⟨c, .entity, .write, field⟩
  let value : TypedLine := .call read "incoming"
  braced ("if (!partial || " ++ value ++ " != null)") (lines [.call write "existing" value ++ ";"])

/-- The method that copies the fields of an entity to another. -/
def typedCopying (c : ClassNode) (fields : List String) : TypedCode :=
  braced
    ("private void updateEntityFields(" ++ c.entityUse ++ " existing, " ++ c.entityUse ++
      " incoming, boolean partial)")
    (each fields (typedCopyField c))

theorem written_copyField (c : ClassNode) (field : String) :
    (typedCopyField c field).written = (copyField c field).written := by
  simp only [copyField, Statements.written_braced, Statements.written_cons,
    Statements.written_nil, Line.written_append, Line.written_text, AccessorCall.written_code]
  rfl

theorem written_copying (c : ClassNode) (fields : List String) :
    (typedCopying c fields).written = copying c fields := by
  simp only [copying, copyCode, Statements.written_flatMap, ← written_copyField, ← written_each]
  rfl

/-- The code that loads the entity that a reference leads to. -/
def typedLoadReference (c : ClassNode) (repository : String) (related : List Access)
    (r : ReferenceMember) : TypedCode :=
  let target := r.target.entityUse
  let access := ((related.find? (·.entity = r.target.name)).map (·.field)).getD repository
  let stub : TypedLine := .word (r.fieldName ++ "Ref")
  let id : TypedLine := .call (keyRead r) stub
  let value : TypedLine := .call (referenceRead c r) "entity"
  lines [target ++ " " ++ stub ++ " = " ++ value ++ ";"] ++
    braced ("if (" ++ stub ++ " != null)")
      (lines ["if (" ++ id ++ " != null) \x7b"] ++
        indented 1
          (lines [target ++ " loaded = " ++ .word access ++ ".findById(" ++ id ++ ")",
            "        .orElseThrow(() -> new EntityNotFoundException(",
            .word s!"                \"Related {r.target.name} not found with id \" + " ++ id ++
              "));",
            .call (referenceWrite c r) "entity" "loaded" ++ ";"]) ++
        braced "\x7d else" (lines [.call (referenceWrite c r) "entity" "null" ++ ";"]))

theorem written_loadReference (c : ClassNode) (repository : String) (related : List Access)
    (r : ReferenceMember) :
    (typedLoadReference c repository related r).written =
      (loadReference c repository related r).written := by
  simp only [loadReference, Statements.written_append, Statements.written_braced,
    Statements.written_indented, Statements.written_cons, Statements.written_nil,
    Line.written_append, Line.written_text, AccessorCall.written_code]
  rfl

/-- The method that loads the entities that an entity references. -/
def typedLoading (c : ClassNode) (repository : String) (related : List Access)
    (references : List ReferenceMember) : TypedCode :=
  braced ("private void resolveForeignKeys(" ++ c.entityUse ++ " entity)")
    (each references fun r => template loadMargin 0 (typedLoadReference c repository related r))

theorem written_loading (c : ClassNode) (repository : String) (related : List Access)
    (references : List ReferenceMember) :
    (typedLoading c repository related references).written =
      loading c repository related references := by
  simp only [typedLoading, loading, written_braced, written_each, written_template,
    written_loadReference]
  rfl

/-- The file of the implementation of the service of a class. -/
def typedImplementation (ctx : Context) (c : ClassNode) : TypedFile where
  group := .services
  name := c.name ++ "ServiceImpl"
  imports := implementationImports ctx c (resolved ctx c).value
    (Access.of c.name :: relatedAccess c (resolved ctx c).value)
  code :=
    let references := (resolved ctx c).value
    let own := Access.of c.name
    let related := relatedAccess c references
    lines ["@Service", "@Transactional"] ++
      braced ("public class " ++ implementationUse c ++ " implements " ++ c.serviceUse)
        (lines [""] ++ typedWiring c (own :: related) ++
          typedBasicImplementations c (ctx.entityKey c).javaType.use own.field ++
          each (queries ctx c) (fun q => lines [""] ++ typedQueryImplementation c own.field q) ++
          lines [""] ++ typedValidation c ++ lines [""] ++ typedCopying c (copied ctx c).value ++
          lines [""] ++ typedLoading c own.field related references)

theorem artifact_typedImplementation (ctx : Context) (c : ClassNode) :
    (typedImplementation ctx c).artifact ctx =
      ⟨.services, c.name ++ "ServiceImpl", (serviceImplementation ctx c).value⟩ := by
  have hhead :
      ("public class " ++ implementationUse c ++ " implements " ++ c.serviceUse).written =
        s!"public class {c.name}ServiceImpl implements {c.name}Service" := by
    have hsplit : "ServiceImpl" ++ " implements " = "ServiceImpl implements " := by decide
    refine Eq.trans (String.append_assoc ..).symm ?_
    exact congrArg (· ++ c.name ++ "Service") (append_suffix hsplit "public class " c.name)
  have hvalidation : (typedValidation c).written = validation c := rfl
  have hbody :
      (typedImplementation ctx c).code.written = (implementationFile ctx c).value.body := by
    simp only [typedImplementation, TypedCode.written_append, written_lines, List.map_cons,
      List.map_nil, TypedLine.written_text, List.cons_append, List.nil_append, written_braced,
      written_each, hhead, written_wiring, written_basicImplementations,
      written_queryImplementation, hvalidation, written_copying, written_loading]
    rfl
  exact TypedFile.artifact_eq hbody rfl rfl

section
variable {P : TypeUse → Prop} {ctx : Context} {c : ClassNode}

@[simp] theorem allTypes_reading (head result : TypedLine) :
    (typedReading head result).AllTypes P ↔ head.AllTypes P ∧ result.AllTypes P := by
  have hreadOnly : isPlain readOnly = true :=
    isPlain_of_chars (show readOnly = _ from rfl) (by decide) (by decide)
  simp (disch := first | exact rfl | decide) [typedReading, isPlain_of_chars, hreadOnly]

@[simp] theorem allTypes_writing (head : TypedLine) (body : TypedCode) :
    (typedWriting head body).AllTypes P ↔ head.AllTypes P ∧ body.AllTypes P := by
  simp (disch := first | exact rfl | decide) [typedWriting, isPlain_of_chars]

theorem allTypes_wiring (himplementation : P (.generated .services (c.name ++ "ServiceImpl")))
    {accesses : List Access} (haccesses : ∀ a ∈ accesses, P (.generated .repositories a.type)) :
    (typedWiring c accesses).AllTypes P := by
  have huses : ∀ a ∈ accesses, a.use.AllTypes P := haccesses
  have hparameters : (typedParameters accesses).AllTypes P := by
    refine TypedLine.allTypes_joined (by decide) (List.forall_mem_map.2 fun a ha => ?_)
    simp (disch := first | exact rfl | decide) [isPlain_of_chars, huses a ha]
  simpa (disch := first | exact rfl | decide) [typedWiring, implementationUse, isPlain_of_chars,
    himplementation, hparameters]
    using huses

theorem allTypes_basicImplementations (hentity : P (.generated .entities c.name))
    {key : TypedLine} (hkey : key.AllTypes P) (repository : String) :
    (typedBasicImplementations c key repository).AllTypes P := by
  simp (disch := first | exact rfl | decide) [typedBasicImplementations, typedUpdating,
    isPlain_of_chars, hentity, hkey]

theorem allTypes_loadReference {r : ReferenceMember}
    (htarget : P (.generated .entities r.target.name)) (repository : String)
    (related : List Access) : (typedLoadReference c repository related r).AllTypes P := by
  simp (disch := first | exact rfl | decide) [typedLoadReference, isPlain_of_chars, htarget]

/-- The types in the implementation of a service are the implementation, the service, the entity,
the type of the key, those of the parameters of the queries, the repositories that are used, and the
entities that are loaded. -/
theorem allTypes_typedImplementation
    (himplementation : P (.generated .services (c.name ++ "ServiceImpl")))
    (hservice : P (.generated .services (c.name ++ "Service")))
    (hentity : P (.generated .entities c.name))
    (hkey : P (.value (ctx.entityKey c).javaType))
    (hqueries : ∀ q ∈ queries ctx c, q.type.use.AllTypes P)
    (haccesses : ∀ a ∈ Access.of c.name :: relatedAccess c (resolved ctx c).value,
      P (.generated .repositories a.type))
    (htargets : ∀ r ∈ (resolved ctx c).value, P (.generated .entities r.target.name)) :
    (typedImplementation ctx c).code.AllTypes P := by
  have hbasics (repository : String) :
      (typedBasicImplementations c (ctx.entityKey c).javaType.use repository).AllTypes P :=
    allTypes_basicImplementations hentity ((JavaType.allTypes_use P _).2 hkey) repository
  have himplementations : ∀ q ∈ queries ctx c, ∀ repository,
      (typedQueryImplementation c repository q).AllTypes P := by
    intro q hq repository
    have hdeclaration := Query.allTypes_declaration hentity (hqueries q hq)
    simp (disch := first | exact rfl | decide) [typedQueryImplementation, isPlain_of_chars,
      hdeclaration]
  have hvalidation : (typedValidation c).AllTypes P := by
    simp (disch := first | exact rfl | decide) [typedValidation, isPlain_of_chars, hentity]
  have hcopyField : ∀ field, (typedCopyField c field).AllTypes P := by
    intro field
    simp (disch := first | exact rfl | decide) [typedCopyField, isPlain_of_chars]
  have hcopying : (typedCopying c (copied ctx c).value).AllTypes P := by
    simp (disch := first | exact rfl | decide) [typedCopying, isPlain_of_chars, hentity, hcopyField]
  have hloads : ∀ r ∈ (resolved ctx c).value, ∀ repository related,
      (typedLoadReference c repository related r).AllTypes P :=
    fun r hr repository related => allTypes_loadReference (htargets r hr) repository related
  have hloading (repository : String) (related : List Access) :
      (typedLoading c repository related (resolved ctx c).value).AllTypes P := by
    simpa (disch := first | exact rfl | decide) [typedLoading, isPlain_of_chars, hentity]
      using fun r hr => hloads r hr repository related
  simpa (disch := first | exact rfl | decide) [typedImplementation, implementationUse,
    ClassNode.serviceUse,
    isPlain_of_chars, himplementation, hservice, hbasics, hvalidation, hcopying, hloading,
    allTypes_wiring himplementation haccesses]
    using fun q hq => himplementations q hq _

end

end Service

end Scaffold
