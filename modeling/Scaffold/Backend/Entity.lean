import Scaffold.Backend.Basic
import Scaffold.Java.Literal

/-!
# Entities

The entity of a class has a field with accessors for each member and for each collection that is
predicted for the class. A child class extends its parent and joins its table. For each reference
there is a setter that takes the bare key of the referenced entity, provided that the entity has a
setter for its key. A default value that does not fit the type of its field is left out, and one
that cannot be shown ends the generation.

`Entity.properties` lists the fields with their accessors, and the file takes the accessors from
there and from nowhere else.
-/

namespace Scaffold

open Naming Java Text

namespace Entity

/-! ## Fields and accessors -/

/-- The fields of an entity that have accessors, in the order of their accessors. -/
def properties (ctx : Context) (c : ClassNode) : List Property :=
  let members := ctx.membersOf c
  let prediction := ctx.prediction c
  members.scalars.map (fun m => ⟨m.fieldName, m.javaType.name⟩) ++
    members.references.map (fun r => ⟨r.fieldName, r.target.name⟩) ++
    prediction.oneToMany.map (fun l => ⟨l.fieldName, s!"List<{l.related.name}>"⟩) ++
    prediction.manyToMany.map (fun l => ⟨l.fieldName, s!"List<{l.related.name}>"⟩)

/-- The types of keys that the database generates. -/
def isGenerated (t : JavaType) : Bool := t = .long || t = .integer

/-- The annotations that a field has apart from that for its column. -/
def fieldAnnotations (m : ScalarMember) : Except Constraint.HugeLength (List String) :=
  if m.isPrimaryKey then
    .ok <| "@Id" ::
      if isGenerated m.javaType then ["@GeneratedValue(strategy = GenerationType.IDENTITY)"]
      else []
  else
    Constraint.annotations (some m.javaType) m.attr.sqlType
      (replaceUnderscores ' ' (snakeCase m.fieldName))

/-- The annotation for the column of a field. -/
def columnTag (m : ScalarMember) (length : Option Nat) : String :=
  let column := snakeCase m.attr.name
  let items := joinTexts ", " <|
    [s!"name = \"{column}\""] ++ (if m.isPrimaryKey then ["nullable = false"] else []) ++
      length.toList.map fun n => s!"length = {n}"
  s!"@Column({items})"

/-- The default value of a field, if it has one that counts: those of keys do not. -/
def defaultValue? (m : ScalarMember) : Option Json.Value :=
  if m.isPrimaryKey then none else m.attr.defaultValue

/-- Whether the default value of a field can be shown, if it has one that counts. -/
def hasShowableDefault (m : ScalarMember) : Bool := (defaultValue? m).all Json.Value.isShowable

/-- Fails at a default value that cannot be shown. -/
def checkDefault (m : ScalarMember) : Except Constraint.HugeLength Unit :=
  if hasShowableDefault m then .ok () else .error .default

/-- The part of a declaration that sets the default value, which can be shown. -/
def initializer (c : ClassNode) (m : ScalarMember) : Noted String :=
  match defaultValue? m with
  | none => return ""
  | some v =>
    match m.javaType.literal v with
    | some literal => return s!" = {literal}"
    | none => do
      Noted.note (.misfitDefault v.quote m.javaType.name) c.id m.attr.name
      return ""

/-- The declaration of the field of a scalar member. -/
def scalarField (c : ClassNode) (m : ScalarMember) : Generation Lines := do
  let annotations ← fieldAnnotations m
  let length ← Constraint.columnLength (some m.javaType) m.attr.sqlType
  checkDefault m
  let value ← initializer c m
  return annotations ++
    [columnTag m length, s!"private {m.javaType.name} {m.fieldName}{value};", ""]

/-- The declaration of the field of a reference member. -/
def referenceField (r : ReferenceMember) : Lines :=
  let column := snakeCase r.attr.name
  ["@ManyToOne(fetch = FetchType.LAZY)",
    s!"@JoinColumn(name = \"{column}\", nullable = true)",
    jsonIgnore [] 0,
    s!"private {r.target.name} {r.fieldName};",
    ""]

/-- The declaration of the field of a collection. -/
def listField (related field : String) : Lines :=
  [s!"private List<{related}> {field} = new ArrayList<>();", ""]

/-- The declaration of a one-to-many collection. -/
def oneToManyField (l : OneToMany) : Lines :=
  [s!"@OneToMany(mappedBy = \"{l.mappedBy}\", fetch = FetchType.LAZY, cascade = CascadeType.ALL)",
    jsonIgnore [l.mappedBy] 0] ++
    listField l.related.name l.fieldName

/-- The annotations for the end of a pair of many-to-many collections. -/
def pairAnnotations : PairEnd → Lines
  | .owner table =>
    ["@ManyToMany(fetch = FetchType.LAZY, cascade = \x7bCascadeType.PERSIST, " ++
        "CascadeType.MERGE\x7d)",
      "@JoinTable("] ++
      indented 1
        [s!"name = \"{table.name}\",",
          s!"joinColumns = @JoinColumn(name = \"{table.column}\"),",
          s!"inverseJoinColumns = @JoinColumn(name = \"{table.inverseColumn}\")"] ++
      [")"]
  | .inverse mappedBy =>
    [s!"@ManyToMany(mappedBy = \"{mappedBy}\", fetch = FetchType.LAZY)"]

/-- The declaration of a many-to-many collection. -/
def manyToManyField (l : ManyToMany) : Lines :=
  pairAnnotations l.pairEnd ++ [jsonIgnore [collectionField l.owner.name] 0] ++
    listField l.related.name l.fieldName

/-! ## Setters that take keys -/

/-- The call that sets the key of a referenced entity. -/
def keyWrite (r : ReferenceMember) : AccessorCall :=
  ⟨r.target, .entity, .write, r.targetKey.fieldName⟩

/-- The name of the setter of a reference that takes the key of the referenced entity. -/
def keySetterName (r : ReferenceMember) : String := setter r.fieldName ++ "FromId"

/-- The key of the entity that a reference leads to, made from the parameter of the setter. -/
def keyConversion? (r : ReferenceMember) : Option String :=
  JavaType.conversionTo? r.targetKey.javaType.name "idOrEntity"

/-- The diagnostic for a reference without a setter that takes the key: the referenced entity has
no setter for its key, or the key cannot be made from the parameter. -/
def keyObstacle? (ctx : Context) (c : ClassNode) (r : ReferenceMember) : Option Diagnostic :=
  match ctx.obstacle? [keyWrite r]
      ⟨.noKeySetter r.target.name (keyWrite r).method r.fieldName, some c.id,
        some r.fieldName⟩ with
  | some note => some note
  | none =>
    if (keyConversion? r).isSome then none
    else
      some ⟨.noConversion r.targetKey.javaType.name (keySetterName r), some c.id, some r.fieldName⟩

/-- The references of a class that have a setter which takes the key. -/
def keySetters (ctx : Context) (c : ClassNode) : Noted (List ReferenceMember) :=
  keepFree (keyObstacle? ctx c) (ctx.membersOf c).references

/-- The setter of a reference that takes the key of the referenced entity. -/
def keySetter (r : ReferenceMember) : Statements :=
  match keyConversion? r with
  | none => []
  | some conversion =>
    (s!"@JsonSetter(\"{r.fieldName}FromId\")" : Line) ::
      Statements.braced s!"public void {keySetterName r}(Object idOrEntity)"
        (Statements.braced "if (idOrEntity == null)" [s!"this.{r.fieldName} = null;", "return;"] ++
          ([s!"{r.target.name} related = new {r.target.name}();",
            (keyWrite r).code "related" conversion ++ ";",
            s!"this.{r.fieldName} = related;"] : Statements)) ++
      [("" : Line)]

/-- The setters of some references that take keys. -/
def keySetterCode (references : List ReferenceMember) : Statements := references.flatMap keySetter

/-! ## Files -/

/-- The imports of an entity. -/
def imports (ctx : Context) (c : ClassNode) : List String :=
  let members := ctx.membersOf c
  let prediction := ctx.prediction c
  ["jakarta.persistence.*", "jakarta.validation.constraints.*", "java.util.Objects",
    "com.fasterxml.jackson.annotation.JsonIgnoreProperties",
    "com.fasterxml.jackson.annotation.JsonSetter"] ++
    (if prediction.oneToMany = [] ∧ prediction.manyToMany = [] then []
      else ["java.util.List", "java.util.ArrayList"]) ++
    JavaType.imports
      (members.scalars.map (·.javaType) ++ members.references.map (·.targetKey.javaType))

/-- The annotations of an entity. -/
def annotations (ctx : Context) (c : ClassNode) : Lines :=
  let table := snakeCase c.name
  let joinColumn :=
    match ctx.hierarchy.parentOf c, c.primaryKeys with
    | some _, key :: _ =>
      let column := snakeCase key.name
      [s!"@PrimaryKeyJoinColumn(name = \"{column}\")"]
    | _, _ => []
  ["@Entity", s!"@Table(name = \"{table}\")"] ++
    (if ctx.hierarchy.isParent c then ["@Inheritance(strategy = InheritanceType.JOINED)"]
      else []) ++
    joinColumn

/-- The head of the class declaration. -/
def head (ctx : Context) (c : ClassNode) : String :=
  match ctx.hierarchy.parentOf c with
  | some parent => s!"public class {c.name} extends {parent.name}"
  | none => s!"public class {c.name}"

/-- The fields that equality goes by: the key, unless it is inherited. -/
def identity (ctx : Context) (c : ClassNode) : List String :=
  if (ctx.hierarchy.parentOf c).isSome then []
  else ((ctx.membersOf c).scalars.filter (·.isPrimaryKey)).map (·.fieldName)

/-- The source file of the entity of a class. -/
def file (ctx : Context) (c : ClassNode) : Generation SourceFile := do
  let members := ctx.membersOf c
  let prediction := ctx.prediction c
  let scalarFields ← members.scalars.mapM (scalarField c)
  let keySetters ← keySetters ctx c
  return {
    package := ctx.groupPackage .entities
    imports := imports ctx c
    body := annotations ctx c ++ braced (head ctx c)
      ([""] ++ scalarFields.flatten ++ members.references.flatMap referenceField ++
        prediction.oneToMany.flatMap oneToManyField ++
        prediction.manyToMany.flatMap manyToManyField ++
        braced s!"public {c.name}()" [] ++ [""] ++
        (properties ctx c).flatMap Property.code ++ (keySetterCode keySetters).written ++
        equalsAndHash c.name (identity ctx c) 0) }

end Entity

/-- The text of the entity of a class. -/
def entity (ctx : Context) (c : ClassNode) : Generation String :=
  SourceFile.text <$> Entity.file ctx c

end Scaffold
