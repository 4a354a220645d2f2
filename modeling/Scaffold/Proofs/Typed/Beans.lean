import Scaffold.Proofs.Ownership
import Scaffold.Proofs.Typed.Code

/-!
# Entities and transfer objects with their types

The files of entities, join entities and transfer objects, put together as the generators put them
together, with the types told apart. A `typed…` is written like the piece of code that it is named
after, and the file of a class is the artifact that is generated for it. In a transfer object and in
an entity there are the types that the fields have, and those of keys: the setter of a reference
that takes a key makes a value of its type.

Main statements: `Entity.entityArtifact_eq`, `JoinEntity.artifact_typedFile` and
`Dto.artifact_typedFile` (what is generated), `Entity.allTypes_typedCode`,
`JoinEntity.allTypes_typedFile` and `Dto.allTypes_typedFile` (the types in it).
-/

namespace Scaffold

open Naming Java Text

/-! ## Members of classes -/

namespace TypedCode

/-- The accessors of a field of a type. -/
def accessors (field : String) (type : TypedLine) : TypedCode :=
  indented 0 <|
    braced ("public " ++ type ++ " " ++ .word (getter field) ++ "()")
        (lines ["return " ++ .word field ++ ";"]) ++
      lines [""] ++
      braced ("public void " ++ .word (setter field) ++ "(" ++ type ++ " " ++ .word field ++ ")")
        (lines ["this." ++ .word field ++ " = " ++ .word field ++ ";"]) ++
      lines [""]

theorem written_accessors (field : String) (type : TypedLine) :
    (accessors field type).written = (Property.mk field type.written).code := rfl

/-- The methods for equality and hashing. -/
def equalsAndHash (type : TypedLine) (fields : List String) : TypedCode :=
  let comparison := joinTexts " && " (fields.map fun f => s!"Objects.equals({f}, that.{f})")
  let arguments := joinTexts ", " fields
  indented 0 <|
    lines ["@Override"] ++
      braced "public boolean equals(Object o)"
        (lines ["if (this == o) return true;",
          "if (o == null || getClass() != o.getClass()) return false;"] ++
          if fields.isEmpty then lines ["return super.equals(o);"]
          else
            lines [type ++ " that = (" ++ type ++ ") o;", "return " ++ .word comparison ++ ";"]) ++
      lines ["", "@Override"] ++
      braced "public int hashCode()"
        (if fields.isEmpty then lines ["return super.hashCode();"]
          else lines ["return Objects.hash(" ++ .word arguments ++ ");"]) ++
      lines [""]

theorem written_equalsAndHash (type : TypedLine) (fields : List String) :
    (equalsAndHash type fields).written = Java.equalsAndHash type.written fields 0 := by
  cases fields <;> rfl

section
variable {P : TypeUse → Prop}

@[simp] theorem allTypes_accessors (field : String) (type : TypedLine) :
    (accessors field type).AllTypes P ↔ type.AllTypes P := by
  simp (disch := first | exact rfl | decide) [TypedCode.accessors, isPlain_of_chars]

theorem allTypes_equalsAndHash {type : TypedLine} (htype : type.AllTypes P)
    (fields : List String) : (equalsAndHash type fields).AllTypes P := by
  cases fields <;>
    simp (disch := first | exact rfl | decide) [TypedCode.equalsAndHash, isPlain_of_chars, htype]

end

end TypedCode

open TypedCode

/-! ## Entities -/

namespace Entity

/-- The fields of an entity that have accessors, with their types. -/
def typedProperties (ctx : Context) (c : ClassNode) : List (String × TypedLine) :=
  let members := ctx.membersOf c
  let prediction := ctx.prediction c
  members.scalars.map (fun m => (m.fieldName, m.javaType.use)) ++
    members.references.map (fun r => (r.fieldName, r.target.entityUse)) ++
    prediction.oneToMany.map (fun l => (l.fieldName, l.related.entityUse.list)) ++
    prediction.manyToMany.map (fun l => (l.fieldName, l.related.entityUse.list))

theorem properties_eq (ctx : Context) (c : ClassNode) :
    properties ctx c = (typedProperties ctx c).map fun p => ⟨p.1, p.2.written⟩ := by
  simp only [properties, typedProperties, List.map_append, List.map_map]
  rfl

/-- The declaration of the field of a scalar member. -/
def typedScalarField (c : ClassNode) (m : ScalarMember) :
    Except Constraint.HugeLength TypedCode := do
  let annotations ← fieldAnnotations m
  let length ← Constraint.columnLength (some m.javaType) m.attr.sqlType
  checkDefault m
  return words (annotations ++ [columnTag m length]) ++
    lines ["private " ++ m.javaType.use ++ " " ++ .word m.fieldName ++
      .word (initializer c m).value ++ ";", ""]

theorem value_scalarField (c : ClassNode) (m : ScalarMember) :
    (scalarField c m).run.value = written <$> typedScalarField c m := by
  unfold scalarField typedScalarField
  rw [Generation.value_bind]
  cases fieldAnnotations m with
  | error e => rfl
  | ok annotations =>
    cases Constraint.columnLength (some m.javaType) m.attr.sqlType with
    | error e => rfl
    | ok length =>
      cases checkDefault m with
      | error e => rfl
      | ok =>
        refine congrArg Except.ok ?_
        simp
        rfl

/-- The declaration of the field of a reference member. -/
def typedReferenceField (r : ReferenceMember) : TypedCode :=
  let column := snakeCase r.attr.name
  lines ["@ManyToOne(fetch = FetchType.LAZY)",
    .word s!"@JoinColumn(name = \"{column}\", nullable = true)",
    .word (jsonIgnore [] 0),
    "private " ++ r.target.entityUse ++ " " ++ .word r.fieldName ++ ";",
    ""]

theorem written_referenceField (r : ReferenceMember) :
    (typedReferenceField r).written = referenceField r := rfl

/-- The declaration of the field of a collection. -/
def typedListField (related : ClassNode) (field : String) : TypedCode :=
  lines ["private List<" ++ related.entityUse ++ "> " ++ .word field ++ " = new ArrayList<>();", ""]

/-- The declaration of a one-to-many collection. -/
def typedOneToManyField (l : OneToMany) : TypedCode :=
  words [
    s!"@OneToMany(mappedBy = \"{l.mappedBy}\", fetch = FetchType.LAZY, cascade = CascadeType.ALL)",
    jsonIgnore [l.mappedBy] 0] ++ typedListField l.related l.fieldName

theorem written_oneToManyField (l : OneToMany) :
    (typedOneToManyField l).written = oneToManyField l := rfl

/-- The declaration of a many-to-many collection. -/
def typedManyToManyField (l : ManyToMany) : TypedCode :=
  words (pairAnnotations l.pairEnd ++ [jsonIgnore [collectionField l.owner.name] 0]) ++
    typedListField l.related l.fieldName

theorem written_manyToManyField (l : ManyToMany) :
    (typedManyToManyField l).written = manyToManyField l := by
  rw [typedManyToManyField, written_append, written_words]
  rfl

/-- The parameter of a setter that takes a key. -/
def keyParameter : TypedLine := "idOrEntity"

/-- The expression that makes a number from the parameter of a setter. -/
def typedNumberConversion (unboxing parsing : String) : TypedLine :=
  keyParameter ++ " instanceof Number ? ((Number) " ++ keyParameter ++ ")." ++ unboxing ++
    "() : " ++ parsing ++ "(" ++ keyParameter ++ ".toString())"

/-- The expression that makes a value of a type from the parameter of a setter. -/
def typedConversion : JavaType → TypedLine
  | .long => typedNumberConversion "longValue" "Long.parseLong"
  | .integer => typedNumberConversion "intValue" "Integer.parseInt"
  | .double => typedNumberConversion "doubleValue" "Double.parseDouble"
  | .float => typedNumberConversion "floatValue" "Float.parseFloat"
  | .string => keyParameter ++ ".toString()"
  | .boolean => "Boolean.valueOf(" ++ keyParameter ++ ".toString())"
  | .bigDecimal => "new " ++ JavaType.bigDecimal.use ++ "(" ++ keyParameter ++ ".toString())"
  | .localDate => JavaType.localDate.use ++ ".parse(" ++ keyParameter ++ ".toString())"
  | .localDateTime => JavaType.localDateTime.use ++ ".parse(" ++ keyParameter ++ ".toString())"

theorem written_conversion (t : JavaType) :
    (typedConversion t).written = t.conversion "idOrEntity" := by
  cases t <;> rfl

/-- The setter of a reference that takes the key of the referenced entity. -/
def typedKeySetter (r : ReferenceMember) : TypedCode :=
  lines [.word s!"@JsonSetter(\"{r.fieldName}FromId\")"] ++
    braced ("public void " ++ .word (keySetterName r) ++ "(Object idOrEntity)")
      (braced "if (idOrEntity == null)"
          (lines ["this." ++ .word r.fieldName ++ " = null;", "return;"]) ++
        lines [r.target.entityUse ++ " related = new " ++ r.target.entityUse ++ "();",
          .call (keyWrite r) "related" (typedConversion r.targetKey.javaType) ++ ";",
          "this." ++ .word r.fieldName ++ " = related;"]) ++
    lines [""]

theorem written_keySetter (r : ReferenceMember) :
    (typedKeySetter r).written = (keySetter r).written := by
  rw [keySetter, keyConversion?, JavaType.conversionTo?_name]
  simp only [Statements.written_cons, Statements.written_append, Statements.written_braced,
    Statements.written_nil, Line.written_append, Line.written_text, AccessorCall.written_code,
    ← written_conversion]
  rfl

/-- The head of the class declaration. -/
def typedHead (ctx : Context) (c : ClassNode) : TypedLine :=
  match ctx.hierarchy.parentOf c with
  | some parent => "public class " ++ c.entityUse ++ " extends " ++ parent.entityUse
  | none => "public class " ++ c.entityUse

theorem written_head (ctx : Context) (c : ClassNode) :
    (typedHead ctx c).written = head ctx c := by
  unfold typedHead head
  cases ctx.hierarchy.parentOf c <;> rfl

/-- What follows the imports of an entity, given the declarations of the scalar members. -/
def typedCode (ctx : Context) (c : ClassNode) (scalarFields : List TypedCode) : TypedCode :=
  words (annotations ctx c) ++ braced (typedHead ctx c)
    (lines [""] ++ each scalarFields id ++ each (ctx.membersOf c).references typedReferenceField ++
      each (ctx.prediction c).oneToMany typedOneToManyField ++
      each (ctx.prediction c).manyToMany typedManyToManyField ++
      braced ("public " ++ c.entityUse ++ "()") (lines []) ++ lines [""] ++
      each (typedProperties ctx c) (fun p => accessors p.1 p.2) ++
      each (keySetters ctx c).value typedKeySetter ++
      equalsAndHash c.entityUse (identity ctx c))

/-- The file of the entity of a class. -/
def typedFile (ctx : Context) (c : ClassNode) : Except Constraint.HugeLength TypedFile :=
  (fun scalarFields => ⟨.entities, c.name, imports ctx c, typedCode ctx c scalarFields⟩) <$>
    (ctx.membersOf c).scalars.mapM (typedScalarField c)

theorem written_code (ctx : Context) (c : ClassNode) (scalarFields : List TypedCode) :
    (typedCode ctx c scalarFields).written =
      annotations ctx c ++ Java.braced (head ctx c)
        ([""] ++ (scalarFields.map written).flatten ++
          (ctx.membersOf c).references.flatMap referenceField ++
          (ctx.prediction c).oneToMany.flatMap oneToManyField ++
          (ctx.prediction c).manyToMany.flatMap manyToManyField ++
          Java.braced s!"public {c.name}()" [] ++ [""] ++
          (properties ctx c).flatMap Property.code ++
          (keySetterCode (keySetters ctx c).value).written ++
          Java.equalsAndHash c.name (identity ctx c) 0) := by
  have hsetters : (keySetterCode (keySetters ctx c).value).written =
      (keySetters ctx c).value.flatMap fun r => (keySetter r).written :=
    Statements.written_flatMap _ _
  simp only [typedCode, TypedCode.written_append, written_braced, written_words, written_each,
    written_accessors, written_equalsAndHash, written_keySetter, written_head,
    written_referenceField, written_oneToManyField, written_manyToManyField, properties_eq,
    List.flatMap_map, hsetters, ← List.flatMap_def]
  rfl

/-- The entity of a class is what its code with types writes. -/
theorem entityArtifact_eq (ctx : Context) (c : ClassNode) :
    ctx.entityArtifact c = TypedFile.artifact ctx <$> typedFile ctx c := by
  have hfields : ((ctx.membersOf c).scalars.mapM (scalarField c)).run.value =
      List.map written <$> (ctx.membersOf c).scalars.mapM (typedScalarField c) := by
    rw [Generation.value_mapM, map_mapM_except]
    simp only [value_scalarField]
  unfold Context.entityArtifact entity file typedFile
  rw [Generation.value_map, Generation.value_bind, hfields]
  cases (ctx.membersOf c).scalars.mapM (typedScalarField c) with
  | error e => rfl
  | ok fields =>
    have hfile :
        TypedFile.artifact ctx ⟨.entities, c.name, imports ctx c, typedCode ctx c fields⟩ =
          ⟨.entities, c.name,
            SourceFile.text ⟨ctx.groupPackage .entities, imports ctx c, _⟩⟩ :=
      TypedFile.artifact_eq (written_code ctx c fields) rfl rfl
    exact congrArg Except.ok hfile.symm

section
variable {P : TypeUse → Prop} {ctx : Context} {c : ClassNode}

/-- The type in the declaration of a field is that of its column. -/
theorem allTypes_scalarField {m : ScalarMember} {code : TypedCode}
    (hcode : typedScalarField c m = .ok code) (htype : P (.value m.javaType)) :
    code.AllTypes P := by
  unfold typedScalarField at hcode
  cases hannotations : fieldAnnotations m with
  | error e =>
    rw [hannotations] at hcode
    cases hcode
  | ok annotations =>
    cases hlength : Constraint.columnLength (some m.javaType) m.attr.sqlType with
    | error e =>
      rw [hannotations, hlength] at hcode
      cases hcode
    | ok length =>
      cases hdefault : checkDefault m with
      | error e =>
        rw [hannotations, hlength, hdefault] at hcode
        cases hcode
      | ok =>
        rw [hannotations, hlength, hdefault] at hcode
        obtain rfl := Except.ok.inj hcode
        simp (disch := first | exact rfl | decide) [isPlain_of_chars, htype]

theorem allTypes_conversion {t : JavaType} (ht : P (.value t)) :
    (typedConversion t).AllTypes P := by
  cases t <;>
    simp (disch := first | exact rfl | decide) [typedConversion, typedNumberConversion,
      keyParameter, isPlain_of_chars, ht]

variable (hentities : ∀ name, P (.generated .entities name))
include hentities

theorem allTypes_keySetter {r : ReferenceMember} (hkey : P (.value r.targetKey.javaType)) :
    (typedKeySetter r).AllTypes P := by
  simp (disch := first | exact rfl | decide) [typedKeySetter, isPlain_of_chars, hentities,
    allTypes_conversion hkey]

theorem allTypes_head : (typedHead ctx c).AllTypes P := by
  unfold typedHead
  cases ctx.hierarchy.parentOf c <;>
    simp (disch := first | exact rfl | decide) [isPlain_of_chars, hentities]

theorem allTypes_referenceField (r : ReferenceMember) : (typedReferenceField r).AllTypes P := by
  simp (disch := first | exact rfl | decide) [typedReferenceField, isPlain_of_chars, hentities]

theorem allTypes_listField (related : ClassNode) (field : String) :
    (typedListField related field).AllTypes P := by
  simp (disch := first | exact rfl | decide) [typedListField, isPlain_of_chars, hentities]

theorem allTypes_typedProperties
    (hscalars : ∀ m ∈ (ctx.membersOf c).scalars, P (.value m.javaType)) :
    ∀ p ∈ typedProperties ctx c, p.2.AllTypes P := by
  simp only [typedProperties, List.forall_mem_append, List.forall_mem_map]
  exact ⟨⟨⟨hscalars, fun r _ => hentities r.target.name⟩,
    fun l _ => TypedLine.allTypes_list.2 (hentities l.related.name)⟩,
    fun l _ => TypedLine.allTypes_list.2 (hentities l.related.name)⟩

/-- The types in an entity are those of its columns, of the keys of the referenced entities, and
entities. -/
theorem allTypes_typedCode {scalarFields : List TypedCode}
    (hfields : ∀ code ∈ scalarFields, code.AllTypes P)
    (hscalars : ∀ m ∈ (ctx.membersOf c).scalars, P (.value m.javaType))
    (hkeys : ∀ r ∈ (ctx.membersOf c).references, P (.value r.targetKey.javaType)) :
    (typedCode ctx c scalarFields).AllTypes P := by
  have hsetters : ∀ r ∈ (keySetters ctx c).value, (typedKeySetter r).AllTypes P :=
    fun r hr => allTypes_keySetter hentities (hkeys r (mem_keepFree.1 hr).1)
  have hequals : (equalsAndHash c.entityUse (identity ctx c)).AllTypes P :=
    allTypes_equalsAndHash ((ClassNode.allTypes_entityUse P c).2 (hentities c.name)) _
  have hone : ∀ l, (typedOneToManyField l).AllTypes P := fun l =>
    ⟨allTypes_words P _, allTypes_listField hentities _ _⟩
  have hmany : ∀ l, (typedManyToManyField l).AllTypes P := fun l =>
    ⟨allTypes_words P _, allTypes_listField hentities _ _⟩
  simpa (disch := first | exact rfl | decide) [typedCode, isPlain_of_chars, hentities,
    allTypes_head hentities, allTypes_referenceField hentities, hone, hmany, hequals]
    using ⟨⟨hfields, fun name line h => allTypes_typedProperties hentities hscalars _ h⟩,
      hsetters⟩

end

end Entity

/-! ## Join entities -/

namespace JoinEntity

/-- The class of the composite key. It is declared in the join entity. -/
def keyUse (t : AssociationTable) : TypedLine := Group.entities.use (keyClass t)

/-- The join entity itself. -/
def tableUse (t : AssociationTable) : TypedLine := Group.entities.use t.name

/-- The declaration of the field of a reference. -/
def typedRelationField (r : Relation) : TypedCode :=
  let column := snakeCase r.column.attr.name
  lines ["@ManyToOne(fetch = FetchType.LAZY)",
    .word s!"@MapsId(\"{r.column.keyField}\")",
    .word s!"@JoinColumn(name = \"{column}\")",
    .word (jsonIgnore [] 0),
    "private " ++ r.target.entityUse ++ " " ++ .word r.column.relationField ++ ";",
    ""]

theorem written_relationField (r : Relation) :
    (typedRelationField r).written = relationField r := rfl

/-- The code that sets the part of the key that belongs to a reference. -/
def typedSyncKey (t : AssociationTable) (r : Relation) : TypedCode :=
  let field := r.column.relationField
  braced ("if (" ++ .word field ++ " != null)")
    (braced "if (this.id == null)" (lines ["this.id = new " ++ keyUse t ++ "();"]) ++
      lines ["this.id." ++ .word (setter r.column.keyField) ++ "(" ++
        .call r.keyRead (.word field) ++ ");"])

/-- What the setter of a reference does beside setting it. -/
def typedSyncCode (ctx : Context) (t : AssociationTable) (r : Relation) : TypedCode :=
  if (syncObstacle? ctx t r).isNone then typedSyncKey t r else lines []

theorem written_syncCode (ctx : Context) (t : AssociationTable) (r : Relation) :
    (typedSyncCode ctx t r).written = (syncCode ctx t r).written := by
  unfold typedSyncCode syncCode
  split
  · simp only [syncKey, Statements.written_cons, Statements.written_append,
      Statements.written_braced, Statements.written_nil, Line.written_append, Line.written_text,
      AccessorCall.written_code]
    rfl
  · rfl

/-- The accessors of a reference. -/
def typedRelationAccessors (ctx : Context) (t : AssociationTable) (r : Relation) : TypedCode :=
  let field := r.column.relationField
  braced ("public " ++ r.target.entityUse ++ " " ++ .word (getter field) ++ "()")
      (lines ["return " ++ .word field ++ ";"]) ++
    lines [""] ++
    braced ("public void " ++ .word (setter field) ++ "(" ++ r.target.entityUse ++ " " ++
        .word field ++ ")")
      (lines ["this." ++ .word field ++ " = " ++ .word field ++ ";"] ++ typedSyncCode ctx t r) ++
    lines [""]

theorem written_relationAccessors (ctx : Context) (t : AssociationTable) (r : Relation) :
    (typedRelationAccessors ctx t r).written = relationAccessors ctx t r := by
  simp only [typedRelationAccessors, written_append, written_braced, written_syncCode]
  rfl

/-- The declaration of the field of a further attribute. -/
def typedExtraField (e : Extra) : TypedCode :=
  words [if e.javaType = .string then "@NotBlank" else "@NotNull",
      s!"@Column(name = \"{e.column}\")"] ++
    lines ["private " ++ e.javaType.use ++ " " ++ .word e.field ++ ";", ""]

theorem written_extraField (e : Extra) : (typedExtraField e).written = extraField e := rfl

/-- The declaration of the field of a part of the key. -/
def typedKeyField (k : KeyColumn) : TypedCode :=
  let column := snakeCase k.attr.name
  lines [.word s!"@Column(name = \"{column}\")",
    "private " ++ k.javaType.use ++ " " ++ .word k.keyField ++ ";", ""]

/-- The parameters of the constructor of a key. -/
def typedParameters (columns : List KeyColumn) : TypedLine :=
  .joined ", " (columns.map fun k => k.javaType.use ++ " " ++ .word k.keyField)

/-- The class of the composite key. -/
def typedKeyClass (t : AssociationTable) (columns : List KeyColumn) : TypedCode :=
  let fullConstructor :=
    if columns.isEmpty then lines []
    else
      braced ("public " ++ keyUse t ++ "(" ++ typedParameters columns ++ ")")
        (lines (columns.map fun k =>
          "this." ++ .word k.keyField ++ " = " ++ .word k.keyField ++ ";")) ++
        lines [""]
  lines ["@Embeddable"] ++ braced ("public static class " ++ keyUse t ++ " implements Serializable")
    (lines ["", "private static final long serialVersionUID = 1L;", ""] ++
      each columns typedKeyField ++
      braced ("public " ++ keyUse t ++ "()") (lines []) ++ lines [""] ++ fullConstructor ++
      each columns (fun k => accessors k.keyField k.javaType.use) ++
      equalsAndHash (keyUse t) (columns.map (·.keyField)))

/-- The file of the join entity of an association table. -/
def typedFile (ctx : Context) (t : AssociationTable) : TypedFile where
  group := .entities
  name := t.name
  imports := imports ctx t
  code :=
    words ["@Entity", s!"@Table(name = \"{t.tableName}\")"] ++
      braced ("public class " ++ tableUse t)
        (lines ["", "@EmbeddedId", "private " ++ keyUse t ++ " id;", ""] ++
          each (relations ctx t) typedRelationField ++ each (extras t) typedExtraField ++
          braced ("public " ++ tableUse t ++ "()") (lines []) ++ lines [""] ++
          braced ("public " ++ tableUse t ++ "(" ++ keyUse t ++ " id)") (lines ["this.id = id;"]) ++
          lines [""] ++ accessors "id" (keyUse t) ++
          each (relations ctx t) (typedRelationAccessors ctx t) ++
          each (extras t) (fun e => accessors e.field e.javaType.use) ++
          equalsAndHash (tableUse t) ["id"] ++ typedKeyClass t (keyColumns ctx t))

theorem written_keyClass (t : AssociationTable) (columns : List KeyColumn) :
    (typedKeyClass t columns).written = keyClassCode t columns := by
  have hparameters : (typedParameters columns).written =
      joinTexts ", " (columns.map fun k => s!"{k.javaType.name} {k.keyField}") := by
    rw [typedParameters, TypedLine.written_joined, List.map_map]
    rfl
  unfold typedKeyClass keyClassCode
  rw [← hparameters]
  cases columns with
  | nil => rfl
  | cons k rest =>
    simp only [TypedCode.written_append, written_braced, written_each, written_accessors,
      written_equalsAndHash, List.isEmpty_cons, Bool.false_eq_true, if_false, written_lines,
      List.map_map]
    rfl

theorem artifact_typedFile (ctx : Context) (t : AssociationTable) :
    (typedFile ctx t).artifact ctx = ⟨.entities, t.name, (joinEntity ctx t).value⟩ := by
  have hid : (accessors "id" (keyUse t)).written =
      Java.accessors "id" (keyClass t) "getId" "setId" 0 := by
    have hnames : getter "id" = "getId" ∧ setter "id" = "setId" := by decide
    rw [← hnames.1, ← hnames.2]
    rfl
  have hbody : (typedFile ctx t).code.written = (file ctx t).value.body := by
    simp only [typedFile, TypedCode.written_append, written_words, written_braced, written_each,
      written_relationField, written_extraField, written_accessors, written_relationAccessors,
      written_equalsAndHash, written_keyClass, hid]
    rfl
  exact TypedFile.artifact_eq hbody rfl rfl

section
variable {P : TypeUse → Prop} {ctx : Context} {t : AssociationTable}
  (hentities : ∀ name, P (.generated .entities name))
include hentities

theorem allTypes_relationAccessors (r : Relation) : (typedRelationAccessors ctx t r).AllTypes P := by
  have hsync : (typedSyncCode ctx t r).AllTypes P := by
    unfold typedSyncCode
    split <;>
      simp (disch := first | exact rfl | decide) [typedSyncKey, keyUse, isPlain_of_chars,
        hentities]
  simp (disch := first | exact rfl | decide) [typedRelationAccessors, isPlain_of_chars, hentities,
    hsync]

theorem allTypes_equals (name : String) (fields : List String) :
    (equalsAndHash (Group.entities.use name) fields).AllTypes P :=
  allTypes_equalsAndHash ((Group.allTypes_use P .entities name).2 (hentities name)) fields

theorem allTypes_keyClass {columns : List KeyColumn}
    (hcolumns : ∀ k ∈ columns, P (.value k.javaType)) : (typedKeyClass t columns).AllTypes P := by
  have hfields : ∀ k ∈ columns, (typedKeyField k).AllTypes P := by
    intro k hk
    simp (disch := first | exact rfl | decide) [typedKeyField, isPlain_of_chars, hcolumns k hk]
  have hparameters : (typedParameters columns).AllTypes P := by
    refine TypedLine.allTypes_joined (by decide) (List.forall_mem_map.2 fun k hk => ?_)
    simp (disch := first | exact rfl | decide) [isPlain_of_chars, hcolumns k hk]
  unfold typedKeyClass
  split <;>
    simpa (disch := first | exact rfl | decide) [keyUse, isPlain_of_chars, hentities, hparameters,
      allTypes_equals hentities] using ⟨hfields, hcolumns⟩

/-- The types in a join entity are those of the parts of its key and of its further attributes, and
entities. -/
theorem allTypes_typedFile (hcolumns : ∀ k ∈ keyColumns ctx t, P (.value k.javaType))
    (hextras : ∀ e ∈ extras t, P (.value e.javaType)) : (typedFile ctx t).code.AllTypes P := by
  have hrelationField : ∀ r, (typedRelationField r).AllTypes P := by
    intro r
    simp (disch := first | exact rfl | decide) [typedRelationField, isPlain_of_chars, hentities]
  have hextraField : ∀ e ∈ extras t, (typedExtraField e).AllTypes P := by
    intro e he
    simp (disch := first | exact rfl | decide) [typedExtraField, isPlain_of_chars, hextras e he]
  simpa (disch := first | exact rfl | decide) [typedFile, tableUse, keyUse, isPlain_of_chars,
    hentities, hrelationField, allTypes_relationAccessors hentities, allTypes_equals hentities,
    allTypes_keyClass hentities hcolumns]
    using ⟨hextraField, hextras⟩

end

end JoinEntity

/-! ## Transfer objects -/

namespace Dto

/-- A field of a transfer object with its type. -/
structure TypedField where
  /-- The name of the field. -/
  field : String
  /-- The type of the field. -/
  type : JavaType
  /-- What is said about the field behind its declaration. -/
  comment : Option String := none

/-- The field with the type as it is written. -/
def TypedField.plain (f : TypedField) : Field where
  field := f.field
  type := f.type.name
  comment := f.comment

/-- The fields of the transfer object of a class, with their types. -/
def typedFields (ctx : Context) (c : ClassNode) : List TypedField :=
  let members := ctx.membersOf c
  members.scalars.map (fun m => { field := m.fieldName, type := m.javaType }) ++
    members.references.filterMap fun r =>
      r.dtoFieldName.map fun field =>
        { field := field, type := r.targetKey.javaType, comment := some s!"FK to {r.target.name}" }

theorem fields_eq (ctx : Context) (c : ClassNode) :
    fields ctx c = (typedFields ctx c).map TypedField.plain := by
  simp only [fields, typedFields, List.map_append, List.map_map, List.map_filterMap, Option.map_map]
  rfl

/-- The declaration of a field. -/
def typedDeclaration (f : TypedField) : TypedLine :=
  match f.comment with
  | some comment =>
    "private " ++ f.type.use ++ " " ++ .word f.field ++ "; // " ++ .word comment
  | none => "private " ++ f.type.use ++ " " ++ .word f.field ++ ";"

theorem written_declaration (f : TypedField) :
    (typedDeclaration f).written = declaration f.plain := by
  obtain ⟨field, type, comment⟩ := f
  cases comment <;> rfl

/-- The head of the class declaration. -/
def typedHead (ctx : Context) (c : ClassNode) : TypedLine :=
  match ctx.hierarchy.parentOf c with
  | some parent =>
    "public class " ++ c.dtoUse ++ " extends " ++ parent.dtoUse ++ " implements Serializable"
  | none => "public class " ++ c.dtoUse ++ " implements Serializable"

theorem written_head (ctx : Context) (c : ClassNode) :
    (typedHead ctx c).written = head ctx c := by
  unfold typedHead head
  cases ctx.hierarchy.parentOf c <;> rfl

/-- The file of the transfer object of a class. -/
def typedFile (ctx : Context) (c : ClassNode) : TypedFile where
  group := .dto
  name := dtoName c.name
  imports := imports ctx c
  code :=
    braced (typedHead ctx c)
      (lines ["", "private static final long serialVersionUID = 1L;", ""] ++
        lines ((typedFields ctx c).map typedDeclaration) ++ lines [""] ++
        braced ("public " ++ c.dtoUse ++ "()") (lines []) ++ lines [""] ++
        each (typedFields ctx c) fun f => accessors f.field f.type.use)

theorem artifact_typedFile (ctx : Context) (c : ClassNode) :
    (typedFile ctx c).artifact ctx = ⟨.dto, dtoName c.name, dto ctx c⟩ := by
  have hbody : (typedFile ctx c).code.written = (file ctx c).body := by
    simp only [typedFile, file, properties, fields_eq, TypedCode.written_append, written_lines,
      written_braced, written_each, written_accessors, written_head, List.map_map,
      List.flatMap_map, Function.comp_def, written_declaration]
    rfl
  exact TypedFile.artifact_eq hbody rfl rfl

/-- The types in a transfer object are those of its fields, and transfer objects. -/
theorem allTypes_typedFile {P : TypeUse → Prop} {ctx : Context} {c : ClassNode}
    (hdtos : ∀ name, P (.generated .dto name))
    (hfields : ∀ field ∈ typedFields ctx c, P (.value field.type)) :
    (typedFile ctx c).code.AllTypes P := by
  have hclass : c.dtoUse.AllTypes P := hdtos _
  have hhead : (typedHead ctx c).AllTypes P := by
    unfold typedHead
    cases ctx.hierarchy.parentOf c <;>
      simp (disch := first | exact rfl | decide) [isPlain_of_chars, hdtos]
  have hdeclarations : ∀ field ∈ typedFields ctx c, (typedDeclaration field).AllTypes P := by
    intro field hfield
    unfold typedDeclaration
    cases field.comment <;>
      simp (disch := first | exact rfl | decide) [isPlain_of_chars, hfields field hfield]
  simpa (disch := first | exact rfl | decide) [typedFile, isPlain_of_chars, hclass, hhead]
    using ⟨hdeclarations, hfields⟩

end Dto

end Scaffold
