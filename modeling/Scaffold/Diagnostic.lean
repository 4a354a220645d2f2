/-!
# Diagnostics

A diagnostic reports a problem that the program recovers from. What was found is a `Finding`, a
value that names the cause; its code and its wording follow from it. `Noted α` is a result
together with the diagnostics that were recorded on the way to it, oldest first. Stages are put
together with `bind`, which appends the diagnostics of the later stage.

Main statements: `notes_bind` and `LawfulMonad Noted` (recording is appending).
-/

namespace Scaffold

/-- The codes of diagnostics. -/
inductive Code where
  /-- About the kind of an edge. -/
  | classification
  /-- About a member or call that is left out to keep the generated files consistent. -/
  | consistency
  /-- About the diagram itself. -/
  | validation
  deriving DecidableEq

/-- The word for a code. -/
def Code.word : Code → String
  | .classification => "ClassificationWarning"
  | .consistency => "ConsistencyWarning"
  | .validation => "ValidationWarning"

/-- What a diagnostic is about. -/
inductive Finding where
  /-- An attribute of a class has no name. -/
  | namelessAttribute (index : Nat)
  /-- A connection lacks an endpoint. -/
  | looseConnection (index : Nat)
  /-- The multiplicities of an inheritance edge do not tell the parent. -/
  | unclearParent (edge source target : String)
  /-- An inheritance edge ends at no class. -/
  | looseInheritance (edge : String)
  /-- An inheritance edge would make a class its own ancestor. -/
  | inheritanceCycle (edge : String)
  /-- An edge has a type that is not known. -/
  | unknownType (edge declared : String)
  /-- An edge is many at both ends, and neither end holds a foreign key. -/
  | manyAtBothEnds (edge : String)
  /-- A many-to-many edge leads from a class to itself. -/
  | manyToItself (edge : String)
  /-- An edge names an association table that does not exist. -/
  | unknownTable (edge table default : String)
  /-- An attribute maps to a field that another attribute has already taken. -/
  | fieldTaken (cls attr field : String)
  /-- The id field of a reference would clash with another field of the transfer object. -/
  | idFieldTaken (cls reference idField : String)
  /-- The id query of a reference would clash with the query on a column. -/
  | idQueryTaken (cls reference query idField : String)
  /-- The class at the many side declares no field that a collection could be mapped by. -/
  | unmappedCollection (cls field related mappedBy : String)
  /-- A collection would clash with another field. -/
  | collectionTaken (cls field : String)
  /-- The other end of a many-to-many pair has no owning collection. -/
  | ownerless (cls field related mappedBy : String)
  /-- A class name is used by an earlier class. -/
  | repeatedName (name first : String)
  /-- A class has no primary key. -/
  | missingKey (name : String)
  /-- A foreign key does not say which class it references. -/
  | aimlessForeignKey (cls attr : String)
  /-- A foreign key references a class that does not exist. -/
  | unknownReference (cls attr target : String)
  /-- An edge ends at nothing. -/
  | looseEnd (edge place : String)
  /-- An association table has fewer than two foreign keys. -/
  | fewForeignKeys (table : String) (count : Nat)
  /-- A default value does not fit the type of its field. -/
  | misfitDefault (value type : String)
  /-- The entity that a reference leads to has no setter for its key. -/
  | noKeySetter (target setter reference : String)
  /-- There is no conversion of ids to the type of a key. -/
  | noConversion (type method : String)
  /-- A key column of an association table references no class. -/
  | unknownKeyTarget (table target : String)
  /-- The entity that a key column references has no getter for its key. -/
  | keyOutOfSync (target getter table field : String)
  /-- The accessors for mapping a field from the entity are missing. -/
  | unmappedToDto (cls field : String)
  /-- The accessors for mapping a field to the entity are missing. -/
  | unmappedToEntity (cls field : String)
  /-- The accessors for loading a referenced entity are missing. -/
  | unresolvable (cls field : String)
  /-- The accessors for updating a field are missing. -/
  | notCopied (cls field : String)
  /-- The accessors for following a reference are missing. -/
  | notNavigable (cls field : String)
  /-- A remark in free words. -/
  | remark (code : Code) (text : String)
  deriving DecidableEq

namespace Finding

/-- The code of a finding. -/
def code : Finding → Code
  | .looseConnection .. | .unclearParent .. | .looseInheritance .. | .inheritanceCycle ..
  | .unknownType .. | .manyAtBothEnds .. | .manyToItself .. | .unknownTable .. => .classification
  | .namelessAttribute .. | .repeatedName .. | .missingKey .. | .aimlessForeignKey ..
  | .unknownReference .. | .looseEnd .. | .fewForeignKeys .. | .misfitDefault .. => .validation
  | .fieldTaken .. | .idFieldTaken .. | .idQueryTaken .. | .unmappedCollection ..
  | .collectionTaken .. | .ownerless .. | .noKeySetter .. | .noConversion .. | .unknownKeyTarget ..
  | .keyOutOfSync .. | .unmappedToDto .. | .unmappedToEntity .. | .unresolvable ..
  | .notCopied .. | .notNavigable .. => .consistency
  | .remark code _ => code

/-- The wording of a finding. -/
def message : Finding → String
  | .namelessAttribute index => s!"attribute #{index} has no name and was ignored"
  | .looseConnection index => s!"connection #{index} is missing an endpoint and was dropped"
  | .unclearParent edge source target =>
    s!"inheritance edge {edge} has multiplicities '{source}'/'{target}'; " ++
      "expected '1' on the parent and '*' on the child, edge ignored"
  | .looseInheritance edge => s!"inheritance edge {edge} references a missing class, edge ignored"
  | .inheritanceCycle edge => s!"inheritance edge {edge} would create a cycle, edge ignored"
  | .unknownType edge declared =>
    s!"relationship {edge} has unknown type '{declared}', treated as association"
  | .manyAtBothEnds edge =>
    s!"relationship {edge} is '*' on both ends with no foreign key; " ++
      "treated as many-to-one from the source"
  | .manyToItself edge => s!"self-referencing many-to-many {edge} is not supported, edge ignored"
  | .unknownTable edge table default =>
    s!"relationship {edge} names association table '{table}' which does not exist; " ++
      s!"using join table '{default}'"
  | .fieldTaken cls attr field =>
    s!"{cls}.{attr} maps to field '{field}', which is already declared; attribute skipped"
  | .idFieldTaken cls reference idField =>
    s!"DTO id field '{idField}' of {cls}.{reference} clashes with an existing DTO field; " ++
      "id field and its mapping skipped"
  | .idQueryTaken cls reference query idField =>
    s!"{query} for {cls}.{reference} clashes with the query on field '{idField}'; " ++
      "reference id query skipped"
  | .unmappedCollection cls field related mappedBy =>
    s!"{related} declares no '{mappedBy}' field; collection {cls}.{field} skipped"
  | .collectionTaken cls field =>
    s!"collection {cls}.{field} clashes with an existing field and was skipped"
  | .ownerless cls field related mappedBy =>
    s!"{related} declares no owning collection '{mappedBy}'; collection {cls}.{field} skipped"
  | .repeatedName name first =>
    s!"class name '{name}' is also used by '{first}'; generated files will collide"
  | .missingKey name => s!"{name}: missing primary key; a generated 'id: Long' is used"
  | .aimlessForeignKey cls attr =>
    s!"{cls}.{attr}: foreign key without referencedEntity is treated as a plain column"
  | .unknownReference cls attr target =>
    s!"{cls}.{attr}: references unknown class '{target}'"
  | .looseEnd edge place => s!"relationship {edge}: endpoint '{place}' does not exist"
  | .fewForeignKeys table count =>
    s!"association table {table} has {count} foreign key(s); a join entity needs one per side"
  | .misfitDefault value type => s!"default value {value} does not fit type {type}, ignored"
  | .noKeySetter target setter reference =>
    s!"{target} entity has no {setter}(); {reference}FromId setter skipped"
  | .noConversion type method => s!"no id conversion for key type {type}; {method} skipped"
  | .unknownKeyTarget table target =>
    s!"association table {table} references unknown class '{target}'; " ++
      "only the key column is generated"
  | .keyOutOfSync target getter table field =>
    s!"{target} entity has no {getter}(); key of {table}.{field} is not synchronized"
  | .unmappedToDto cls field =>
    s!"accessors for {cls}.{field} were not predicted; entity-to-DTO mapping skipped"
  | .unmappedToEntity cls field =>
    s!"accessors for {cls}.{field} were not predicted; DTO-to-entity mapping skipped"
  | .unresolvable cls field =>
    s!"cannot resolve {cls}.{field} before saving; accessors were not predicted"
  | .notCopied cls field => s!"{cls}.{field} is not copied on update; accessors were not predicted"
  | .notNavigable cls field =>
    s!"navigation endpoint for {cls}.{field} skipped; accessors were not predicted"
  | .remark _ text => text

end Finding

/-- A reported problem, and the class and field that it is about. -/
structure Diagnostic where
  /-- What was found. -/
  finding : Finding
  /-- The id of the class. -/
  classId : Option String := none
  /-- The name of the attribute or field. -/
  field : Option String := none
  deriving DecidableEq

namespace Diagnostic

/-- The word for the severity of a diagnostic: all are warnings. -/
def severity (_ : Diagnostic) : String := "warning"

/-- The code of a diagnostic. -/
def code (d : Diagnostic) : Code := d.finding.code

/-- The wording of a diagnostic. -/
def message (d : Diagnostic) : String := d.finding.message

/-- A diagnostic on one line, with its code and its place. An empty name names no place. -/
def format (d : Diagnostic) : String :=
  let cls := (d.classId.filter (· ≠ "")).getD "-"
  let place :=
    match d.field.filter (· ≠ "") with
    | some field => s!"{cls}.{field}"
    | none => cls
  s!"[{d.code.word}] {place}: {d.message}"

end Diagnostic

/-- A result and the diagnostics recorded on the way to it, oldest first. -/
structure Noted (α : Type) where
  /-- The result. -/
  value : α
  /-- The diagnostics. -/
  notes : List Diagnostic

namespace Noted

variable {α β : Type}

/-- The result of two stages, the second of which starts from the result of the first. -/
def bind (x : Noted α) (f : α → Noted β) : Noted β :=
  let y := f x.value
  ⟨y.value, x.notes ++ y.notes⟩

instance : Monad Noted where
  pure a := ⟨a, []⟩
  bind := bind

/-- Records a diagnostic. -/
def note (finding : Finding) (classId : Option String := none) (field : Option String := none) :
    Noted Unit :=
  ⟨(), [⟨finding, classId, field⟩]⟩

@[simp] theorem value_pure (a : α) : (pure a : Noted α).value = a := rfl

@[simp] theorem notes_pure (a : α) : (pure a : Noted α).notes = [] := rfl

@[simp] theorem value_bind (x : Noted α) (f : α → Noted β) :
    (x >>= f).value = (f x.value).value := rfl

@[simp] theorem notes_bind (x : Noted α) (f : α → Noted β) :
    (x >>= f).notes = x.notes ++ (f x.value).notes := rfl

@[simp] theorem value_map (f : α → β) (x : Noted α) : (f <$> x).value = f x.value := rfl

@[simp] theorem notes_map (f : α → β) (x : Noted α) : (f <$> x).notes = x.notes := by
  simp [Functor.map, bind]

theorem ext {x y : Noted α} (hv : x.value = y.value) (hn : x.notes = y.notes) : x = y := by
  cases x; cases y; simp_all

instance : LawfulMonad Noted :=
  LawfulMonad.mk' Noted
    (fun x => ext rfl (by simp [Functor.map, bind]))
    (fun a f => ext rfl (by simp))
    (fun x f g => ext rfl (by simp [List.append_assoc]))

end Noted

end Scaffold
