import Scaffold.Analysis.Collection
import Scaffold.Analysis.Query
import Scaffold.Text.Ordered

/-!
# Predicted surfaces

The generated files of a class are written one by one, and call each other. Which accessors and
methods each of them has is predicted for all classes before the first is written, by the same
naming rules.

An entity has accessors for its members and for the collections that it can declare. A one-to-many
collection is declared if the class at its many side has the field that it is mapped by; no
collection is declared whose field another member or an ancestor has. An inverse many-to-many
collection is declared only together with the owning one that it is mapped by. The predictions are
functions of the hierarchy and the table of members; `Resolve.planCollections` resolves what they
need and reports what is left out.

Main statements: `get?_ofFields` (a predicted surface has the usual accessors of its fields).
-/

namespace Scaffold

open Naming

/-! ## Surfaces -/

/-- The accessors of a generated class, by field. -/
structure Surface where
  /-- The fields and their accessors. -/
  entries : List (String × Accessors) := []
  deriving DecidableEq

namespace Surface

/-- The accessors of a field. -/
def get? (s : Surface) (field : String) : Option Accessors := s.entries.lookup field

/-- Whether a field has accessors. -/
def has (s : Surface) (field : String) : Bool := (s.get? field).isSome

/-- The usual accessors of some fields, in the order of the fields' names. -/
def ofFields (fields : List String) : Surface :=
  ⟨(Text.ordered fields).map fun field => (field, accessors field)⟩

/-- The surface without a field. -/
def erase (s : Surface) (field : String) : Surface := ⟨s.entries.filter (·.1 ≠ field)⟩

theorem lookup_map_accessors (fields : List String) (field : String) :
    (fields.map fun f => (f, accessors f)).lookup field =
      if field ∈ fields then some (accessors field) else none := by
  induction fields with
  | nil => rfl
  | cons f rest ih =>
    simp only [List.map_cons, List.lookup_cons, ih]
    by_cases h : field = f
    · simp [h]
    · have : (field == f) = false := by simpa using h
      simp [this, h]

theorem get?_ofFields (fields : List String) (field : String) :
    (ofFields fields).get? field =
      if field ∈ fields then some (accessors field) else none := by
  simp [get?, ofFields, lookup_map_accessors, Text.mem_ordered]

end Surface

/-! ## Collections -/

namespace Hierarchy

variable (h : Hierarchy) (table : List (String × Members))

/-- The fields that an entity inherits, with all collections that its ancestors can have. -/
def inheritedFields (c : ClassNode) : List String :=
  (h.ancestors c).flatMap fun a => (Members.inTable table a).fields ++ h.collectionFields a

/-- The fields that no collection of a class may have. -/
def takenFields (c : ClassNode) : List String :=
  (Members.inTable table c).fields ++ h.inheritedFields table c

/-- Why a class does not declare a one-to-many collection. -/
def oneToManyObstacle? (c : ClassNode) (l : OneToMany) : Option Finding :=
  if (Members.inTable table l.related).references.all (·.fieldName ≠ l.mappedBy) then
    some (.unmappedCollection c.name l.fieldName l.related.name l.mappedBy)
  else if l.fieldName ∈ h.takenFields table c then some (.collectionTaken c.name l.fieldName)
  else none

/-- The one-to-many collections that a class declares. -/
def oneToMany (c : ClassNode) : List OneToMany :=
  (h.oneToManyLinks c).filter fun l => (h.oneToManyObstacle? table c l).isNone

/-- Why a class does not declare a many-to-many collection, leaving the other end of the pair out
of account. -/
def manyToManyObstacle? (c : ClassNode) (l : ManyToMany) : Option Finding :=
  if l.fieldName ∈ h.takenFields table c ++ (h.oneToMany table c).map (·.fieldName) then
    some (.collectionTaken c.name l.fieldName)
  else none

/-- The many-to-many collections that a class declares if the other ends do. -/
def freeManyToMany (c : ClassNode) : List ManyToMany :=
  (h.manyToManyLinks c).filter fun l => (h.manyToManyObstacle? table c l).isNone

/-- Why a collection cannot do without the other end of its pair: it is mapped by an owning
collection that the other class does not declare. -/
def ownerObstacle? (l : ManyToMany) : Option Finding :=
  match l.pairEnd with
  | .owner _ => none
  | .inverse mappedBy =>
    if (h.freeManyToMany table l.related).any fun o => o.isOwner && o.fieldName = mappedBy then
      none
    else some (.ownerless l.owner.name l.fieldName l.related.name mappedBy)

/-- The many-to-many collections that a class declares. -/
def manyToMany (c : ClassNode) : List ManyToMany :=
  (h.freeManyToMany table c).filter fun l => (h.ownerObstacle? table l).isNone

/-- The diagnostics for the inverse collections of a class whose owning collections are missing. -/
def ownerNotes (c : ClassNode) : List Diagnostic :=
  (h.freeManyToMany table c).filterMap fun l =>
    (h.ownerObstacle? table l).map fun finding => ⟨finding, some c.id, some l.fieldName⟩

/-! ## Fields -/

/-- The fields that the entity of a class declares. -/
def entityFields (c : ClassNode) : List String :=
  (Members.inTable table c).fields ++ (h.oneToMany table c).map (·.fieldName) ++
    (h.manyToMany table c).map (·.fieldName)

/-- The fields that the entity of a class declares or inherits. -/
def allEntityFields (c : ClassNode) : List String :=
  (h.chain c).flatMap (h.entityFields table)

/-- The fields that the transfer object of a class declares or inherits. -/
def allDtoFields (c : ClassNode) : List String :=
  (h.chain c).flatMap fun a => (Members.inTable table a).dtoFields

/-! ## Methods -/

/-- The methods that every repository has. -/
def repositoryBasics : List String :=
  ["findAll", "findById", "save", "deleteById", "existsById", "count"]

/-- The methods that every service has. -/
def serviceBasics : List String :=
  ["findAll", "findById", "create", "update", "partialUpdate", "delete", "existsById", "count"]

/-- Whether a query on the key of a referenced entity can be answered: the entity has the key. -/
def keepsKey (r : ReferenceMember) : Bool :=
  r.targetKey.fieldName ∈ h.allEntityFields table r.target

/-- The names of the queries that the repository of a class answers. -/
def repositoryQueryNames (limit : Int) (c : ClassNode) : List String :=
  let members := Members.inTable table c
  ((members.queried limit).filter fun m => m.fieldName ∈ h.allEntityFields table c).flatMap
      (fun m => m.queries.map (·.name)) ++
    members.references.flatMap fun r =>
      [QueryVerb.find, .exist, .count].map (fun verb => (r.query verb).name) ++
        if h.keepsKey table r then r.keyQuery?.toList.map (·.name) else []

/-- The methods of the repository of a class. -/
def repositoryMethods (limit : Int) (c : ClassNode) : List String :=
  Text.ordered (repositoryBasics ++ h.repositoryQueryNames table limit c)

/-- The methods of the service of a class: of the queries, those that the repository answers. -/
def serviceMethods (limit : Int) (c : ClassNode) : List String :=
  let answered := h.repositoryMethods table limit c
  Text.ordered <| serviceBasics ++
    (((Members.inTable table c).serviceQueries limit).map (·.name)).filter (· ∈ answered)

end Hierarchy

/-! ## Predictions -/

/-- What the generated files of a class are predicted to have. -/
structure Prediction where
  /-- The id of the class. -/
  classId : String
  /-- The name of the class. -/
  className : String
  /-- The key that the entity exposes. -/
  primaryKey : PrimaryKey
  /-- The accessors that the entity declares. -/
  entityOwn : Surface
  /-- The accessors that the entity declares or inherits. -/
  entityAll : Surface
  /-- The accessors that the transfer object declares. -/
  dtoOwn : Surface
  /-- The accessors that the transfer object declares or inherits. -/
  dtoAll : Surface
  /-- The one-to-many collections of the entity. -/
  oneToMany : List OneToMany := []
  /-- The many-to-many collections of the entity. -/
  manyToMany : List ManyToMany := []
  /-- The methods of the repository, in order. -/
  repositoryMethods : List String := []
  /-- The methods of the service, in order. -/
  serviceMethods : List String := []
  deriving DecidableEq

/-- The prediction for a class, given its key. -/
def Hierarchy.predict (h : Hierarchy) (table : List (String × Members)) (limit : Int)
    (key : PrimaryKey) (c : ClassNode) : Prediction where
  classId := c.id
  className := c.name
  primaryKey := key
  entityOwn := .ofFields (h.entityFields table c)
  entityAll := .ofFields (h.allEntityFields table c)
  dtoOwn := .ofFields (Members.inTable table c).dtoFields
  dtoAll := .ofFields (h.allDtoFields table c)
  oneToMany := h.oneToMany table c
  manyToMany := h.manyToMany table c
  repositoryMethods := h.repositoryMethods table limit c
  serviceMethods := h.serviceMethods table limit c

/-! ## Resolution of what is needed -/

namespace Resolve

/-- Records an obstacle to a collection, if there is one. -/
def noteObstacle (c : ClassNode) (field : String) : Option Finding → Resolve Unit
  | some finding => note finding (some c.id) (some field)
  | none => return ()

/-- Resolves what the collections of a class depend on, and reports those that it cannot declare,
as far as the other ends of pairs do not matter. -/
def planCollections (h : Hierarchy) (c : ClassNode) : Resolve Unit := do
  let _ ← membersOf h c
  for l in h.oneToManyLinks c do
    let _ ← membersOf h l.related
    noteObstacle c l.fieldName (h.oneToManyObstacle? (← get).members c l)
  let table := (← get).members
  for l in h.manyToManyLinks c do
    noteObstacle c l.fieldName (h.manyToManyObstacle? table c l)

end Resolve

end Scaffold
