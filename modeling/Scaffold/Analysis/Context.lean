import Scaffold.Analysis.Surface

/-!
# Contexts of generation

A `Context` holds everything that is derived from a diagram before the first file is generated:
the hierarchy, the keys, the members, and the predicted surfaces. The generators only read it.

`Context.build` records its diagnostics stage by stage: inheritance, kinds of edges, many-to-many
collections, then members and collections class by class, and inverse collections without an
owner.

Main statements: `diagram_build` (a context is about the diagram that it was built from),
`predicts_iff` and `predictsAll_iff` (what it means that calls are predicted).
-/

namespace Scaffold

open Naming

/-- What is derived from a diagram before files are generated. Keys, members and predictions are
tables by class id. -/
structure Context where
  /-- The diagram and the forest of its classes. -/
  hierarchy : Hierarchy
  /-- The package that the generated packages are part of. -/
  basePackage : String
  /-- The greatest number of scalar members of a class with derived queries; a negative number
  counts those without. -/
  queryLimit : Int
  /-- The keys. -/
  keys : List (String × PrimaryKey)
  /-- The members. -/
  members : List (String × Members)
  /-- The predicted surfaces. -/
  predictions : List (String × Prediction)

namespace Context

/-! ## Construction -/

/-- Resolves the keys and members of all classes, and reports what is left out. -/
def resolveAll (h : Hierarchy) : Resolve Unit := do
  for c in h.diagram.classes do
    Resolve.planCollections h c
  let table := (← get).members
  for c in distinctBy (·.id) h.diagram.classes do
    Resolve.noted ⟨(), h.ownerNotes table c⟩
  for c in h.diagram.classes do
    let _ ← Resolve.entityKey h c
  for c in h.diagram.classes do
    let _ ← Resolve.primaryKey h c

/-- The key in a table by class id. -/
def keyIn (keys : List (String × PrimaryKey)) (c : ClassNode) : PrimaryKey :=
  (keys.lookup c.id).getD .default

/-- The predictions for all classes. Classes with one id share the prediction for the last. -/
def predictAll (h : Hierarchy) (limit : Int) (keys : List (String × PrimaryKey))
    (table : List (String × Members)) : List (String × Prediction) :=
  (distinctBy (·.id) h.diagram.classes).map fun c =>
    let last := h.representative c
    (c.id, h.predict table limit (keyIn keys (h.root last)) last)

/-- The context of a diagram, and the diagnostics that are recorded on the way. -/
def build (d : Diagram) (basePackage : String) (queryLimit : Int) : Noted Context :=
  let h := Hierarchy.ofDiagram d
  let resolved := ((resolveAll h.value).run {}).2
  ⟨{ hierarchy := h.value
     basePackage := basePackage
     queryLimit := queryLimit
     keys := resolved.keys
     members := resolved.members
     predictions := predictAll h.value queryLimit resolved.keys resolved.members },
    h.notes ++ d.allRelationNotes ++ d.classes.flatMap (Hierarchy.pairNotes d) ++ resolved.notes⟩

/-! ## Readings -/

/-- The diagram. -/
def diagram (ctx : Context) : Diagram := ctx.hierarchy.diagram

theorem diagram_build (d : Diagram) (basePackage : String) (queryLimit : Int) :
    (build d basePackage queryLimit).value.diagram = d := rfl

theorem hierarchy_build (d : Diagram) (basePackage : String) (queryLimit : Int) :
    (build d basePackage queryLimit).value.hierarchy = (Hierarchy.ofDiagram d).value := rfl

/-- The key that a class declares or takes from an ancestor. -/
def primaryKey (ctx : Context) (c : ClassNode) : PrimaryKey := keyIn ctx.keys c

/-- The key that the entity of a class exposes. -/
def entityKey (ctx : Context) (c : ClassNode) : PrimaryKey :=
  keyIn ctx.keys (ctx.hierarchy.root c)

/-- The members of a class. -/
def membersOf (ctx : Context) (c : ClassNode) : Members := Members.inTable ctx.members c

/-- The scalar members of a class that have derived queries. -/
def queried (ctx : Context) (c : ClassNode) : List ScalarMember :=
  (ctx.membersOf c).queried ctx.queryLimit

/-- The scalar members along the chain of a class, the root's first; of those with one field the
first counts. -/
def chainScalars (ctx : Context) (c : ClassNode) : List ScalarMember :=
  distinctBy (·.fieldName) ((ctx.hierarchy.chain c).flatMap fun a => (ctx.membersOf a).scalars)

/-- The reference members along the chain of a class, the root's first; of those with one field
the first counts. -/
def chainReferences (ctx : Context) (c : ClassNode) : List ReferenceMember :=
  distinctBy (·.fieldName) ((ctx.hierarchy.chain c).flatMap fun a => (ctx.membersOf a).references)

/-- The prediction for a class; nothing is predicted for a class outside of the diagram. -/
def prediction (ctx : Context) (c : ClassNode) : Prediction :=
  (ctx.predictions.lookup c.id).getD
    { classId := c.id, className := c.name, primaryKey := ctx.entityKey c
      entityOwn := {}, entityAll := {}, dtoOwn := {}, dtoAll := {} }

/-- The accessors of the field that holds a class's key, if its entity has them. -/
def keyAccessors? (ctx : Context) (c : ClassNode) : Option Accessors :=
  (ctx.prediction c).entityAll.get? (ctx.entityKey c).fieldName

/-- The context with the prediction for one class changed. -/
def modifyPrediction (ctx : Context) (c : ClassNode) (f : Prediction → Prediction) : Context :=
  { ctx with
    predictions := ctx.predictions.map fun p => if p.1 = c.id then (p.1, f p.2) else p }

/-! ## Packages -/

/-- The package of a group of generated classes. -/
def package (ctx : Context) (group : String) : String := s!"{ctx.basePackage}.{group}"

/-- The import statement for a generated class. -/
def importOf (ctx : Context) (group name : String) : String :=
  s!"import {ctx.package group}.{name};"

end Context

/-! ## Calls of accessors -/

/-- The two generated classes of a class that have accessors. -/
inductive Bean where
  /-- The entity. -/
  | entity
  /-- The transfer object. -/
  | dto
  deriving DecidableEq

/-- Whether an accessor reads a field or writes it. -/
inductive Access where
  /-- It reads the field. -/
  | read
  /-- It writes the field. -/
  | write
  deriving DecidableEq

/-- A call of an accessor of a generated class, by its usual name. -/
structure AccessorCall where
  /-- The class. -/
  owner : ClassNode
  /-- Whether its entity or its transfer object is called. -/
  bean : Bean
  /-- Whether the field is read or written. -/
  access : Access
  /-- The field. -/
  field : String
  deriving DecidableEq

namespace AccessorCall

/-- The name of the accessor. -/
def method (call : AccessorCall) : String :=
  match call.access with
  | .read => getter call.field
  | .write => setter call.field

/-- The accessor with the access of a call. -/
def select (call : AccessorCall) (a : Accessors) : String :=
  match call.access with
  | .read => a.getter
  | .write => a.setter

end AccessorCall

namespace Context

/-- The predicted accessors of a generated class. -/
def surface (ctx : Context) (c : ClassNode) : Bean → Surface
  | .entity => (ctx.prediction c).entityAll
  | .dto => (ctx.prediction c).dtoAll

/-- Whether an accessor that is called is predicted. -/
def predicts (ctx : Context) (call : AccessorCall) : Bool :=
  ((ctx.surface call.owner call.bean).get? call.field).any fun a => call.select a = call.method

/-- A call is predicted if its field has accessors, and the one with the access of the call has the
name that is called. -/
theorem predicts_iff {ctx : Context} {call : AccessorCall} :
    ctx.predicts call = true ↔
      ∃ a, (ctx.surface call.owner call.bean).get? call.field = some a ∧
        call.select a = call.method := by
  simp [predicts, Option.any_eq_true]

/-- Whether all accessors of some calls are predicted. -/
def predictsAll (ctx : Context) (calls : List AccessorCall) : Bool := calls.all ctx.predicts

theorem predictsAll_iff {ctx : Context} {calls : List AccessorCall} :
    ctx.predictsAll calls = true ↔ ∀ call ∈ calls, ctx.predicts call = true :=
  List.all_eq_true

end Context

end Scaffold
