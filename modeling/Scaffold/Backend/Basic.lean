import Scaffold.Backend.Statement
import Scaffold.Java.Constraint

/-!
# Generation

What the generators have in common. The generated classes are put into groups, each of which is a
package. A generator reads a context and records diagnostics; it fails only on a number that is too
long: a column length that is not read, or a default value that is not shown. Code that calls
accessors of another generated class is kept only if they are predicted, and what is left out is
reported: `keepFree` does both.

Main statements: `Generation.bind_ok` (the stages of a generation that succeeds), `mem_keepFree`
(what is kept has no obstacle) and `notes_keepFree_eq_nil_iff` (nothing is reported exactly if
everything is kept).
-/

namespace Scaffold

open Naming Java

/-- The groups of generated classes, each of which is a package. -/
inductive Group where
  /-- Entities and join entities. -/
  | entities
  /-- Transfer objects. -/
  | dto
  /-- Mappers between entities and transfer objects. -/
  | mappers
  /-- Repositories. -/
  | repositories
  /-- Services and their implementations. -/
  | services
  /-- Controllers. -/
  | controllers
  deriving DecidableEq

/-- The name of a group, which is that of its package. -/
def Group.name : Group → String
  | .entities => "entities"
  | .dto => "dto"
  | .mappers => "mappers"
  | .repositories => "repositories"
  | .services => "services"
  | .controllers => "controllers"

/-- Generation of code: it records diagnostics, and may fail on a number that is too long. -/
abbrev Generation := ExceptT Constraint.HugeLength Noted

/-- What a generation of two stages that succeeds consists of. -/
theorem Generation.bind_ok {α β : Type} {x : Generation α} {f : α → Generation β} {b : β}
    (h : (x >>= f).run.value = .ok b) :
    ∃ a, x.run.value = .ok a ∧ (f a).run.value = .ok b ∧
      (x >>= f).run.notes = x.run.notes ++ (f a).run.notes := by
  rw [ExceptT.run_bind] at h ⊢
  rw [Noted.value_bind] at h
  rw [Noted.notes_bind]
  cases hx : x.run.value with
  | error e =>
    rw [hx] at h
    cases h
  | ok a =>
    rw [hx] at h
    exact ⟨a, rfl, h, rfl⟩

namespace Context

/-- The package of a group. -/
def groupPackage (ctx : Context) (group : Group) : String := ctx.package group.name

/-- The import statement for a class of a group. -/
def groupImport (ctx : Context) (group : Group) (name : String) : String :=
  ctx.importOf group.name name

/-- The diagnostic for code that is left out because an accessor that it calls is not predicted. -/
def obstacle? (ctx : Context) (calls : List AccessorCall) (note : Diagnostic) :
    Option Diagnostic :=
  if ctx.predictsAll calls then none else some note

theorem obstacle?_eq_none_iff {ctx : Context} {calls : List AccessorCall} {note : Diagnostic} :
    ctx.obstacle? calls note = none ↔ ∀ call ∈ calls, ctx.predicts call = true := by
  simp [obstacle?, predictsAll]

end Context

/-- Keeps what has no obstacle, and reports the obstacles. -/
def keepFree {α : Type} (obstacle? : α → Option Diagnostic) (l : List α) : Noted (List α) :=
  ⟨l.filter fun a => (obstacle? a).isNone, l.filterMap obstacle?⟩

theorem mem_keepFree {α : Type} {obstacle? : α → Option Diagnostic} {l : List α} {a : α} :
    a ∈ (keepFree obstacle? l).value ↔ a ∈ l ∧ obstacle? a = none := by
  simp [keepFree]

theorem notes_keepFree_eq_nil_iff {α : Type} {obstacle? : α → Option Diagnostic} {l : List α} :
    (keepFree obstacle? l).notes = [] ↔ (keepFree obstacle? l).value = l := by
  simp [keepFree, List.filterMap_eq_nil_iff]

/-- A private field with a getter and a setter. -/
structure Property where
  /-- The name of the field. -/
  field : String
  /-- The type of the field. -/
  type : String
  deriving DecidableEq

namespace Property

/-- The accessors of a property. -/
def accessors (p : Property) : Accessors := Naming.accessors p.field

/-- The code of the accessors of a property. -/
def code (p : Property) : Lines :=
  Java.accessors p.field p.type p.accessors.getter p.accessors.setter 0

end Property

end Scaffold
