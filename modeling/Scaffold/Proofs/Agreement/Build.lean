import Scaffold.Proofs.Agreement.Generation
import Scaffold.Proofs.Agreement.Resolution
import Scaffold.Proofs.Known

/-!
# Built contexts that agree

The contexts of two diagrams agree if the diagrams give the classes of the first the same parents
and links, and the resolutions match for the ids of these classes. Since the links come in the same
order here, so do the collections that are declared, and the entities are the same too.

Main statement: `agrees_of_matches`.
-/

namespace Scaffold

/-- The classes of a diagram in another one: they have the same parents, and the same links in the
same order. -/
structure Diagram.SharesLinks (d d' : Diagram) : Prop where
  /-- The classes are classes of the other diagram. -/
  classes : d.classes ⊆ d'.classes
  /-- Every class has the same parent. -/
  parents : (Hierarchy.ofDiagram d).value.SameParents (Hierarchy.ofDiagram d').value
  /-- The same classes stand for all classes with one id. -/
  representative : ∀ c ∈ d.classes,
    (Hierarchy.ofDiagram d).value.representative c =
      (Hierarchy.ofDiagram d').value.representative c
  /-- The classes can have the same one-to-many collections. -/
  oneToManyLinks : ∀ c ∈ d.classes,
    (Hierarchy.ofDiagram d).value.oneToManyLinks c =
      (Hierarchy.ofDiagram d').value.oneToManyLinks c
  /-- The classes can have the same many-to-many collections. -/
  manyToManyLinks : ∀ c ∈ d.classes,
    (Hierarchy.ofDiagram d).value.manyToManyLinks c =
      (Hierarchy.ofDiagram d').value.manyToManyLinks c

namespace Context

variable {d d' : Diagram} (hs : d.SharesLinks d') {ids : String → Prop}
  (hids : ∀ c ∈ d.classes, ids c.id)
  (hresolved : Resolve.Matches ids (resolveAll (Hierarchy.ofDiagram d).value)
    (resolveAll (Hierarchy.ofDiagram d').value) fun _ _ => True)
  (basePackage : String) (queryLimit : Int)
include hs hids hresolved

/-- The hierarchies agree, with the members that the contexts hold. -/
theorem hierarchy_agrees :
    (Hierarchy.ofDiagram d).value.Agrees (Hierarchy.ofDiagram d').value
      (build d basePackage queryLimit).value.members
      (build d' basePackage queryLimit).value.members where
  wellFormed := Hierarchy.wellFormed_ofDiagram d
  classes := hs.classes
  parents := hs.parents
  representative := hs.representative
  oneToManyLinks c hc := by rw [hs.oneToManyLinks c hc]
  manyToManyLinks := hs.manyToManyLinks
  inTable c hc := by
    obtain ⟨-, hknown⟩ := hresolved {} {} fun _ _ => ⟨rfl, rfl⟩
    exact congrArg (·.getD {}) (hknown c.id (hids c hc)).2
  targets c _ := ((known_build d basePackage queryLimit).2 c).targets

/-- The contexts agree, and the collections that are predicted come in the same order. -/
theorem agrees_of_matches :
    let ctx := (build d basePackage queryLimit).value
    let ctx' := (build d' basePackage queryLimit).value
    ctx.Agrees ctx' ∧
      ∀ c ∈ d.classes, (ctx.prediction c).oneToMany = (ctx'.prediction c).oneToMany := by
  intro ctx ctx'
  have hagrees := hierarchy_agrees hs hids hresolved basePackage queryLimit
  obtain ⟨-, hknown⟩ := hresolved {} {} fun _ _ => ⟨rfl, rfl⟩
  have hkeys : ∀ c ∈ d.classes, ctx.entityKey c = ctx'.entityKey c := by
    intro c hc
    have hroot := (Hierarchy.wellFormed_ofDiagram d).root_mem hc
    have hlookup := (hknown _ (hids _ hroot)).1
    change keyIn ctx.keys _ = keyIn ctx'.keys ((Hierarchy.ofDiagram d').value.root c)
    rw [← hs.parents.root]
    exact congrArg (·.getD .default) hlookup
  refine ⟨agrees_build hagrees hkeys, fun c hc => ?_⟩
  have hlast := (Hierarchy.representative_mem (h := (Hierarchy.ofDiagram d).value) hc).1
  rw [prediction_of_mem d basePackage queryLimit hc,
    prediction_of_mem d' basePackage queryLimit (hs.classes hc), ← hs.representative c hc]
  exact hagrees.oneToMany_of_links hlast (hs.oneToManyLinks _ hlast)

end Context

end Scaffold
