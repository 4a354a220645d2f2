import Mathlib.Data.List.Sort
import Scaffold.Proofs.Prediction

/-!
# Hierarchies that agree

Two hierarchies agree, as far as the classes of the first go, if these classes are classes of the
second too, and have the same parents, members and collections there (`Hierarchy.Agrees`). The
one-to-many collections may come in another order, and the second hierarchy may have further
classes.

What is predicted for the classes is then the same, but for the order of the one-to-many
collections (`Prediction.Like`): wherever else the order of collections could show, only the names
of the fields count, and these are put in order.

Main statement: `Agrees.predict`.
-/

namespace Scaffold

open Naming

/-! ## Same parents -/

namespace Hierarchy

/-- Two hierarchies in which every class has the same parent. -/
structure SameParents (h h' : Hierarchy) : Prop where
  /-- The forest is the same. -/
  forest : h.forest = h'.forest
  /-- The parents are the same. -/
  parentOf : h.parentOf = h'.parentOf

namespace SameParents

variable {h h' : Hierarchy} (hs : h.SameParents h')
include hs

theorem climb : h.climb = h'.climb := by
  funext fuel
  induction fuel with
  | zero => rfl
  | succ fuel ih =>
    funext c
    simp only [Hierarchy.climb, hs.parentOf, ih]

theorem ancestors : h.ancestors = h'.ancestors := by
  funext c
  simp only [Hierarchy.ancestors, hs.climb, hs.forest]

theorem chain : h.chain = h'.chain := by
  funext c
  simp only [Hierarchy.chain, hs.ancestors]

theorem root : h.root = h'.root := by
  funext c
  simp only [Hierarchy.root, hs.ancestors]

theorem isParent : h.isParent = h'.isParent := by
  funext c
  simp only [Hierarchy.isParent, hs.forest]

theorem related : h.related = h'.related := by
  funext a b
  simp only [Hierarchy.related, hs.ancestors]

theorem leavesOut : h.leavesOut = h'.leavesOut := by
  funext c a
  simp only [Hierarchy.leavesOut, hs.parentOf]

theorem startMembers : h.startMembers = h'.startMembers := by
  funext c
  simp only [Hierarchy.startMembers, hs.parentOf]

theorem oneToManyOf? : h.oneToManyOf? = h'.oneToManyOf? := by
  funext owner other
  simp only [Hierarchy.oneToManyOf?, hs.related]

theorem primaryKey : Resolve.primaryKey h = Resolve.primaryKey h' := by
  funext c
  simp only [Resolve.primaryKey, hs.ancestors]

theorem entityKey : Resolve.entityKey h = Resolve.entityKey h' := by
  funext c
  simp only [Resolve.entityKey, hs.primaryKey, hs.root]

end SameParents

end Hierarchy

/-! ## Predictions -/

/-- Texts in order do not depend on the order in which they are given. -/
theorem Text.ordered_congr {l l' : List String} (hl : ∀ s, s ∈ l ↔ s ∈ l') :
    Text.ordered l = Text.ordered l' :=
  (pairwise_ordered l).eq_of_mem_iff (pairwise_ordered l') fun s => by
    rw [mem_ordered, mem_ordered, hl]

theorem Surface.ofFields_congr {l l' : List String} (hl : ∀ s, s ∈ l ↔ s ∈ l') :
    ofFields l = ofFields l' := by
  rw [ofFields, ofFields, Text.ordered_congr hl]

/-- Two predictions that differ in the order of the one-to-many collections only. -/
def Prediction.Like (p p' : Prediction) : Prop :=
  ∃ collections, p.oneToMany.Perm collections ∧ p' = { p with oneToMany := collections }

theorem Prediction.Like.eq {p p' : Prediction} (hp : p.Like p')
    (horder : p.oneToMany = p'.oneToMany) : p = p' := by
  obtain ⟨collections, -, rfl⟩ := hp
  exact congrArg (fun l => { p with oneToMany := l }) horder

namespace Hierarchy

/-! ## Agreement -/

/-- Two hierarchies, each with a table of members, that agree as far as the classes of the first
go. -/
structure Agrees (h h' : Hierarchy) (table table' : List (String × Members)) : Prop where
  /-- The forest of the first hierarchy is one that edges make. -/
  wellFormed : h.WellFormed
  /-- The classes of the first are classes of the second. -/
  classes : h.diagram.classes ⊆ h'.diagram.classes
  /-- Every class has the same parent. -/
  parents : h.SameParents h'
  /-- The same classes stand for all classes with one id. -/
  representative : ∀ c ∈ h.diagram.classes, h.representative c = h'.representative c
  /-- The classes can have the same one-to-many collections, in some order. -/
  oneToManyLinks : ∀ c ∈ h.diagram.classes, (h.oneToManyLinks c).Perm (h'.oneToManyLinks c)
  /-- The classes can have the same many-to-many collections. -/
  manyToManyLinks : ∀ c ∈ h.diagram.classes, h.manyToManyLinks c = h'.manyToManyLinks c
  /-- The classes have the same members. -/
  inTable : ∀ c ∈ h.diagram.classes, Members.inTable table c = Members.inTable table' c
  /-- The references lead to classes of the first. -/
  targets : ∀ c ∈ h.diagram.classes, ∀ r ∈ (Members.inTable table c).references,
    r.target ∈ h.diagram.classes

namespace Agrees

variable {h h' : Hierarchy} {table table' : List (String × Members)}
  (hs : h.Agrees h' table table') {c : ClassNode} (hc : c ∈ h.diagram.classes)
include hs hc

/-! ### Collections -/

theorem mem_collectionFields {field : String} :
    field ∈ h.collectionFields c ↔ field ∈ h'.collectionFields c := by
  have hoto := ((hs.oneToManyLinks c hc).map (·.fieldName)).mem_iff (a := field)
  rw [collectionFields, collectionFields, List.mem_append, List.mem_append, hoto,
    hs.manyToManyLinks c hc]

theorem mem_takenFields {field : String} :
    field ∈ h.takenFields table c ↔ field ∈ h'.takenFields table' c := by
  have hinherited : field ∈ h.inheritedFields table c ↔ field ∈ h'.inheritedFields table' c := by
    rw [inheritedFields, inheritedFields, List.mem_flatMap, List.mem_flatMap,
      ← hs.parents.ancestors]
    refine exists_congr fun a => and_congr_right fun ha => ?_
    have ha := hs.wellFormed.mem_classes ha
    rw [List.mem_append, List.mem_append, hs.inTable a ha, hs.mem_collectionFields ha]
  rw [takenFields, takenFields, List.mem_append, List.mem_append, hinherited, hs.inTable c hc]

theorem oneToManyObstacle? {l : OneToMany} (hl : l.related ∈ h.diagram.classes) :
    h.oneToManyObstacle? table c l = h'.oneToManyObstacle? table' c l := by
  simp only [Hierarchy.oneToManyObstacle?, hs.inTable _ hl, hs.mem_takenFields hc]

theorem oneToMany_eq_filter : h.oneToMany table c =
    (h.oneToManyLinks c).filter fun l => (h'.oneToManyObstacle? table' c l).isNone := by
  refine List.filter_congr fun l hl => ?_
  rw [hs.oneToManyObstacle? hc (fieldName_oneToMany hl).1]

/-- The same one-to-many collections are declared, in some order. -/
theorem oneToMany : (h.oneToMany table c).Perm (h'.oneToMany table' c) := by
  rw [hs.oneToMany_eq_filter hc]
  exact (hs.oneToManyLinks c hc).filter _

/-- The same one-to-many collections are declared in the same order, if the links have one order. -/
theorem oneToMany_of_links (hlinks : h.oneToManyLinks c = h'.oneToManyLinks c) :
    h.oneToMany table c = h'.oneToMany table' c := by
  rw [hs.oneToMany_eq_filter hc, hlinks]
  rfl

theorem manyToManyObstacle? (l : ManyToMany) :
    h.manyToManyObstacle? table c l = h'.manyToManyObstacle? table' c l := by
  have htaken : l.fieldName ∈ h.takenFields table c ++ (h.oneToMany table c).map (·.fieldName) ↔
      l.fieldName ∈ h'.takenFields table' c ++ (h'.oneToMany table' c).map (·.fieldName) := by
    rw [List.mem_append, List.mem_append, hs.mem_takenFields hc,
      ((hs.oneToMany hc).map (·.fieldName)).mem_iff]
  simp only [Hierarchy.manyToManyObstacle?, htaken]

theorem freeManyToMany : h.freeManyToMany table c = h'.freeManyToMany table' c := by
  simp only [Hierarchy.freeManyToMany, hs.manyToManyLinks c hc, hs.manyToManyObstacle? hc]

omit hc in
theorem ownerObstacle? {l : ManyToMany} (hl : l.related ∈ h.diagram.classes) :
    h.ownerObstacle? table l = h'.ownerObstacle? table' l := by
  simp only [Hierarchy.ownerObstacle?, hs.freeManyToMany hl]

/-- The same many-to-many collections are declared. -/
theorem manyToMany : h.manyToMany table c = h'.manyToMany table' c := by
  rw [Hierarchy.manyToMany, Hierarchy.manyToMany, ← hs.freeManyToMany hc]
  refine List.filter_congr fun l hl => ?_
  rw [hs.ownerObstacle? (fieldName_manyToMany (List.mem_of_mem_filter hl)).1]

/-! ### Fields and methods -/

theorem entityFields : (h.entityFields table c).Perm (h'.entityFields table' c) := by
  rw [Hierarchy.entityFields, Hierarchy.entityFields, hs.inTable c hc, hs.manyToMany hc]
  exact (((hs.oneToMany hc).map _).append_left _).append_right _

theorem mem_allEntityFields {field : String} :
    field ∈ h.allEntityFields table c ↔ field ∈ h'.allEntityFields table' c := by
  rw [Hierarchy.mem_allEntityFields, Hierarchy.mem_allEntityFields, ← hs.parents.chain]
  refine exists_congr fun a => and_congr_right fun ha => ?_
  exact (hs.entityFields (hs.wellFormed.mem_classes_of_mem_chain hc ha)).mem_iff

theorem allDtoFields : h.allDtoFields table c = h'.allDtoFields table' c := by
  rw [Hierarchy.allDtoFields, Hierarchy.allDtoFields, ← hs.parents.chain]
  refine List.flatMap_congr fun a ha => ?_
  rw [hs.inTable a (hs.wellFormed.mem_classes_of_mem_chain hc ha)]

theorem repositoryMethods (limit : Int) :
    h.repositoryMethods table limit c = h'.repositoryMethods table' limit c := by
  have hkeeps : ∀ r ∈ (Members.inTable table' c).references,
      h.keepsKey table r = h'.keepsKey table' r := by
    intro r hr
    rw [← hs.inTable c hc] at hr
    simp only [keepsKey, hs.mem_allEntityFields (hs.targets c hc r hr)]
  have hnames : h.repositoryQueryNames table limit c =
      h'.repositoryQueryNames table' limit c := by
    simp only [repositoryQueryNames, hs.inTable c hc, hs.mem_allEntityFields hc]
    congr 1
    refine List.flatMap_congr fun r hr => ?_
    rw [hkeeps r hr]
  rw [Hierarchy.repositoryMethods, Hierarchy.repositoryMethods, hnames]

theorem serviceMethods (limit : Int) :
    h.serviceMethods table limit c = h'.serviceMethods table' limit c := by
  rw [Hierarchy.serviceMethods, Hierarchy.serviceMethods, hs.repositoryMethods hc,
    hs.inTable c hc]

/-- The same is predicted, but for the order of the one-to-many collections. -/
theorem predict (limit : Int) (key : PrimaryKey) :
    (h.predict table limit key c).Like (h'.predict table' limit key c) := by
  refine ⟨h'.oneToMany table' c, hs.oneToMany hc, ?_⟩
  simp only [Hierarchy.predict, hs.manyToMany hc, hs.repositoryMethods hc, hs.serviceMethods hc,
    hs.allDtoFields hc, hs.inTable c hc,
    Surface.ofFields_congr fun _ => (hs.entityFields hc).mem_iff,
    Surface.ofFields_congr fun _ => hs.mem_allEntityFields hc]

end Agrees

end Hierarchy

end Scaffold
