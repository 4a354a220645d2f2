import Scaffold.Proofs.Agreement.Build
import Scaffold.Proofs.Agreement.Edges
import Scaffold.Proofs.Ownership

/-!
# Edges that do not matter

Of the edges of a diagram, inheritance edges make the forest, and transparent many-to-many edges
give collections. Nothing else that is generated looks at edges, so two diagrams that have the same
classes and tables, and the same edges of these two kinds, have the same artifacts.

The hierarchies of such diagrams are alike (`Hierarchy.Alike`), so that the contexts that are built
from them agree, with the same classes in the same order (`Context.Alike`).

Main statement: `artifacts_independent`.
-/

namespace Scaffold

open Naming Java

/-! ## Alike hierarchies -/

namespace Hierarchy

/-- Two hierarchies of the same classes that differ in their edges only, and in no edge that gives
a class a parent or a collection. -/
structure Alike (h h' : Hierarchy) : Prop where
  /-- The classes are the same. -/
  classes : h.diagram.classes = h'.diagram.classes
  /-- The association tables are the same. -/
  tables : h.diagram.associationTables = h'.diagram.associationTables
  /-- The forest is the same. -/
  forest : h.forest = h'.forest
  /-- Each class can have the same many-to-many collections. -/
  links : h.manyToManyLinks = h'.manyToManyLinks

namespace Alike

variable {h h' : Hierarchy} (hs : h.Alike h')
include hs

theorem classById : h.diagram.classById = h'.diagram.classById := by
  funext id
  simp only [Diagram.classById, hs.classes]

theorem classByName : h.diagram.classByName = h'.diagram.classByName := by
  funext name
  simp only [Diagram.classByName, hs.classes]

theorem referenceTarget? : h.diagram.referenceTarget? = h'.diagram.referenceTarget? := by
  funext a
  simp only [Diagram.referenceTarget?, hs.classByName]

theorem sameParents : h.SameParents h' where
  forest := hs.forest
  parentOf := by
    funext c
    simp only [Hierarchy.parentOf, hs.forest, hs.classById]

theorem representative : h.representative = h'.representative := by
  funext c
  simp only [Hierarchy.representative, hs.classById]

theorem oneToManyLinks : h.oneToManyLinks = h'.oneToManyLinks := by
  funext c
  simp only [Hierarchy.oneToManyLinks, deriveOneToMany, hs.sameParents.oneToManyOf?, hs.classes,
    hs.representative]

end Alike

end Hierarchy

/-! ## Edges -/

/-- The transparent many-to-many edges of a diagram, in order. -/
def Diagram.transparentEdges (d : Diagram) : List Relationship :=
  d.relationships.filter fun r => (d.classify r).isTransparent

/-- What edges give a class comes from the transparent ones. -/
theorem Hierarchy.pairCandidates_eq {d : Diagram} (hd : d.DistinctEdges) (c : ClassNode) :
    pairCandidates d c =
      keepFirst PairCandidate.field?
        (d.transparentEdges.filterMap fun r => pairCandidate? d c (d.classify r)) := by
  rw [pairCandidates, hd.relations_eq, List.filterMap_map, Diagram.transparentEdges,
    List.filterMap_filter]
  congr 2
  funext r
  cases htransparent : (d.classify r).isTransparent with
  | true => rfl
  | false => simp [pairCandidate?, htransparent]

section Same

variable {d d' : Diagram} (hclasses : d.classes = d'.classes)
include hclasses

theorem Diagram.classById_congr : d.classById = d'.classById := by
  funext id
  simp only [classById, hclasses]

/-- The hierarchies of two diagrams are alike if the inheritance edges and the transparent edges
are the same. -/
theorem Hierarchy.alike_ofDiagram (htables : d.associationTables = d'.associationTables)
    (hedges : d.DistinctEdges) (hedges' : d'.DistinctEdges)
    (hparents : d.inheritanceEdges = d'.inheritanceEdges)
    (hpairs : d.transparentEdges = d'.transparentEdges) :
    (ofDiagram d).value.Alike (ofDiagram d').value where
  classes := hclasses
  tables := htables
  forest := by
    have hids := Diagram.classById_congr hclasses
    change Forest.addAll d {} d.inheritanceEdges = Forest.addAll d' {} d'.inheritanceEdges
    rw [← hparents]
    exact Forest.addAll_congr (fun r _ => ⟨congrFun hids _, congrFun hids _⟩) {}
  links := by
    have hids := Diagram.classById_congr hclasses
    have hclassify : d.classify = d'.classify := by
      funext r
      exact Diagram.classify_congr (congrFun hids _) (congrFun hids _) htables
    have hcandidates : pairCandidates d = pairCandidates d' := by
      funext c
      have hcandidate : pairCandidate? d c = pairCandidate? d' c := by
        funext relation
        simp only [pairCandidate?, hids]
      rw [pairCandidates_eq hedges, pairCandidates_eq hedges', hpairs, hcandidate, hclassify]
    funext c
    simp only [manyToManyLinks, deriveManyToMany, representative, ofDiagram, hcandidates, hids]

end Same

/-! ## Alike contexts -/

namespace Context

/-- Two contexts that agree, with the same classes and tables in the same order. -/
structure Alike (ctx ctx' : Context) : Prop where
  /-- The contexts agree. -/
  agrees : ctx.Agrees ctx'
  /-- The classes are the same. -/
  classes : ctx.diagram.classes = ctx'.diagram.classes
  /-- The association tables are the same. -/
  tables : ctx.diagram.associationTables = ctx'.diagram.associationTables
  /-- The one-to-many collections come in the same order. -/
  oneToMany : ∀ c ∈ ctx.diagram.classes,
    (ctx.prediction c).oneToMany = (ctx'.prediction c).oneToMany

theorem alike_build {d d' : Diagram}
    (hs : (Hierarchy.ofDiagram d).value.Alike (Hierarchy.ofDiagram d').value)
    (basePackage : String) (queryLimit : Int) :
    (build d basePackage queryLimit).value.Alike (build d' basePackage queryLimit).value := by
  have hclasses : d.classes = d'.classes := hs.classes
  have hlinks : d.SharesLinks d' :=
    { classes := fun _ hc => hclasses ▸ hc
      parents := hs.sameParents
      representative := fun c _ => congrFun hs.representative c
      oneToManyLinks := fun c _ => congrFun hs.oneToManyLinks c
      manyToManyLinks := fun c _ => congrFun hs.links c }
  have hreferences :
      (Hierarchy.ofDiagram d).value.SharesReferences (Hierarchy.ofDiagram d').value :=
    { wellFormed := Hierarchy.wellFormed_ofDiagram d
      parents := hs.sameParents
      referenceTarget := fun _ _ a _ => congrFun hs.referenceTarget? a }
  have hresolved : Resolve.Matches (fun _ => True)
      (resolveAll (Hierarchy.ofDiagram d).value) (resolveAll (Hierarchy.ofDiagram d').value)
      fun _ _ => True :=
    Resolve.matches_resolveAll hreferences (fun _ _ => trivial) (p := fun _ => true)
      (by rw [List.filter_true]; exact hs.classes) hlinks.oneToManyLinks
      (fun _ _ hp => by cases hp)
  obtain ⟨hagrees, horder⟩ :=
    agrees_of_matches hlinks (fun _ _ => trivial) hresolved basePackage queryLimit
  exact ⟨hagrees, hs.classes, hs.tables, horder⟩

/-- Alike contexts give the same artifacts. -/
theorem Alike.artifacts {ctx ctx' : Context} (hs : ctx.Alike ctx') :
    ctx.artifacts.run.value = ctx'.artifacts.run.value := by
  have hnames : ctx.diagram.classByName = ctx'.diagram.classByName := by
    funext name
    simp only [Diagram.classByName, hs.classes]
  have hjoin : ctx.joinArtifacts = ctx'.joinArtifacts :=
    hs.agrees.joinArtifacts hs.tables fun _ _ a _ => by rw [hnames]
  have howned : List.filter (fun _ => true) <$> ctx'.owned = ctx.owned :=
    hs.agrees.filter_owned (p := fun _ => true) rfl (by rw [List.filter_true, hs.classes])
      hs.oneToMany hjoin fun _ _ hp => by cases hp
  have hall : (List.filter fun _ : OwnedArtifact => true) = id := funext fun _ => List.filter_true _
  rw [hall, id_map] at howned
  rw [← map_artifact_owned, ← map_artifact_owned, howned]

end Context

/-- Two diagrams with the same classes and association tables, whose inheritance edges are the same
and whose transparent many-to-many edges are the same, have the same artifacts. -/
theorem artifacts_independent (d d' : Diagram) (hclasses : d.classes = d'.classes)
    (htables : d.associationTables = d'.associationTables) (hedges : d.DistinctEdges)
    (hedges' : d'.DistinctEdges) (hparents : d.inheritanceEdges = d'.inheritanceEdges)
    (hpairs : d.transparentEdges = d'.transparentEdges) (basePackage : String)
    (queryLimit : Int) :
    (d.generate basePackage queryLimit).run.value =
      (d'.generate basePackage queryLimit).run.value := by
  have halike := Hierarchy.alike_ofDiagram hclasses htables hedges hedges' hparents hpairs
  rw [fst_run_generate, fst_run_generate,
    (Context.alike_build halike basePackage queryLimit).artifacts]

/-- An edge from a parent to a child. -/
def inheriting (id parent child : String) : Relationship where
  id := id
  source := parent
  target := child
  type := inheritanceType
  sourceMultiplicity := "1"
  targetMultiplicity := "*"

/-- An edge of a type that gives no field. -/
def mentioning (id type source target : String) : Relationship where
  id := id
  source := source
  target := target
  type := type
  sourceMultiplicity := "1"
  targetMultiplicity := "*"

/-- A school with two edges that count. -/
def quietSchool : Diagram where
  classes := school.classes
  relationships := [inheriting "p" "1" "3", crossing "a" "1" "2"]

/-- The same school with the edges in another order, and others between them. -/
def busySchool : Diagram where
  classes := school.classes
  relationships :=
    [mentioning "d" "dependency" "2" "3", crossing "a" "1" "2", mentioning "x" "friend" "1" "2",
      inheriting "p" "1" "3", mentioning "i" "implementation" "3" "2"]

theorem artifacts_independent_school :
    quietSchool.DistinctEdges ∧ busySchool.DistinctEdges ∧
      quietSchool.inheritanceEdges = busySchool.inheritanceEdges ∧
      quietSchool.transparentEdges = busySchool.transparentEdges ∧
      quietSchool.transparentEdges = [crossing "a" "1" "2"] ∧
      (quietSchool.generate "app" 3).run.value = (busySchool.generate "app" 3).run.value := by
  have hedges : quietSchool.DistinctEdges := by decide
  have hedges' : busySchool.DistinctEdges := by decide
  have hparents : quietSchool.inheritanceEdges = busySchool.inheritanceEdges := by decide
  have hpairs : quietSchool.transparentEdges = busySchool.transparentEdges := by decide +kernel
  exact ⟨hedges, hedges', hparents, hpairs, by decide +kernel,
    artifacts_independent quietSchool busySchool rfl rfl hedges hedges' hparents hpairs "app" 3⟩

end Scaffold
