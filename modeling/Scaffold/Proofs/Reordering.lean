import Mathlib.Data.List.Perm.Basic
import Scaffold.Proofs.Agreement.Edges
import Scaffold.Proofs.Lengths

/-!
# The order of classes

Classes are looked up by id and by name, resolved one after the other, and told apart by the fields
of their collections. If ids, names and these fields do not repeat, none of this depends on the
order of the classes: all lookups find the same, every class has the same members, and the links of
a class are the same, but for the order of the one-to-many links, which is that of the classes.

So contexts of two diagrams that differ in the order of their classes agree
(`Diagram.Reorders.agrees`), and what is generated for a class is the same, but for the order of the
fields of its entity.

Main statement: `classes_reordered`.
-/

namespace Scaffold

open Naming

/-! ## Lookups -/

section Lookup

variable {α : Type} {key : α → String} {l l' : List α}

/-- Without repeated keys, what is found for a key is the member that has it. -/
theorem find?_eq_some_iff_of_nodup (hl : (l.map key).Nodup) {k : String} {a : α} :
    l.find? (key · = k) = some a ↔ a ∈ l ∧ key a = k := by
  constructor
  · intro hfind
    exact ⟨List.mem_of_find?_eq_some hfind, by simpa using List.find?_some hfind⟩
  · rintro ⟨ha, rfl⟩
    have hreverse : (l.reverse.map key).Nodup := by
      rw [List.map_reverse]
      exact List.nodup_reverse.2 hl
    simpa using find?_reverse_of_nodup hreverse (List.mem_reverse.2 ha)

/-- Without repeated keys, the same is found in any order. -/
theorem find?_of_perm (hperm : l.Perm l') (hl : (l.map key).Nodup) (k : String) :
    l.find? (key · = k) = l'.find? (key · = k) := by
  have hl' : (l'.map key).Nodup := (hperm.map key).nodup_iff.1 hl
  refine Option.ext fun a => ?_
  rw [find?_eq_some_iff_of_nodup hl, find?_eq_some_iff_of_nodup hl', hperm.mem_iff]

end Lookup

/-! ## Members -/

namespace Hierarchy

/-- Two hierarchies with the same parents, in which attributes are references to the same
classes. -/
structure SameMembers (h h' : Hierarchy) : Prop where
  /-- The parents are the same. -/
  parents : h.SameParents h'
  /-- Attributes are references to the same classes. -/
  referenceTarget? : h.diagram.referenceTarget? = h'.diagram.referenceTarget?

namespace SameMembers

variable {h h' : Hierarchy} (hs : h.SameMembers h')
include hs

theorem keyOf : h.keyOf = h'.keyOf := by
  funext c
  simp only [Hierarchy.keyOf, hs.parents.ancestors]

theorem entityKeyOf : h.entityKeyOf = h'.entityKeyOf := by
  funext c
  simp only [Hierarchy.entityKeyOf, hs.keyOf, hs.parents.root]

theorem memberField : h.memberField = h'.memberField := by
  funext c a
  simp only [Hierarchy.memberField, hs.keyOf]

theorem addMember : h.addMember = h'.addMember := by
  funext c m a
  simp only [Hierarchy.addMember, referenceOf, scalarOf, hs.parents.leavesOut, hs.memberField,
    hs.entityKeyOf, hs.referenceTarget?]

theorem settledMembers : h.settledMembers = h'.settledMembers := by
  funext c inherited
  simp only [Hierarchy.settledMembers, ownMembers, hs.parents.startMembers, hs.addMember]

theorem dtoFieldsAlong : h.dtoFieldsAlong = h'.dtoFieldsAlong := by
  funext path
  induction path with
  | nil => rfl
  | cons c rest ih => simp only [Hierarchy.dtoFieldsAlong, hs.settledMembers, ih]

theorem membersOf : h.membersOf = h'.membersOf := by
  funext c
  simp only [Hierarchy.membersOf, hs.settledMembers, hs.dtoFieldsAlong, hs.parents.ancestors]

end SameMembers

end Hierarchy

/-! ## Reordered diagrams -/

namespace Diagram

/-- Two diagrams that differ in the order of their classes only. Ids, names and the fields of
collections do not repeat. -/
structure Reorders (d d' : Diagram) : Prop where
  /-- The classes are the same, in some order. -/
  classes : d.classes.Perm d'.classes
  /-- The edges are the same. -/
  relationships : d.relationships = d'.relationships
  /-- The association tables are the same. -/
  tables : d.associationTables = d'.associationTables
  /-- No two classes have one id. -/
  ids : d.DistinctIds
  /-- No two classes have one name. -/
  names : d.DistinctNames
  /-- Classes with different names have collections with different names. -/
  fields : d.DistinctCollections

namespace Reorders

variable {d d' : Diagram} (hs : d.Reorders d')
include hs

theorem symm : d'.Reorders d where
  classes := hs.classes.symm
  relationships := hs.relationships.symm
  tables := hs.tables.symm
  ids := (hs.classes.map _).nodup_iff.1 hs.ids
  names := (hs.classes.map _).nodup_iff.1 hs.names
  fields c hc c' hc' := hs.fields c (hs.classes.mem_iff.2 hc) c' (hs.classes.mem_iff.2 hc')

theorem classById : d.classById = d'.classById := by
  funext id
  have hperm : d.classes.reverse.Perm d'.classes.reverse :=
    (List.reverse_perm _).trans (hs.classes.trans (List.reverse_perm _).symm)
  have hids : (d.classes.reverse.map (·.id)).Nodup := by
    rw [List.map_reverse]
    exact List.nodup_reverse.2 hs.ids
  exact find?_of_perm hperm hids id

theorem classByName : d.classByName = d'.classByName := by
  funext name
  rw [Diagram.classByName, Diagram.classByName, find?_of_perm hs.classes hs.names name]

theorem sharesEdges : d.SharesEdges d' where
  relationships := hs.relationships
  tables := hs.tables
  ids _ _ := congrFun hs.classById _
  ends _ _ := ⟨congrFun hs.classById _, congrFun hs.classById _⟩

theorem sameMembers :
    (Hierarchy.ofDiagram d).value.SameMembers (Hierarchy.ofDiagram d').value where
  parents := hs.sharesEdges.sameParents
  referenceTarget? := by
    funext a
    change d.referenceTarget? a = d'.referenceTarget? a
    rw [Diagram.referenceTarget?, Diagram.referenceTarget?, hs.classByName]

/-- No two one-to-many collections of a class have one field, so all that there can be are there. -/
theorem deriveOneToMany_eq (c : ClassNode) :
    (Hierarchy.ofDiagram d).value.deriveOneToMany c =
      d.classes.filterMap ((Hierarchy.ofDiagram d).value.oneToManyOf? c) := by
  have hclasses : (d.classes.map fun related => collectionField related.name).Nodup :=
    (List.Nodup.of_map _ hs.ids).map_on fun _ ha _ hb hfield =>
      eq_of_collectionField hs.names hs.fields ha hb hfield
  refine distinctBy_eq_self (hclasses.sublist ?_)
  refine map_filterMap_sublist fun related _ l hl => ?_
  obtain ⟨rfl, hfield, -⟩ := Hierarchy.oneToManyOf?_sound hl
  exact hfield

/-- A class has the same one-to-many links, in some order. -/
theorem oneToManyLinks (c : ClassNode) :
    ((Hierarchy.ofDiagram d).value.oneToManyLinks c).Perm
      ((Hierarchy.ofDiagram d').value.oneToManyLinks c) := by
  have hrepresentative : (Hierarchy.ofDiagram d).value.representative c =
      (Hierarchy.ofDiagram d').value.representative c :=
    congrArg (·.getD c) (congrFun hs.classById c.id)
  rw [Hierarchy.oneToManyLinks, Hierarchy.oneToManyLinks, hs.deriveOneToMany_eq,
    hs.symm.deriveOneToMany_eq, hrepresentative, hs.sharesEdges.sameParents.oneToManyOf?]
  exact hs.classes.filterMap _

/-- The contexts of the diagrams agree. -/
theorem agrees (basePackage : String) (queryLimit : Int) :
    (Context.build d basePackage queryLimit).value.Agrees
      (Context.build d' basePackage queryLimit).value := by
  have hh := Hierarchy.wellFormed_ofDiagram d
  have hmem : ∀ c ∈ d.classes, c ∈ d'.classes := fun c hc => hs.classes.mem_iff.1 hc
  refine Context.agrees_build
    { wellFormed := hh
      classes := hmem
      parents := hs.sharesEdges.sameParents
      representative := fun c hc => hs.sharesEdges.representative hc
      oneToManyLinks := fun c _ => hs.oneToManyLinks c
      manyToManyLinks := fun c hc => hs.sharesEdges.manyToManyLinks hc
      inTable := fun c hc => ?_
      targets := fun c _ => ((Context.known_build d basePackage queryLimit).2 c).targets }
    fun c hc => ?_
  · rw [Context.inTable_build hs.ids _ _ hc, Context.inTable_build hs.symm.ids _ _ (hmem c hc),
      hs.sameMembers.membersOf]
  · rw [Context.entityKey_build hs.ids _ _ hc, Context.entityKey_build hs.symm.ids _ _ (hmem c hc),
      hs.sameMembers.entityKeyOf]

/-- There are predictions for the same ids. -/
theorem predictions_perm (basePackage : String) (queryLimit : Int) :
    ((Context.build d basePackage queryLimit).value.predictions.map Prod.fst).Perm
      ((Context.build d' basePackage queryLimit).value.predictions.map Prod.fst) := by
  have hids : ∀ {d : Diagram}, d.DistinctIds →
      (Context.build d basePackage queryLimit).value.predictions.map Prod.fst =
        d.classes.map (·.id) := by
    intro d hd
    have hclasses : distinctBy (·.id) d.classes = d.classes := distinctBy_eq_self hd
    change (List.map _ (distinctBy (·.id) d.classes)).map Prod.fst = _
    rw [hclasses, List.map_map]
    rfl
  rw [hids hs.ids, hids hs.symm.ids]
  exact hs.classes.map _

end Reorders

end Diagram

/-! ## Files -/

namespace Context

/-- Two contexts give the same files for a class, apart from the entity. -/
structure SameFiles (ctx ctx' : Context) (c : ClassNode) : Prop where
  /-- The transfer object is the same. -/
  dto : Scaffold.dto ctx c = Scaffold.dto ctx' c
  /-- The mapper is the same. -/
  mapper : (Scaffold.mapper ctx c).value = (Scaffold.mapper ctx' c).value
  /-- The repository is the same. -/
  repository : Scaffold.repository ctx c = Scaffold.repository ctx' c
  /-- The service is the same. -/
  service : Scaffold.service ctx c = Scaffold.service ctx' c
  /-- The implementation of the service is the same. -/
  serviceImplementation :
    (Scaffold.serviceImplementation ctx c).value = (Scaffold.serviceImplementation ctx' c).value
  /-- The controller is the same. -/
  controller : (Scaffold.controller ctx c).value = (Scaffold.controller ctx' c).value

namespace Agrees

variable {ctx ctx' : Context} (hs : ctx.Agrees ctx')
include hs

theorem sameFiles {c : ClassNode} (hc : c ∈ ctx.diagram.classes) : ctx.SameFiles ctx' c where
  dto := hs.dto hc
  mapper := by rw [hs.mapper hc]
  repository := hs.repository hc
  service := hs.service hc
  serviceImplementation := by rw [hs.serviceImplementation hc]
  controller := by rw [hs.controller hc]

/-- Whether the entity of a class is generated depends on its members only. -/
theorem entity_succeeds {c : ClassNode} (hc : c ∈ ctx.diagram.classes) :
    (Scaffold.entity ctx c).Succeeds ↔ (Scaffold.entity ctx' c).Succeeds := by
  rw [entity_succeeds_iff, entity_succeeds_iff, hs.membersOf hc]

/-- What follows the entities is the same, if the classes of the contexts are the same in some
order. -/
theorem later_perm (hclasses : ctx.diagram.classes.Perm ctx'.diagram.classes)
    (hjoin : ctx.joinArtifacts = ctx'.joinArtifacts) : ctx.later.Perm ctx'.later := by
  rw [later, later, hjoin]
  refine List.Perm.append_left _ (List.Perm.flatMap_left _ fun g _ => ?_)
  have hfiles : ctx.diagram.classes.flatMap (ctx.ownedFiles g) =
      ctx.diagram.classes.flatMap (ctx'.ownedFiles g) :=
    List.flatMap_congr fun c hc => hs.ownedFiles hc g
  rw [hfiles]
  exact hclasses.flatMap_right _

end Agrees

/-- The entities come first, one for each class, and then what follows them. -/
theorem artifacts_parts {ctx : Context} {artifacts : List Artifact}
    (hartifacts : ctx.artifacts.run.value = .ok artifacts) :
    ∃ entities, artifacts = entities ++ ctx.later.map OwnedArtifact.artifact ∧
      List.Forall₂ (fun c e => ctx.entityArtifact c = .ok e) ctx.diagram.classes entities := by
  rw [value_artifacts] at hartifacts
  cases hentities : ctx.diagram.classes.mapM ctx.entityArtifact with
  | error e =>
    rw [hentities] at hartifacts
    cases hartifacts
  | ok entities =>
    rw [hentities] at hartifacts
    exact ⟨entities, (Except.ok.inj hartifacts).symm, mapM_eq_ok_iff.1 hentities⟩

/-- The paths of entities are made from the names of their classes. -/
theorem map_path_of_forall₂ {ctx : Context} {classes : List ClassNode} {entities : List Artifact}
    (hentities : List.Forall₂ (fun c e => ctx.entityArtifact c = .ok e) classes entities) :
    entities.map Artifact.path = classes.map fun c => (Artifact.mk .entities c.name "").path := by
  induction hentities with
  | nil => rfl
  | cons he _ ih =>
    obtain ⟨text, -, rfl⟩ := entityArtifact_eq_ok.1 he
    rw [List.map_cons, List.map_cons, ih]
    rfl

end Context

/-- If ids, names and the fields of collections do not repeat, the order of the classes shows in
nothing that is generated for a class but the order of the collections of its entity. -/
theorem classes_reordered (d d' : Diagram) (hs : d.Reorders d') (basePackage : String)
    (queryLimit : Int) :
    let ctx := (Context.build d basePackage queryLimit).value
    let ctx' := (Context.build d' basePackage queryLimit).value
    (∀ c ∈ d.classes, ctx.SameFiles ctx' c ∧
      (Entity.properties ctx c).Perm (Entity.properties ctx' c)) ∧
    (∀ t ∈ d.associationTables, (joinEntity ctx t).value = (joinEntity ctx' t).value) ∧
    (ctx.predictions.map Prod.fst).Perm (ctx'.predictions.map Prod.fst) ∧
    (∀ c ∈ d.classes, ∃ p p', ctx.predictions.lookup c.id = some p ∧
      ctx'.predictions.lookup c.id = some p' ∧ p.Like p') ∧
    ∀ artifacts, (d.generate basePackage queryLimit).run.value = .ok artifacts →
      ∃ artifacts', (d'.generate basePackage queryLimit).run.value = .ok artifacts' ∧
        (artifacts.map Artifact.path).Perm (artifacts'.map Artifact.path) ∧
        (artifacts.drop d.classes.length).Perm (artifacts'.drop d'.classes.length) := by
  intro ctx ctx'
  have hagrees : ctx.Agrees ctx' := hs.agrees basePackage queryLimit
  have hmem : ∀ c ∈ d.classes, c ∈ d'.classes := fun c hc => hs.classes.mem_iff.1 hc
  have htargets : ∀ a : Attribute, a.referencedEntity.bind ctx.diagram.classByName =
      a.referencedEntity.bind ctx'.diagram.classByName := by
    intro a
    change a.referencedEntity.bind d.classByName = a.referencedEntity.bind d'.classByName
    rw [hs.classByName]
  refine ⟨fun c hc => ⟨hagrees.sameFiles hc, hagrees.properties hc⟩, fun t _ => ?_,
    hs.predictions_perm basePackage queryLimit, fun c hc => ?_, fun artifacts hartifacts => ?_⟩
  · rw [hagrees.joinEntity fun a _ => htargets a]
  · exact ⟨_, _, Context.lookup_predictions d basePackage queryLimit hc,
      Context.lookup_predictions d' basePackage queryLimit (hmem c hc), hagrees.prediction c hc⟩
  · rw [fst_run_generate] at hartifacts
    have hentities : ∀ c ∈ d.classes, (entity ctx c).Succeeds :=
      ctx.artifacts_succeeds_iff.1 ⟨artifacts, hartifacts⟩
    have hentities' : ∀ c ∈ d'.classes, (entity ctx' c).Succeeds := by
      intro c hc
      have hc : c ∈ d.classes := hs.classes.mem_iff.2 hc
      exact (hagrees.entity_succeeds hc).1 (hentities c hc)
    obtain ⟨artifacts', hartifacts'⟩ := ctx'.artifacts_succeeds_iff.2 hentities'
    obtain ⟨entities, rfl, hparts⟩ := Context.artifacts_parts hartifacts
    obtain ⟨entities', rfl, hparts'⟩ := Context.artifacts_parts hartifacts'
    have hlength : entities.length = d.classes.length := hparts.length_eq.symm
    have hlength' : entities'.length = d'.classes.length := hparts'.length_eq.symm
    have hlater : (ctx.later.map OwnedArtifact.artifact).Perm
        (ctx'.later.map OwnedArtifact.artifact) :=
      (hagrees.later_perm hs.classes (hagrees.joinArtifacts hs.tables fun _ _ a _ =>
        htargets a)).map _
    refine ⟨_, hartifacts', ?_, ?_⟩
    · rw [List.map_append, List.map_append, Context.map_path_of_forall₂ hparts,
        Context.map_path_of_forall₂ hparts']
      exact (hs.classes.map _).append (hlater.map _)
    · rw [← hlength, ← hlength', List.drop_left, List.drop_left]
      exact hlater

/-- A foreign key to a class. -/
def referring (name target : String) : Attribute where
  name := name
  isForeignKey := true
  referencedEntity := some target

/-- Owners of animals. -/
def owner : ClassNode where
  id := "o"
  name := "Owner"
  attributes :=
    [{ name := "id", type := "Long", isPrimaryKey := true },
      { name := "surname", sqlType := some "VARCHAR(40)" }]

/-- Owners have cats and dogs, which know each other and are fed together. -/
def kennel : Diagram where
  classes :=
    [owner, { id := "c", name := "Cat", attributes := [referring "owner_id" "Owner"] },
      { id := "d", name := "Dog", attributes := [referring "owner_id" "Owner"] }]
  relationships := [crossing "knows" "c" "d"]
  associationTables :=
    [{ id := "f", name := "Feeding", tableName := "feeding"
       foreignKeys := [referring "cat_id" "Cat", referring "dog_id" "Dog"] }]

theorem classes_reordered_kennel :
    let other := { kennel with classes := kennel.classes.reverse }
    let ctx := (Context.build kennel "app" 3).value
    let ctx' := (Context.build other "app" 3).value
    kennel.Reorders other ∧ owner ∈ kennel.classes ∧ ctx.SameFiles ctx' owner ∧
      (ctx.prediction owner).oneToMany.map (·.fieldName) = ["cats", "dogs"] ∧
      (ctx'.prediction owner).oneToMany.map (·.fieldName) = ["dogs", "cats"] ∧
      ∃ artifacts artifacts', (kennel.generate "app" 3).run.value = .ok artifacts ∧
        (other.generate "app" 3).run.value = .ok artifacts' ∧
        (artifacts.map Artifact.path).Perm (artifacts'.map Artifact.path) := by
  intro other ctx ctx'
  have hreorders : kennel.Reorders other :=
    { classes := (List.reverse_perm _).symm
      relationships := rfl
      tables := rfl
      ids := by decide
      names := by decide
      fields := by decide +kernel }
  have hread : ∀ c ∈ kennel.classes, ∀ a ∈ c.attributes, a.Declarable := by
    decide +kernel
  obtain ⟨artifacts, hartifacts⟩ := Diagram.generate_succeeds "app" 3 hread
  obtain ⟨hclasses, -, -, -, hgenerated⟩ := classes_reordered kennel other hreorders "app" 3
  obtain ⟨artifacts', hartifacts', hperm, -⟩ := hgenerated artifacts hartifacts
  exact ⟨hreorders, List.mem_cons_self, (hclasses owner List.mem_cons_self).1, by decide +kernel,
    by decide +kernel, artifacts, artifacts', hartifacts, hartifacts', hperm⟩

end Scaffold
