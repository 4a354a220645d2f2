import Scaffold.Backend.Artifact
import Scaffold.Proofs.Agreement.Hierarchy

/-!
# Contexts that agree

Two contexts agree, as far as the classes of the first go, if their hierarchies do and the same is
predicted for these classes, but for the order of the one-to-many collections (`Context.Agrees`).
Then all generators but that of entities give the same for these classes. The entity of a class has
the same properties in some order, and is the same if the one-to-many collections come in the same
order.

The equations come in the order in which the functions use each other. A generator looks at the
class that it is called for, at its ancestors and at the classes that their references lead to, so
for each call of an accessor there is the condition that it is about a class of the first context.

Main statements: `agrees_build`, and one theorem for each generator.
-/

namespace Scaffold

open Naming Java

/-- What is kept depends on the obstacles of the members of the list only. -/
theorem keepFree_congr {α : Type} {obstacle? other? : α → Option Diagnostic} {l : List α}
    (hl : ∀ a ∈ l, obstacle? a = other? a) : keepFree obstacle? l = keepFree other? l := by
  have hfilter : (l.filter fun a => (obstacle? a).isNone) =
      l.filter fun a => (other? a).isNone :=
    List.filter_congr fun a ha => by rw [hl a ha]
  rw [keepFree, keepFree, hfilter, List.filterMap_congr hl]

namespace Context

/-- Two contexts that agree as far as the classes of the first go. -/
structure Agrees (ctx ctx' : Context) : Prop where
  /-- The hierarchies agree, with the members of the contexts. -/
  hierarchy : ctx.hierarchy.Agrees ctx'.hierarchy ctx.members ctx'.members
  /-- The packages are the same. -/
  basePackage : ctx.basePackage = ctx'.basePackage
  /-- The limits are the same. -/
  queryLimit : ctx.queryLimit = ctx'.queryLimit
  /-- The entities have the same keys. -/
  entityKey : ∀ c ∈ ctx.diagram.classes, ctx.entityKey c = ctx'.entityKey c
  /-- The same is predicted, but for the order of the one-to-many collections. -/
  prediction : ∀ c ∈ ctx.diagram.classes, (ctx.prediction c).Like (ctx'.prediction c)

/-- Two contexts that are built from diagrams whose hierarchies agree, and which hold the same keys,
agree. -/
theorem agrees_build {d d' : Diagram} {basePackage : String} {queryLimit : Int}
    (hs : (Hierarchy.ofDiagram d).value.Agrees (Hierarchy.ofDiagram d').value
      (build d basePackage queryLimit).value.members
      (build d' basePackage queryLimit).value.members)
    (hkeys : ∀ c ∈ d.classes, (build d basePackage queryLimit).value.entityKey c =
      (build d' basePackage queryLimit).value.entityKey c) :
    (build d basePackage queryLimit).value.Agrees (build d' basePackage queryLimit).value where
  hierarchy := hs
  basePackage := rfl
  queryLimit := rfl
  entityKey := hkeys
  prediction := by
    intro c hc
    have hlast := (Hierarchy.representative_mem (h := (Hierarchy.ofDiagram d).value) hc).1
    rw [prediction_of_mem d basePackage queryLimit hc,
      prediction_of_mem d' basePackage queryLimit (hs.classes hc), ← hs.representative c hc,
      ← hkeys _ hlast]
    exact hs.predict hlast queryLimit _

namespace Agrees

variable {ctx ctx' : Context} (hs : ctx.Agrees ctx')
include hs

/-! ### Packages -/

theorem groupPackage : ctx.groupPackage = ctx'.groupPackage := by
  funext group
  simp only [Context.groupPackage, package, hs.basePackage]

theorem groupImport : ctx.groupImport = ctx'.groupImport := by
  funext group name
  simp only [Context.groupImport, importOf, package, hs.basePackage]

/-! ### Calls -/

theorem predicts {call : AccessorCall} (hcall : call.owner ∈ ctx.diagram.classes) :
    ctx.predicts call = ctx'.predicts call := by
  have hsurface : ctx.surface call.owner call.bean = ctx'.surface call.owner call.bean := by
    obtain ⟨_, -, hlike⟩ := hs.prediction _ hcall
    cases call.bean <;> simp only [surface, hlike]
  rw [Context.predicts, Context.predicts, hsurface]

theorem predictsAll {calls : List AccessorCall}
    (hcalls : ∀ call ∈ calls, call.owner ∈ ctx.diagram.classes) :
    ctx.predictsAll calls = ctx'.predictsAll calls := by
  rw [Bool.eq_iff_iff, predictsAll_iff, predictsAll_iff]
  refine forall₂_congr fun call hcall => ?_
  rw [hs.predicts (hcalls call hcall)]

theorem obstacle? {calls : List AccessorCall}
    (hcalls : ∀ call ∈ calls, call.owner ∈ ctx.diagram.classes) (note : Diagnostic) :
    ctx.obstacle? calls note = ctx'.obstacle? calls note := by
  rw [Context.obstacle?, Context.obstacle?, hs.predictsAll hcalls]

/-! ### Join entities -/

section JoinEntities

variable {t : AssociationTable} (ht : ∀ a ∈ t.foreignKeys,
  a.referencedEntity.bind ctx.diagram.classByName =
    a.referencedEntity.bind ctx'.diagram.classByName)
include ht

theorem keyColumns : Scaffold.keyColumns ctx t = Scaffold.keyColumns ctx' t := by
  have hcolumn : ∀ used, ∀ a ∈ t.foreignKeys,
      JoinEntity.keyColumn ctx used a = JoinEntity.keyColumn ctx' used a := by
    intro used a ha
    have htype : JoinEntity.keyType ctx a (a.referencedEntity.bind ctx.diagram.classByName) =
        JoinEntity.keyType ctx' a (a.referencedEntity.bind ctx.diagram.classByName) := by
      cases htarget : a.referencedEntity.bind ctx.diagram.classByName with
      | none => rfl
      | some target =>
        obtain ⟨name, -, hname⟩ := Option.bind_eq_some_iff.1 htarget
        simp only [JoinEntity.keyType, hs.entityKey target (Diagram.mem_of_classByName hname)]
    rw [JoinEntity.keyColumn, JoinEntity.keyColumn, htype, ht a ha]
  have hfrom : ∀ l ⊆ t.foreignKeys, ∀ used,
      JoinEntity.keyColumnsFrom ctx used l = JoinEntity.keyColumnsFrom ctx' used l := by
    intro l
    induction l with
    | nil => exact fun _ _ => rfl
    | cons a rest ih =>
      intro hl used
      obtain ⟨ha, hrest⟩ := List.cons_subset.1 hl
      simp only [JoinEntity.keyColumnsFrom, hcolumn used a ha, ih hrest]
  exact hfrom _ (List.Subset.refl _) []

theorem relations : JoinEntity.relations ctx t = JoinEntity.relations ctx' t := by
  rw [JoinEntity.relations, JoinEntity.relations, ← hs.keyColumns ht]
  refine List.filterMap_congr fun column hcolumn => ?_
  cases htarget : column.target with
  | none => rfl
  | some target =>
    have hkey := hs.entityKey target (JoinEntity.mem_classes_of_target hcolumn htarget)
    rw [Option.map_some, Option.map_some, hkey]

omit ht in
theorem syncObstacle? {r : JoinEntity.Relation} (hr : r ∈ JoinEntity.relations ctx t) :
    JoinEntity.syncObstacle? ctx t r = JoinEntity.syncObstacle? ctx' t r := by
  obtain ⟨htarget, hread⟩ := JoinEntity.relation_sound hr
  rw [JoinEntity.syncObstacle?, JoinEntity.syncObstacle?, hs.obstacle?]
  intro call hcall
  rw [List.mem_singleton.1 hcall, hread]
  exact htarget

theorem joinEntity : Scaffold.joinEntity ctx t = Scaffold.joinEntity ctx' t := by
  have hrelations := hs.relations ht
  have haccessors : (JoinEntity.relations ctx' t).flatMap (JoinEntity.relationAccessors ctx t) =
      (JoinEntity.relations ctx' t).flatMap (JoinEntity.relationAccessors ctx' t) := by
    refine List.flatMap_congr fun r hr => ?_
    rw [← hrelations] at hr
    simp only [JoinEntity.relationAccessors, JoinEntity.syncCode, hs.syncObstacle? hr]
  have hobstacles : (JoinEntity.relations ctx' t).filterMap (JoinEntity.syncObstacle? ctx t) =
      (JoinEntity.relations ctx' t).filterMap (JoinEntity.syncObstacle? ctx' t) := by
    rw [← hrelations]
    exact List.filterMap_congr fun r hr => hs.syncObstacle? hr
  simp only [Scaffold.joinEntity, JoinEntity.file, JoinEntity.imports, JoinEntity.targetNotes,
    hrelations, haccessors, hobstacles, hs.keyColumns ht, hs.groupPackage]

end JoinEntities

/-! ### Members -/

variable {c : ClassNode} (hc : c ∈ ctx.diagram.classes)
include hc

theorem membersOf : ctx.membersOf c = ctx'.membersOf c := hs.hierarchy.inTable c hc

omit hc in
theorem parentOf : ctx.hierarchy.parentOf c = ctx'.hierarchy.parentOf c :=
  congrFun hs.hierarchy.parents.parentOf c

theorem queried : ctx.queried c = ctx'.queried c := by
  rw [Context.queried, Context.queried, hs.membersOf hc, hs.queryLimit]

theorem mem_of_chain {a : ClassNode} (ha : a ∈ ctx.hierarchy.chain c) :
    a ∈ ctx.diagram.classes :=
  hs.hierarchy.wellFormed.mem_classes_of_mem_chain hc ha

theorem chainScalars : ctx.chainScalars c = ctx'.chainScalars c := by
  have hflat : ((ctx.hierarchy.chain c).flatMap fun a => (ctx.membersOf a).scalars) =
      (ctx'.hierarchy.chain c).flatMap fun a => (ctx'.membersOf a).scalars := by
    rw [← hs.hierarchy.parents.chain]
    refine List.flatMap_congr fun a ha => ?_
    rw [hs.membersOf (hs.mem_of_chain hc ha)]
  rw [Context.chainScalars, Context.chainScalars, hflat]

theorem chainReferences : ctx.chainReferences c = ctx'.chainReferences c := by
  have hflat : ((ctx.hierarchy.chain c).flatMap fun a => (ctx.membersOf a).references) =
      (ctx'.hierarchy.chain c).flatMap fun a => (ctx'.membersOf a).references := by
    rw [← hs.hierarchy.parents.chain]
    refine List.flatMap_congr fun a ha => ?_
    rw [hs.membersOf (hs.mem_of_chain hc ha)]
  rw [Context.chainReferences, Context.chainReferences, hflat]

/-- The references along a chain lead to classes. -/
theorem target_mem {r : ReferenceMember} (hr : r ∈ ctx.chainReferences c) :
    r.target ∈ ctx.diagram.classes := by
  obtain ⟨a, ha, hr⟩ := List.mem_flatMap.1 (mem_of_mem_distinctBy hr)
  exact hs.hierarchy.targets a (hs.mem_of_chain hc ha) r hr

theorem repositoryMethods :
    (ctx.prediction c).repositoryMethods = (ctx'.prediction c).repositoryMethods := by
  obtain ⟨_, -, hlike⟩ := hs.prediction c hc
  rw [hlike]

theorem serviceMethods :
    (ctx.prediction c).serviceMethods = (ctx'.prediction c).serviceMethods := by
  obtain ⟨_, -, hlike⟩ := hs.prediction c hc
  rw [hlike]

theorem manyToMany : (ctx.prediction c).manyToMany = (ctx'.prediction c).manyToMany := by
  obtain ⟨_, -, hlike⟩ := hs.prediction c hc
  rw [hlike]

/-! ### Entities -/

theorem keySetters : Entity.keySetters ctx c = Entity.keySetters ctx' c := by
  rw [Entity.keySetters, Entity.keySetters, ← hs.membersOf hc]
  refine keepFree_congr fun r hr => ?_
  have hcalls : ∀ call ∈ [Entity.keyWrite r], call.owner ∈ ctx.diagram.classes := by
    intro call hcall
    rw [List.mem_singleton.1 hcall]
    exact hs.hierarchy.targets c hc r hr
  simp only [Entity.keyObstacle?, hs.obstacle? hcalls]

/-- The entity of a class has the same properties, in some order. -/
theorem properties : (Entity.properties ctx c).Perm (Entity.properties ctx' c) := by
  obtain ⟨collections, hperm, hlike⟩ := hs.prediction c hc
  rw [Entity.properties, Entity.properties, hs.membersOf hc, hlike]
  exact ((hperm.map _).append_left _).append_right _

/-- The entity of a class is the same, if its one-to-many collections come in the same order. -/
theorem entity (horder : (ctx.prediction c).oneToMany = (ctx'.prediction c).oneToMany) :
    Scaffold.entity ctx c = Scaffold.entity ctx' c := by
  have hprediction := (hs.prediction c hc).eq horder
  simp only [Scaffold.entity, Entity.file, Entity.imports, Entity.annotations, Entity.head,
    Entity.identity, Entity.properties, hs.keySetters hc, hs.membersOf hc, hprediction,
    hs.groupPackage, hs.parentOf, hs.hierarchy.parents.isParent]

/-! ### Transfer objects and mappers -/

theorem dto : Scaffold.dto ctx c = Scaffold.dto ctx' c := by
  simp only [Scaffold.dto, Dto.file, Dto.imports, Dto.head, Dto.properties, Dto.fields,
    hs.membersOf hc, hs.groupPackage, hs.parentOf]

theorem scalarMappings : Mapper.scalarMappings ctx c = Mapper.scalarMappings ctx' c := by
  rw [Mapper.scalarMappings, Mapper.scalarMappings, hs.chainScalars hc]

theorem referenceMappings : Mapper.referenceMappings ctx c = Mapper.referenceMappings ctx' c := by
  rw [Mapper.referenceMappings, Mapper.referenceMappings, hs.chainReferences hc]

/-- The calls of the mapping of a column are about the class. -/
theorem predicts_scalarMapping {m : Mapper.ScalarMapping}
    (hm : m ∈ Mapper.scalarMappings ctx c) :
    ctx.predictsAll m.toDtoCalls = ctx'.predictsAll m.toDtoCalls ∧
      ctx.predictsAll m.toEntityCalls = ctx'.predictsAll m.toEntityCalls := by
  obtain ⟨scalar, -, rfl⟩ := List.mem_map.1 hm
  constructor
  · refine hs.predictsAll ?_
    simp [Mapper.ofScalar, Mapper.ScalarMapping.toDtoCalls, hc]
  · refine hs.predictsAll ?_
    simp [Mapper.ofScalar, Mapper.ScalarMapping.toEntityCalls, hc]

/-- The calls of the mapping of a reference are about the class and the one that the reference leads
to. -/
theorem predicts_referenceMapping {r : ReferenceMember} (hr : r ∈ ctx.chainReferences c)
    {m : Mapper.ReferenceMapping} (hm : Mapper.ofReference? c r = some m) :
    ctx.predictsAll m.toDtoCalls = ctx'.predictsAll m.toDtoCalls ∧
      ctx.predictsAll m.toEntityCalls = ctx'.predictsAll m.toEntityCalls := by
  have htarget := hs.target_mem hc hr
  obtain ⟨field, -, rfl⟩ := Option.map_eq_some_iff.1 hm
  constructor
  · refine hs.predictsAll ?_
    simp [Mapper.ReferenceMapping.toDtoCalls, hc, htarget]
  · refine hs.predictsAll ?_
    simp [Mapper.ReferenceMapping.toEntityCalls, hc, htarget]

theorem toDtoPlan : Mapper.toDtoPlan ctx c = Mapper.toDtoPlan ctx' c := by
  rw [Mapper.toDtoPlan, Mapper.toDtoPlan, ← hs.scalarMappings hc, ← hs.referenceMappings hc]
  congr 1
  · exact List.filter_congr fun m hm => (hs.predicts_scalarMapping hc hm).1
  · refine List.filter_congr fun m hm => ?_
    obtain ⟨r, hr, hm⟩ := List.mem_filterMap.1 hm
    exact (hs.predicts_referenceMapping hc hr hm).1

theorem toEntityPlan : Mapper.toEntityPlan ctx c = Mapper.toEntityPlan ctx' c := by
  rw [Mapper.toEntityPlan, Mapper.toEntityPlan, ← hs.scalarMappings hc,
    ← hs.referenceMappings hc]
  congr 1
  · exact List.filter_congr fun m hm => (hs.predicts_scalarMapping hc hm).2
  · refine List.filter_congr fun m hm => ?_
    obtain ⟨r, hr, hm⟩ := List.mem_filterMap.1 hm
    exact (hs.predicts_referenceMapping hc hr hm).2

theorem scalarNotes : (Mapper.scalarMappings ctx c).flatMap (Mapper.scalarNotes ctx c) =
    (Mapper.scalarMappings ctx' c).flatMap (Mapper.scalarNotes ctx' c) := by
  rw [← hs.scalarMappings hc]
  refine List.flatMap_congr fun m hm => ?_
  obtain ⟨hdto, hentity⟩ := hs.predicts_scalarMapping hc hm
  rw [Mapper.scalarNotes, Mapper.scalarNotes, hdto, hentity]

theorem referenceNotes : (ctx.chainReferences c).flatMap (Mapper.referenceNotes ctx c) =
    (ctx'.chainReferences c).flatMap (Mapper.referenceNotes ctx' c) := by
  rw [← hs.chainReferences hc]
  refine List.flatMap_congr fun r hr => ?_
  unfold Mapper.referenceNotes
  cases hm : Mapper.ofReference? c r with
  | none => rfl
  | some m =>
    obtain ⟨hdto, hentity⟩ := hs.predicts_referenceMapping hc hr hm
    simp only [hdto, hentity]

theorem mapper : Scaffold.mapper ctx c = Scaffold.mapper ctx' c := by
  simp only [Scaffold.mapper, Mapper.file, Mapper.imports, Mapper.toDtoMethod, Mapper.toDtoCode,
    Mapper.toEntityMethod, Mapper.toEntityCode, Mapper.updateMethod, Mapper.updateCode,
    Mapper.updatePlan, hs.toDtoPlan hc, hs.toEntityPlan hc, hs.scalarNotes hc,
    hs.referenceNotes hc, hs.referenceMappings hc, hs.groupPackage, hs.groupImport]

/-! ### Repositories and services -/

theorem repositoryQueries : Repository.queries ctx c = Repository.queries ctx' c := by
  rw [Repository.queries, Repository.queries, hs.membersOf hc, hs.queryLimit,
    hs.repositoryMethods hc]

theorem repository : Scaffold.repository ctx c = Scaffold.repository ctx' c := by
  simp only [Scaffold.repository, Repository.file, Repository.imports, hs.repositoryQueries hc,
    hs.membersOf hc, hs.entityKey c hc, hs.queried hc, hs.groupPackage, hs.groupImport]

theorem serviceQueries : Service.queries ctx c = Service.queries ctx' c := by
  rw [Service.queries, Service.queries, hs.membersOf hc, hs.queryLimit, hs.serviceMethods hc]

theorem valueTypes : Service.valueTypes ctx c = Service.valueTypes ctx' c := by
  rw [Service.valueTypes, Service.valueTypes, hs.entityKey c hc, hs.queried hc, hs.membersOf hc]

theorem entityImports : Service.entityImports ctx c = Service.entityImports ctx' c := by
  rw [Service.entityImports, Service.entityImports, hs.groupImport, hs.membersOf hc]

theorem service : Scaffold.service ctx c = Scaffold.service ctx' c := by
  simp only [Scaffold.service, Service.file, hs.entityImports hc, hs.valueTypes hc,
    hs.serviceQueries hc, hs.entityKey c hc, hs.groupPackage]

theorem resolved : Service.resolved ctx c = Service.resolved ctx' c := by
  rw [Service.resolved, Service.resolved, ← hs.chainReferences hc]
  refine keepFree_congr fun r hr => ?_
  have htarget := hs.target_mem hc hr
  have hcalls : ∀ call ∈ Service.resolveCalls c r, call.owner ∈ ctx.diagram.classes := by
    simp [Service.resolveCalls, Service.referenceRead, Service.referenceWrite, Service.keyRead,
      hc, htarget]
  have hfinds : Service.findsById ctx r.target = Service.findsById ctx' r.target := by
    rw [Service.findsById, Service.findsById, hs.repositoryMethods htarget]
  simp only [Service.resolveObstacle?, hfinds, hs.obstacle? hcalls]

theorem copied : Service.copied ctx c = Service.copied ctx' c := by
  have hfields : Service.updateFields ctx c = Service.updateFields ctx' c := by
    rw [Service.updateFields, Service.updateFields, hs.chainScalars hc, hs.chainReferences hc]
  rw [Service.copied, Service.copied, hfields]
  refine keepFree_congr fun field _ => hs.obstacle? ?_ _
  simp [Service.copyCalls, hc]

theorem serviceImplementation :
    Scaffold.serviceImplementation ctx c = Scaffold.serviceImplementation ctx' c := by
  simp only [Scaffold.serviceImplementation, Service.implementationFile,
    Service.implementationImports, hs.resolved hc, hs.copied hc, hs.entityImports hc,
    hs.valueTypes hc, hs.serviceQueries hc, hs.entityKey c hc, hs.groupPackage, hs.groupImport]

/-! ### Controllers -/

theorem predictedSearches (l : List Controller.Search) :
    Controller.predictedSearches ctx c l = Controller.predictedSearches ctx' c l := by
  rw [Controller.predictedSearches, Controller.predictedSearches, hs.serviceMethods hc]

theorem scalarSearches : Controller.scalarSearches ctx c = Controller.scalarSearches ctx' c := by
  rw [Controller.scalarSearches, Controller.scalarSearches, hs.predictedSearches hc,
    hs.queried hc]

theorem referenceSearches :
    Controller.referenceSearches ctx c = Controller.referenceSearches ctx' c := by
  rw [Controller.referenceSearches, Controller.referenceSearches, hs.predictedSearches hc,
    hs.membersOf hc]

theorem navigated : Controller.navigated ctx c = Controller.navigated ctx' c := by
  rw [Controller.navigated, Controller.navigated, ← hs.chainReferences hc]
  refine keepFree_congr fun r hr => hs.obstacle? ?_ _
  simp [Controller.referenceRead, Controller.keyRead, hc, hs.target_mem hc hr]

theorem controller : Scaffold.controller ctx c = Scaffold.controller ctx' c := by
  simp only [Scaffold.controller, Controller.file, Controller.names, Controller.imports,
    hs.navigated hc, hs.scalarSearches hc, hs.referenceSearches hc, hs.entityKey c hc,
    hs.groupPackage, hs.groupImport]

end Agrees

end Context

end Scaffold
