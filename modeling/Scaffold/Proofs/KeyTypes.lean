import Scaffold.Proofs.Calls
import Scaffold.Proofs.Ownership
import Scaffold.Proofs.Queries

/-!
# One type for a key

The key of a class is looked up for its own files and for the files of every class that references
it: for the ids of transfer objects, the parameters of queries, repositories, services and
controllers. The entity of the root of its chain is the one that declares it.
`Context.keyProperty` is that declaration, `Context.KeyTyped` says that the files of a class speak
of it, and `Context.ReferenceTyped` that the files of a class with a reference do.

The root declares the key under its field and with its type if no earlier attribute takes the field
and the first primary key is not left out: `Hierarchy.KeysLead`, from which
`WellFormed.exists_keyScalar` follows attribute by attribute.

Main statement: `key_types_agree`.
-/

namespace Scaffold

open Naming Java Text

/-! ## The member that holds a key -/

namespace Hierarchy

variable {h : Hierarchy} {c : ClassNode}

/-- A class without a parent that has primary keys takes its key field for the first of them: that
one is no relationship attribute, and no other attribute in front of it asks for the field. -/
def KeysLead (h : Hierarchy) : Prop :=
  ∀ c ∈ h.diagram.classes, h.parentOf c = none → ∀ a ∈ c.primaryKeys.head?,
    a.isRelationshipAttribute = false ∧
      ∀ b ∈ c.attributes.takeWhile (!·.isPrimaryKey), b.isRelationshipAttribute = false →
        camelCase b.name ≠ (h.keyOf c).fieldName

/-- The members after some attributes. -/
def addAll (h : Hierarchy) (c : ClassNode) (m : Members) (l : List Attribute) : Members :=
  l.foldl (fun m a => (h.addMember c m a).value) m

theorem addMember_of_leavesOut {a : Attribute} (hout : h.leavesOut c a = true) (m : Members) :
    (h.addMember c m a).value = m := by
  simp [addMember, hout]

/-- Every field is one that was there, or that of an attribute that is not left out. -/
theorem mem_fields_addAll {m : Members} {l : List Attribute} {field : String}
    (hfield : field ∈ (h.addAll c m l).fields) :
    field ∈ m.fields ∨ ∃ a ∈ l, h.leavesOut c a = false ∧ field = h.memberField c a := by
  induction l generalizing m with
  | nil => exact .inl hfield
  | cons a rest ih =>
    have hrest : field ∈ (h.addAll c (h.addMember c m a).value rest).fields := hfield
    rcases ih hrest with hbefore | ⟨b, hb, hin, rfl⟩
    · by_cases hout : h.leavesOut c a = true
      · rw [addMember_of_leavesOut hout] at hbefore
        exact .inl hbefore
      · rcases fields_addMember c m a with ⟨hsame, -⟩ | ⟨-, hperm⟩
        · rw [hsame] at hbefore
          exact .inl hbefore
        · rcases List.mem_cons.1 (hperm.subset hbefore) with rfl | hbefore
          · exact .inr ⟨a, List.mem_cons_self, Bool.eq_false_iff.2 hout, rfl⟩
          · exact .inl hbefore
    · exact .inr ⟨b, List.mem_cons_of_mem _ hb, hin, rfl⟩

/-- Scalar members stay with every further attribute. -/
theorem scalars_subset_addAll (m : Members) (l : List Attribute) :
    m.scalars ⊆ (h.addAll c m l).scalars := by
  induction l generalizing m with
  | nil => exact List.Subset.refl _
  | cons a rest ih =>
    refine List.Subset.trans ?_ (ih (h.addMember c m a).value)
    rcases addMember_cases (h := h) c m a with ⟨hsame, -⟩ | ⟨-, target, -, hsome⟩ | ⟨-, -, hnone⟩
    · rw [hsame]
      exact List.Subset.refl _
    · rw [hsome]
      exact List.Subset.refl _
    · rw [hnone]
      exact List.subset_append_left _ _

/-- A primary key whose field is free becomes a scalar member. -/
theorem scalarOf_mem_addMember {m : Members} {a : Attribute} (hkey : a.isPrimaryKey = true)
    (hin : h.leavesOut c a = false) (hfree : h.memberField c a ∉ m.fields) :
    h.scalarOf c a ∈ (h.addMember c m a).value.scalars := by
  have htarget : h.diagram.referenceTarget? a = none := by
    simp [Diagram.referenceTarget?, hkey]
  simp [addMember, hin, hfree, htarget]

/-- The first primary key of a class, and the attributes in front of it. -/
theorem exists_split_primaryKeys {a : Attribute} (ha : c.primaryKeys.head? = some a) :
    a.isPrimaryKey = true ∧ ∃ before after, c.attributes = before ++ a :: after ∧
      c.attributes.takeWhile (!·.isPrimaryKey) = before := by
  rw [ClassNode.primaryKeys, List.head?_filter, List.find?_eq_some_iff_append] at ha
  obtain ⟨hkey, before, after, hsplit, hbefore⟩ := ha
  refine ⟨hkey, before, after, hsplit, ?_⟩
  rw [hsplit, List.takeWhile_append_of_pos hbefore, List.takeWhile_cons_of_neg (by simp [hkey]),
    List.append_nil]

/-- The class at the top of a chain has a scalar member that is its key. -/
theorem WellFormed.exists_keyScalar (hh : h.WellFormed) (hlead : h.KeysLead)
    (hc : c ∈ h.diagram.classes) (hp : h.parentOf c = none) :
    ∃ s ∈ (h.membersOf c).scalars, s.isPrimaryKey = true ∧
      s.fieldName = (h.keyOf c).fieldName ∧ s.javaType = (h.keyOf c).javaType := by
  have hscalars : (h.membersOf c).scalars =
      (h.addAll c (h.startMembers c) c.attributes).scalars := by
    rw [addAll, ← value_ownMembers]
    rfl
  rw [hscalars]
  cases hfirst : c.primaryKeys.head? with
  | none =>
    have hnone : c.primaryKeys = [] := List.head?_eq_none_iff.1 hfirst
    rw [hh.keyOf_of_top (ownKey_eq_none_iff.2 hnone) hp, startMembers, if_pos ⟨by simp [hp], hnone⟩]
    exact ⟨_, scalars_subset_addAll _ _ List.mem_cons_self, rfl, by decide, rfl⟩
  | some a =>
    obtain ⟨hrel, hbefore⟩ := hlead c hc hp a hfirst
    obtain ⟨hkey, before, after, hsplit, htake⟩ := exists_split_primaryKeys hfirst
    rw [htake] at hbefore
    have hin : h.leavesOut c a = false := by simp [leavesOut, hrel, hp]
    have hfield : h.memberField c a = (h.keyOf c).fieldName := if_pos hkey
    have hstart : h.startMembers c = {} := by
      refine if_neg fun hempty => ?_
      rw [hempty.2] at hfirst
      cases hfirst
    -- No key stands in front of the first one, so the fields that are taken by then are called
    -- after attributes.
    have hfree : h.memberField c a ∉ (h.addAll c (h.startMembers c) before).fields := by
      intro htaken
      rcases mem_fields_addAll htaken with hnone | ⟨b, hb, hbin, hsame⟩
      · rw [hstart] at hnone
        cases hnone
      · have hbkey : b.isPrimaryKey = false := by
          have hall := List.mem_takeWhile_imp (htake ▸ hb)
          simpa using hall
        have hbrel : b.isRelationshipAttribute = false := by
          simpa [leavesOut, hp] using hbin
        rw [hfield, memberField, if_neg (by simp [hbkey])] at hsame
        exact hbefore b hb hbrel hsame.symm
    refine ⟨h.scalarOf c a, ?_, hkey, hfield, ?_⟩
    · rw [hsplit, addAll, List.foldl_append, List.foldl_cons]
      exact scalars_subset_addAll _ after (scalarOf_mem_addMember hkey hin hfree)
    · rw [keyOf_of_ownKey (by rw [ClassNode.ownKey?, hfirst, Option.map_some])]
      rfl

end Hierarchy

/-! ## Files of a class -/

/-- The code for one of several things is a part of the code for all of them. -/
theorem code_infix_flatMap {α : Type} {code : α → Lines} {l : List α} {a : α} (ha : a ∈ l) :
    code a <:+: l.flatMap code :=
  List.infix_of_mem_flatten (List.mem_map_of_mem ha)

namespace Entity

/-- The declaration of the field of a scalar member is its annotations, its column and the field with
its default value. -/
theorem exists_of_scalarField {c : ClassNode} {s : ScalarMember} {lines : Lines}
    (hlines : (scalarField c s).run.value = .ok lines) : ∃ tags length,
      fieldAnnotations s = .ok tags ∧ lines = tags ++ [columnTag s length,
        s!"private {s.javaType.name} {s.fieldName}{(initializer c s).value};", ""] := by
  obtain ⟨tags, htags, hlines, -⟩ := Generation.bind_ok hlines
  obtain ⟨length, -, hlines, -⟩ := Generation.bind_ok hlines
  obtain ⟨-, -, hlines, -⟩ := Generation.bind_ok hlines
  obtain ⟨value, hvalue, hlines, -⟩ := Generation.bind_ok hlines
  obtain rfl : (initializer c s).value = value := Except.ok.inj hvalue
  exact ⟨tags, length, htags, (Except.ok.inj hlines).symm⟩

/-- The declaration of the field of a key has no default value. -/
theorem mem_scalarField {c : ClassNode} {s : ScalarMember} (hkey : s.isPrimaryKey = true)
    {lines : Lines} (hlines : (scalarField c s).run.value = .ok lines) :
    s!"private {s.javaType.name} {s.fieldName};" ∈ lines := by
  obtain ⟨tags, length, -, rfl⟩ := exists_of_scalarField hlines
  have hnone : (initializer c s).value = "" := by
    rw [initializer, defaultValue?, if_pos hkey]
    rfl
  refine List.mem_append_right _ (List.mem_cons_of_mem _ (List.mem_cons.2 (.inl ?_)))
  simp [hnone, toString]

/-- The file of an entity has the declarations of its scalar members. -/
theorem scalarFields_in_file {ctx : Context} {c : ClassNode} {f : SourceFile}
    (hf : (file ctx c).run.value = .ok f) : ∃ scalarFields,
      ((ctx.membersOf c).scalars.mapM (scalarField c)).run.value = .ok scalarFields ∧
        indented 1 scalarFields.flatten <:+: f.body := by
  obtain ⟨scalarFields, hfields, hf, -⟩ := Generation.bind_ok hf
  obtain ⟨keySetters, -, hf, -⟩ := Generation.bind_ok hf
  cases hf
  refine ⟨scalarFields, hfields,
    (indented_infix_braced ?_).trans (List.suffix_append _ _).isInfix⟩
  iterate 8 refine List.infix_append_of_infix_left ?_
  exact List.infix_append_right

/-- The file of an entity declares the field of a key without a default value. -/
theorem keyField_in_file {ctx : Context} {c : ClassNode} {f : SourceFile}
    (hf : (file ctx c).run.value = .ok f) {s : ScalarMember}
    (hs : s ∈ (ctx.membersOf c).scalars) (hkey : s.isPrimaryKey = true) :
    indent 1 s!"private {s.javaType.name} {s.fieldName};" ∈ f.body := by
  obtain ⟨scalarFields, hfields, hcode⟩ := scalarFields_in_file hf
  rw [Generation.value_mapM, mapM_eq_ok_iff] at hfields
  obtain ⟨lines, hlines, hfield⟩ := exists_of_forall₂ hfields hs
  have hdeclared : s!"private {s.javaType.name} {s.fieldName};" ∈ scalarFields.flatten :=
    List.mem_flatten.2 ⟨lines, hlines, mem_scalarField hkey hfield⟩
  exact hcode.subset (List.mem_map_of_mem hdeclared)

end Entity

/-- The code of the accessors of a property is in the file of an entity that has the property. -/
theorem Entity.property_in_file {ctx : Context} {c : ClassNode} {f : SourceFile}
    (hf : (file ctx c).run.value = .ok f) {p : Property} (hp : p ∈ properties ctx c) :
    indented 1 p.code <:+: f.body := by
  have hcode : p.code <:+: (properties ctx c).flatMap Property.code := code_infix_flatMap hp
  exact (hcode.map (indent 1)).trans (accessors_in_file hf)

namespace Context

/-- The field of the key that the entity of a class exposes. -/
def keyProperty (ctx : Context) (c : ClassNode) : Property where
  field := (ctx.entityKey c).fieldName
  type := (ctx.entityKey c).javaType.name

/-- The call that reads the key of an entity. -/
def keyRead (ctx : Context) (c : ClassNode) : AccessorCall :=
  ⟨c, .entity, .read, (ctx.keyProperty c).field⟩

/-- The entity of the root of a chain declares the key of a class once, and the files of the class
speak of a key of the type that is declared. -/
structure KeyTyped (ctx : Context) (c : ClassNode) : Prop where
  /-- The root has accessors for the key. -/
  declared : ctx.keyProperty c ∈ Entity.properties ctx (ctx.hierarchy.root c)
  /-- No other property of the root has the field. -/
  unique : ∀ p ∈ Entity.properties ctx (ctx.hierarchy.root c),
    p.field = (ctx.keyProperty c).field → p = ctx.keyProperty c
  /-- The file of the root declares the field, with its accessors. -/
  entity : ∀ f, (Entity.file ctx (ctx.hierarchy.root c)).run.value = .ok f →
    indent 1 s!"private {(ctx.keyProperty c).type} {(ctx.keyProperty c).field};" ∈ f.body ∧
      indented 1 (ctx.keyProperty c).code <:+: f.body
  /-- The repository is one of entities with a key of the type. -/
  repository : ∃ code, (Repository.file ctx c).body = "@Repository" :: braced
    s!"public interface {c.name}Repository extends JpaRepository<{c.name}, {
      (ctx.keyProperty c).type}>" code
  /-- The operations of the service take keys of the type. -/
  service : indented 1 (Service.basics c (ctx.keyProperty c).type) <:+: (Service.file ctx c).body
  /-- The implementations of the operations take keys of the type. -/
  implementation : indented 1 (Service.basicImplementations c (ctx.keyProperty c).type
    (Service.Access.of c.name).field) <:+: (Service.implementationFile ctx c).value.body
  /-- The endpoints that every controller has take keys of the type. -/
  controller : Controller.opening
    { Controller.names ctx c with key := (ctx.keyProperty c).type } <+:
      (Controller.file ctx c).value.body
  /-- The endpoints of references take keys of the type. -/
  navigation : ∀ r ∈ (Controller.navigated ctx c).value,
    Controller.referenceEndpoint
      { Controller.names ctx c with key := (ctx.keyProperty c).type } c r <:+:
        (Controller.file ctx c).value.body

/-- The files of a class that has a reference speak of the key of the entity that the reference
leads to: its type is that of the id field of the transfer object and of the parameters of queries
on it, and its accessor is the one that is called. -/
structure ReferenceTyped (ctx : Context) (c : ClassNode) (r : ReferenceMember) : Prop where
  /-- The id field of the transfer object has the type. -/
  dto : ∀ field, r.dtoFieldName = some field →
    indent 1 s!"private {(ctx.keyProperty r.target).type} {field}; // FK to {r.target.name}" ∈
      (Dto.file ctx c).body ∧
    ∀ f ∈ Dto.fields ctx c, f.field = field → f.type = (ctx.keyProperty r.target).type
  /-- The query of the repository takes a value of the type. -/
  repository : ∀ q, r.keyQuery? = some q → q ∈ Repository.queries ctx c →
    indent 1 s!"List<{c.name}> {q.name}({(ctx.keyProperty r.target).type} {q.property});" ∈
      (Repository.file ctx c).body
  /-- The query of the service takes a value of the type. -/
  service : ∀ q, r.keyQuery? = some q → q ∈ Service.queries ctx c →
    indent 1 s!"List<{c.name}> {q.name}({(ctx.keyProperty r.target).type} {q.property});" ∈
      (Service.file ctx c).body
  /-- The search of the controller takes a value of the type. -/
  search : ∀ s, Controller.referenceSearch? r = some s →
    some s.query = r.keyQuery? ∧ s.type.name = (ctx.keyProperty r.target).type ∧
    s.parameter = s!"@PathVariable {(ctx.keyProperty r.target).type} relatedId" ∧
    (s ∈ Controller.referenceSearches ctx c →
      Controller.searchEndpoint (Controller.names ctx c) s <:+: (Controller.file ctx c).value.body)
  /-- Mappers read the key of the referenced entity with its accessor. -/
  mapperRead : ∀ e m, Mapper.ofReference? e r = some m →
    m.toDto.calls = [m.entityRead, m.dtoWrite, m.entityRead, ctx.keyRead r.target]
  /-- Implementations of services read the key with its accessor. -/
  serviceRead : ∀ e access related,
    (Service.loadReference e access related r).calls =
      Service.referenceRead e r :: List.replicate 3 (ctx.keyRead r.target) ++
        List.replicate 2 (Service.referenceWrite e r)
  /-- Controllers read the key with its accessor. -/
  controllerRead : ∀ n e, (Controller.followReference n e r).calls =
    [Controller.referenceRead e r, ctx.keyRead r.target]

theorem keyTyped_of_scalar {ctx : Context} {c : ClassNode} {s : ScalarMember}
    (hs : s ∈ (ctx.membersOf (ctx.hierarchy.root c)).scalars) (hkey : s.isPrimaryKey = true)
    (hfield : s.fieldName = (ctx.entityKey c).fieldName)
    (htype : s.javaType = (ctx.entityKey c).javaType)
    (hdistinct : ((Entity.properties ctx (ctx.hierarchy.root c)).map (·.field)).Nodup) :
    ctx.KeyTyped c := by
  have hproperty : ctx.keyProperty c = ⟨s.fieldName, s.javaType.name⟩ := by
    rw [keyProperty, hfield, htype]
  have hdeclared : ctx.keyProperty c ∈ Entity.properties ctx (ctx.hierarchy.root c) := by
    rw [hproperty]
    iterate 3 refine List.mem_append_left _ ?_
    exact List.mem_map_of_mem hs
  refine
    { declared := hdeclared
      unique := fun p hp hsame => List.inj_on_of_nodup_map hdistinct hp hdeclared hsame
      entity := fun f hf => ⟨?_, Entity.property_in_file hf hdeclared⟩
      repository := ⟨_, rfl⟩
      service := indented_infix_braced ((List.suffix_cons _ _).isInfix.trans
        (List.prefix_append _ _).isInfix)
      implementation := ?_
      controller := ?_
      navigation := fun r hr => ?_ }
  · rw [hproperty]
    exact Entity.keyField_in_file hf hs hkey
  · refine (indented_infix_braced ?_).trans List.infix_append_right
    iterate 7 refine List.infix_append_of_infix_left ?_
    exact List.infix_append_right
  · iterate 5 refine List.IsPrefix.trans ?_ (List.prefix_append _ _)
    exact List.prefix_append _ _
  · iterate 3 refine List.infix_append_of_infix_left ?_
    refine List.IsInfix.trans ?_ List.infix_append_right
    refine List.IsInfix.trans ?_ (code_infix_flatMap hr)
    exact (List.suffix_cons _ _).isInfix

/-- A query on the key of what a reference leads to is declared with the type of that key. -/
theorem declaration_keyQuery {ctx : Context} {c : ClassNode} {r : ReferenceMember}
    (hkey : r.targetKey = ctx.entityKey r.target) {q : Query} (hq : r.keyQuery? = some q) :
    q.declaration c.name ++ ";" =
      s!"List<{c.name}> {q.name}({(ctx.keyProperty r.target).type} {q.property});" := by
  obtain ⟨field, -, rfl⟩ := Option.map_eq_some_iff.1 hq
  rw [hkey]
  simp [Query.declaration, QueryVerb.returns, Query.parameter, QueryType.name, keyProperty,
    toString, ← String.toList_inj]

theorem referenceTyped_of_key {ctx : Context} {c : ClassNode} {r : ReferenceMember}
    (hr : r ∈ (ctx.membersOf c).references) (hkey : r.targetKey = ctx.entityKey r.target)
    (hdistinct : (ctx.membersOf c).dtoFields.Nodup) : ctx.ReferenceTyped c r := by
  have hread : (⟨r.target, .entity, .read, r.targetKey.fieldName⟩ : AccessorCall) =
      ctx.keyRead r.target := by
    rw [hkey]
    rfl
  refine
    { dto := fun field hfield => ?_
      repository := fun q hq hmem => ?_
      service := fun q hq hmem => ?_
      search := fun s hs => ?_
      mapperRead := fun e m hm => ?_
      serviceRead := fun e access related => ?_
      controllerRead := fun n e => ?_ }
  · let declared : Dto.Field :=
      { field := field, type := (ctx.keyProperty r.target).type
        comment := some s!"FK to {r.target.name}" }
    have hdeclared : declared ∈ Dto.fields ctx c := by
      refine List.mem_append_right _ (List.mem_filterMap.2 ⟨r, hr, ?_⟩)
      rw [hfield, Option.map_some, hkey]
      rfl
    constructor
    · have hline : Dto.declaration declared =
          s!"private {(ctx.keyProperty r.target).type} {field}; // FK to {r.target.name}" := by
        simp [Dto.declaration, declared, toString, ← String.toList_inj]
      rw [← hline]
      exact (Dto.accessors_in_file ctx c).1.subset
        (List.mem_map_of_mem (List.mem_map_of_mem hdeclared))
    · intro f hf hsame
      have hfields : ((Dto.fields ctx c).map fun f => f.field).Nodup := by
        rw [← Dto.field_mem_properties, Dto.properties, List.map_map] at hdistinct
        exact hdistinct
      rw [List.inj_on_of_nodup_map hfields hf hdeclared hsame]
  · rw [← declaration_keyQuery hkey hq]
    refine (Repository.declared_in_file ctx c).subset (List.mem_map_of_mem ?_)
    exact List.mem_flatMap.2 ⟨q, hmem, List.mem_cons_self⟩
  · rw [← declaration_keyQuery hkey hq]
    refine (Service.declared_in_file ctx c).subset (List.mem_map_of_mem ?_)
    exact List.mem_flatMap.2 ⟨q, hmem, List.mem_cons_of_mem _ List.mem_cons_self⟩
  · obtain ⟨q, hq, rfl⟩ := Option.map_eq_some_iff.1 hs
    have htype : r.targetKey.javaType.name = (ctx.keyProperty r.target).type := by
      rw [hkey]
      rfl
    refine ⟨hq.symm, htype, by rw [htype], fun hmem => ?_⟩
    refine List.IsInfix.trans ?_ (Controller.searches_in_file ctx c)
    refine List.IsInfix.trans ?_ (code_infix_flatMap (List.mem_append_right _ hmem))
    exact (List.suffix_cons _ _).isInfix
  · obtain ⟨field, -, rfl⟩ := Option.map_eq_some_iff.1 hm
    rw [Mapper.ReferenceMapping.calls_toDto, hread]
  · simp [Service.loadReference, Service.keyRead, hread, List.replicate]
  · simp [Controller.followReference, Controller.keyRead, hread]

end Context

/-- In a context that is built from a diagram without repeated ids, whose keys lead: for each
reference of a class, the entity of the root of the referenced class declares the key. Its type is
that of the id field in the transfer object, of the parameter of the id query in repository, service
and controller, and of the keys that the repository, the service and the controller of the
referenced class take. Its getter is the one that mappers, services and controllers call. -/
theorem key_types_agree (d : Diagram) (hd : d.DistinctIds)
    (hlead : (Hierarchy.ofDiagram d).value.KeysLead) (basePackage : String) (queryLimit : Int)
    (c : ClassNode) (hc : c ∈ d.classes) :
    let ctx := (Context.build d basePackage queryLimit).value
    ∀ r ∈ (ctx.membersOf c).references, ctx.KeyTyped r.target ∧ ctx.ReferenceTyped c r ∧
      (ctx.keyRead r.target).method = (ctx.keyProperty r.target).accessors.getter := by
  intro ctx r hr
  have hh : ctx.hierarchy.WellFormed := Hierarchy.wellFormed_ofDiagram d
  have hmembers : ctx.membersOf c = ctx.hierarchy.membersOf c :=
    Context.membersOf_build hd basePackage queryLimit hc
  obtain ⟨htarget, hkey⟩ := Hierarchy.reference_sound c r (hmembers ▸ hr)
  have hentity : ctx.entityKey r.target = ctx.hierarchy.entityKeyOf r.target :=
    Context.entityKey_build hd basePackage queryLimit htarget
  refine ⟨?_, Context.referenceTyped_of_key hr (hkey.trans hentity.symm) ?_, rfl⟩
  · have hroot : ctx.hierarchy.root r.target ∈ d.classes := hh.root_mem htarget
    obtain ⟨s, hs, hprimary, hfield, htype⟩ :=
      hh.exists_keyScalar hlead hroot (hh.parentOf_root r.target)
    have hrootMembers : ctx.membersOf (ctx.hierarchy.root r.target) =
        ctx.hierarchy.membersOf (ctx.hierarchy.root r.target) :=
      Context.membersOf_build hd basePackage queryLimit hroot
    refine Context.keyTyped_of_scalar (hrootMembers ▸ hs) hprimary ?_ ?_ ?_
    · rw [hfield, hentity]
      rfl
    · rw [htype, hentity]
      rfl
    · rw [Context.map_field_entity hd basePackage queryLimit hroot]
      exact Hierarchy.nodup_entityFields
        (Context.nodup_fields_build hd basePackage queryLimit hroot)
  · rw [hmembers]
    exact Hierarchy.nodup_dtoFields c

/-- Vehicles have a key under the name of what it references. -/
def vehicle : ClassNode where
  id := "1"
  name := "Vehicle"
  attributes :=
    [{ name := "year", type := "Integer" },
      { name := "plate_ref", type := "Long", isPrimaryKey := true, isForeignKey := true
        referencedField := some "plate_number" }]

/-- Cars are vehicles and declare a key that their entity does not have. -/
def car : ClassNode where
  id := "2"
  name := "Car"
  attributes := [{ name := "chassis", isPrimaryKey := true }]

/-- Trips reference a car and have no key. -/
def trip : ClassNode where
  id := "3"
  name := "Trip"
  attributes := [{ name := "car_id", isForeignKey := true, referencedEntity := some "Car" }]

/-- Vehicles, cars and trips. -/
def garage : Diagram where
  classes := [vehicle, car, trip]
  relationships := [parentEdge "1" "2"]

theorem key_types_agree_garage :
    garage.DistinctIds ∧ (Hierarchy.ofDiagram garage).value.KeysLead ∧ trip ∈ garage.classes ∧
      let ctx := (Context.build garage "app" 3).value
      ctx.hierarchy.root car = vehicle ∧ ctx.keyProperty car = ⟨"plateNumber", "Long"⟩ ∧
        (ctx.membersOf trip).references.map (·.target) = [car] ∧
        ∀ r ∈ (ctx.membersOf trip).references, ctx.KeyTyped r.target ∧ ctx.ReferenceTyped trip r := by
  have hd : garage.DistinctIds := by
    unfold Diagram.DistinctIds
    decide
  have hlead : (Hierarchy.ofDiagram garage).value.KeysLead := by
    unfold Hierarchy.KeysLead
    decide +kernel
  have hc : trip ∈ garage.classes := by decide
  refine ⟨hd, hlead, hc, by decide +kernel, by decide +kernel, by decide +kernel, fun r hr => ?_⟩
  obtain ⟨htyped, hreference, -⟩ := key_types_agree garage hd hlead "app" 3 trip hc r hr
  exact ⟨htyped, hreference⟩

end Scaffold
