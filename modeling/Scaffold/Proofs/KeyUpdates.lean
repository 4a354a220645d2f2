import Scaffold.Proofs.Calls
import Scaffold.Proofs.HierarchyKey
import Scaffold.Proofs.Transfer

/-!
# Keys that an update writes

An update is to leave the key of a stored entity alone. The mapper and the service copy all columns
along the chain but those that are primary keys, and all references. What they go by is the mark of
a primary key, and not the field that the entity is known by. So the field of the key is written if
a member without the mark has it: a column, if the class at the top of the chain has no primary key,
or a reference in any case.

A line of code says what each call is made on (`Line.receivers`), so that the calls on the entity
that is updated are told from those on the entity that stands for a reference.

Main statements: `Mapper.writes_iff` and `Service.writes_iff` (the fields that an update writes) and
`key_written_iff` (when the field of the key is one of them).
-/

namespace Scaffold

open Naming Java

/-! ## What a call is made on -/

/-- The calls in the parts of a line, each with the text that it is made on. -/
def Piece.receivers : List Piece → List (String × AccessorCall)
  | [] => []
  | .text receiver :: rest =>
    match rest with
    | .text dot :: .method call :: _ =>
      (if dot = "." then [(receiver, call)] else []) ++ receivers rest
    | _ => receivers rest
  | .method _ :: rest => receivers rest

/-- The accessors that a line calls, each with what it is called on. -/
def Line.receivers (l : Line) : List (String × AccessorCall) := Piece.receivers l.pieces

namespace Statements

/-- The accessors that are called, each with what it is called on. -/
def receivers (code : Statements) : List (String × AccessorCall) := code.flatMap Line.receivers

theorem receivers_append (code code' : Statements) :
    receivers (code ++ code') = receivers code ++ receivers code' :=
  List.flatMap_append

theorem receivers_flatMap {α : Type} (l : List α) (code : α → Statements) :
    receivers (l.flatMap code) = l.flatMap fun a => receivers (code a) := by
  rw [receivers, List.flatMap_assoc]
  rfl

/-- Code in braces calls what its head and its lines call, if no line starts with a call on what
stands in front of it. -/
theorem receivers_braced {head : Line} {body : Statements}
    (hbody : ∀ l ∈ body, ∀ s, (Line.text s ++ l).receivers = l.receivers) :
    receivers (braced head body) = (head ++ Line.text " \x7b").receivers ++ receivers body := by
  have hindented : receivers (indented 1 body) = receivers body := by
    rw [receivers, indented, List.flatMap_map]
    refine List.flatMap_congr fun l hl => ?_
    unfold indent
    split
    · rfl
    · exact hbody l hl _
  have hclose : receivers [Line.text "\x7d"] = [] := rfl
  rw [braced, receivers, List.flatMap_cons, ← receivers, receivers_append, hindented, hclose,
    List.append_nil]

end Statements

/-! ## Fields that an update writes -/

section Build

variable {d : Diagram} (hd : d.DistinctIds) (basePackage : String) (queryLimit : Int)
  {c : ClassNode} (hc : c ∈ d.classes)
include hd hc

/-- The accessors of the columns along a chain are predicted. -/
theorem Context.predicts_column {s : ScalarMember} (bean : Bean) (access : Access) :
    let ctx := (build d basePackage queryLimit).value
    s ∈ ctx.chainScalars c → ctx.predicts ⟨c, bean, access, s.fieldName⟩ = true := by
  intro ctx hs
  obtain ⟨p, hp, hs⟩ := List.mem_flatMap.1 (mem_of_mem_distinctBy hs)
  have hfield : s.fieldName ∈ (ctx.membersOf p).scalars.map (·.fieldName) :=
    List.mem_map_of_mem hs
  cases bean with
  | entity =>
    refine (predicts_entity hd basePackage queryLimit hc access _).2 ⟨p, hp, ?_⟩
    exact Hierarchy.fields_subset_entityFields p (List.mem_append_left _ hfield)
  | dto =>
    exact (predicts_dto hd basePackage queryLimit hc access _).2
      ⟨p, hp, List.mem_append_left _ hfield⟩

/-- The accessors of the references along a chain are predicted, and those of their id fields. -/
theorem Context.predicts_reference {r : ReferenceMember} (access : Access) :
    let ctx := (build d basePackage queryLimit).value
    r ∈ ctx.chainReferences c →
      ctx.predicts ⟨c, .entity, access, r.fieldName⟩ = true ∧
        ∀ field, r.dtoFieldName = some field →
          ctx.predicts ⟨c, .dto, access, field⟩ = true := by
  intro ctx hr
  obtain ⟨p, hp, hr⟩ := List.mem_flatMap.1 (mem_of_mem_distinctBy hr)
  constructor
  · refine (predicts_entity hd basePackage queryLimit hc access _).2 ⟨p, hp, ?_⟩
    exact Hierarchy.fields_subset_entityFields p
      (List.mem_append_right _ (List.mem_map_of_mem hr))
  · intro field hfield
    exact (predicts_dto hd basePackage queryLimit hc access _).2
      ⟨p, hp, List.mem_append_right _ (List.mem_filterMap.2 ⟨r, hr, hfield⟩)⟩

end Build

namespace Mapper

theorem ScalarMapping.receivers_update (m : ScalarMapping) :
    m.update.receivers = [("dto", m.dtoRead), ("entity", m.entityWrite), ("dto", m.dtoRead)] := by
  refine (Statements.receivers_braced ?_).trans rfl
  simp only [toEntity, List.forall_mem_singleton]
  exact fun s => rfl

/-- The entity that stands for a reference is made in front of the call on the entity itself. -/
theorem ReferenceMapping.receivers_toEntity (m : ReferenceMapping) :
    m.toEntity.receivers =
      [("dto", m.dtoRead), (m.reference.fieldName ++ "Temp", m.keyWrite), ("dto", m.dtoRead),
        ("entity", m.entityWrite)] := by
  refine (Statements.receivers_braced ?_).trans rfl
  simp only [List.forall_mem_cons]
  exact ⟨fun s => rfl, fun s => rfl, fun s => rfl, nofun⟩

/-- An update calls on the entity what its mappings write. -/
theorem mem_receivers_updateCode {ctx : Context} {c : ClassNode} {call : AccessorCall} :
    ("entity", call) ∈ (updateCode ctx c).receivers ↔
      (∃ m ∈ (updatePlan ctx c).scalars, call = m.entityWrite) ∨
        ∃ m ∈ (updatePlan ctx c).references, call = m.entityWrite := by
  have hstub : ∀ field : String, "entity" ≠ field ++ "Temp" := by
    intro field hfield
    have hlast := congrArg (fun s => s.toList.getLast?) hfield
    simp at hlast
  rw [updateCode, Statements.receivers_append, Statements.receivers_flatMap,
    Statements.receivers_flatMap]
  simp [ScalarMapping.receivers_update, ReferenceMapping.receivers_toEntity, hstub]

/-- The calls of an update are made on something. -/
theorem map_receivers_updateCode (ctx : Context) (c : ClassNode) :
    (updateCode ctx c).receivers.map (·.2) = (updateCode ctx c).calls := by
  rw [updateCode, Statements.receivers_append, Statements.receivers_flatMap,
    Statements.receivers_flatMap, Statements.calls_append, Statements.calls_flatMap,
    Statements.calls_flatMap]
  simp [List.map_flatMap, ScalarMapping.receivers_update, ReferenceMapping.receivers_toEntity,
    ScalarMapping.calls_update, ReferenceMapping.calls_toEntity]

/-- The mapping of a reference with an id field calls the accessors of this field, of the key of the
target and of the reference. -/
theorem exists_ofReference {c : ClassNode} {r : ReferenceMember} {field : String}
    (hfield : r.dtoFieldName = some field) :
    ∃ m, ofReference? c r = some m ∧ m.entityWrite = ⟨c, .entity, .write, r.fieldName⟩ ∧
      m.toEntityCalls = [⟨c, .dto, .read, field⟩,
        ⟨r.target, .entity, .write, r.targetKey.fieldName⟩,
        ⟨c, .entity, .write, r.fieldName⟩] :=
  ⟨_, congrArg (Option.map _) hfield, rfl, rfl⟩

section Build

variable {d : Diagram} (hd : d.DistinctIds) (basePackage : String) (queryLimit : Int)
  {c : ClassNode} (hc : c ∈ d.classes)
include hd hc

/-- An update uses the mappings of the columns along the chain that are no primary keys. -/
theorem mem_scalars_updatePlan {m : ScalarMapping} :
    let ctx := (Context.build d basePackage queryLimit).value
    m ∈ (updatePlan ctx c).scalars ↔
      ∃ s ∈ ctx.chainScalars c, s.isPrimaryKey = false ∧ m = ofScalar c s := by
  intro ctx
  constructor
  · intro hm
    obtain ⟨hm, hplain⟩ := List.mem_filter.1 hm
    obtain ⟨s, hs, rfl⟩ := List.mem_map.1 (List.mem_filter.1 hm).1
    exact ⟨s, hs, by simpa [ofScalar] using hplain, rfl⟩
  · rintro ⟨s, hs, hplain, rfl⟩
    have hpredicted : ctx.predictsAll (ofScalar c s).toEntityCalls = true := by
      simp [Context.predictsAll, ScalarMapping.toEntityCalls, ofScalar, ctx,
        Context.predicts_column hd basePackage queryLimit hc _ _ hs]
    refine List.mem_filter.2 ⟨List.mem_filter.2 ⟨List.mem_map_of_mem hs, hpredicted⟩, ?_⟩
    simp [ofScalar, hplain]

/-- An update uses the mappings of the references along the chain that have an id field, and whose
target has a setter for its key. -/
theorem mem_references_updatePlan {m : ReferenceMapping} :
    let ctx := (Context.build d basePackage queryLimit).value
    m ∈ (updatePlan ctx c).references ↔
      ∃ r ∈ ctx.chainReferences c,
        ctx.predicts ⟨r.target, .entity, .write, r.targetKey.fieldName⟩ = true ∧
        ofReference? c r = some m := by
  intro ctx
  constructor
  · intro hm
    obtain ⟨hm, hpredicted⟩ := List.mem_filter.1 hm
    obtain ⟨r, hr, hmapping⟩ := List.mem_filterMap.1 hm
    obtain ⟨field, hfield, rfl⟩ := Option.map_eq_some_iff.1 hmapping
    refine ⟨r, hr, ?_, hmapping⟩
    exact Context.predictsAll_iff.1 hpredicted _ (by simp [ReferenceMapping.toEntityCalls])
  · rintro ⟨r, hr, hkey, hmapping⟩
    obtain ⟨field, hfield, -⟩ := Option.map_eq_some_iff.1 hmapping
    obtain ⟨m', hmapping', -, hcalls⟩ := exists_ofReference (c := c) hfield
    obtain rfl : m' = m := Option.some.inj (hmapping'.symm.trans hmapping)
    have hread := (Context.predicts_reference hd basePackage queryLimit hc .read hr).2 _ hfield
    have hwrite := (Context.predicts_reference hd basePackage queryLimit hc .write hr).1
    have hpredicted : ctx.predictsAll m'.toEntityCalls = true := by
      simp [Context.predictsAll, hcalls, ctx, hread, hwrite, hkey]
    exact List.mem_filter.2 ⟨List.mem_filterMap.2 ⟨r, hr, hmapping⟩, hpredicted⟩

/-- An update by the mapper writes the columns along the chain that are no primary keys, and the
references that have an id field and whose target has a setter for its key. -/
theorem writes_iff {call : AccessorCall} :
    let ctx := (Context.build d basePackage queryLimit).value
    ("entity", call) ∈ (updateCode ctx c).receivers ↔
      (∃ s ∈ ctx.chainScalars c, s.isPrimaryKey = false ∧
        call = ⟨c, .entity, .write, s.fieldName⟩) ∨
      ∃ r ∈ ctx.chainReferences c, call = ⟨c, .entity, .write, r.fieldName⟩ ∧
        r.dtoFieldName.isSome ∧
        ctx.predicts ⟨r.target, .entity, .write, r.targetKey.fieldName⟩ = true := by
  intro ctx
  rw [mem_receivers_updateCode]
  refine or_congr ⟨?_, ?_⟩ ⟨?_, ?_⟩
  · rintro ⟨m, hm, rfl⟩
    obtain ⟨s, hs, hplain, rfl⟩ := (mem_scalars_updatePlan hd basePackage queryLimit hc).1 hm
    exact ⟨s, hs, hplain, rfl⟩
  · rintro ⟨s, hs, hplain, rfl⟩
    exact ⟨_, (mem_scalars_updatePlan hd basePackage queryLimit hc).2 ⟨s, hs, hplain, rfl⟩, rfl⟩
  · rintro ⟨m, hm, rfl⟩
    obtain ⟨r, hr, hkey, hmapping⟩ :=
      (mem_references_updatePlan hd basePackage queryLimit hc).1 hm
    obtain ⟨field, hfield, rfl⟩ := Option.map_eq_some_iff.1 hmapping
    exact ⟨r, hr, rfl, Option.isSome_iff_exists.2 ⟨field, hfield⟩, hkey⟩
  · rintro ⟨r, hr, rfl, hid, hkey⟩
    obtain ⟨field, hfield⟩ := Option.isSome_iff_exists.1 hid
    obtain ⟨m, hmapping, hwrite, -⟩ := exists_ofReference (c := c) hfield
    exact ⟨m, (mem_references_updatePlan hd basePackage queryLimit hc).2 ⟨r, hr, hkey, hmapping⟩,
      hwrite.symm⟩

end Build

end Mapper

namespace Service

theorem receivers_copyField (c : ClassNode) (field : String) :
    (copyField c field).receivers =
      [("incoming", ⟨c, .entity, .read, field⟩), ("existing", ⟨c, .entity, .write, field⟩),
        ("incoming", ⟨c, .entity, .read, field⟩)] := by
  refine (Statements.receivers_braced ?_).trans rfl
  simp only [List.forall_mem_singleton]
  exact fun s => rfl

/-- An update calls on the entity what it copies. -/
theorem mem_receivers_copyCode {c : ClassNode} {fields : List String} {call : AccessorCall} :
    ("existing", call) ∈ (copyCode c fields).receivers ↔
      ∃ field ∈ fields, call = ⟨c, .entity, .write, field⟩ := by
  rw [copyCode, Statements.receivers_flatMap]
  simp [receivers_copyField]

/-- The calls of an update are made on something. -/
theorem map_receivers_copyCode (c : ClassNode) (fields : List String) :
    (copyCode c fields).receivers.map (·.2) = (copyCode c fields).calls := by
  rw [copyCode, Statements.receivers_flatMap, Statements.calls_flatMap]
  rw [List.map_flatMap]
  refine List.flatMap_congr fun field _ => ?_
  rw [receivers_copyField]
  simp [copyField]

/-- A field whose accessors are predicted is copied. -/
theorem mem_copied {ctx : Context} {c : ClassNode} {field : String}
    (hfield : field ∈ updateFields ctx c)
    (hpredicted : ∀ access, ctx.predicts ⟨c, .entity, access, field⟩ = true) :
    field ∈ (copied ctx c).value := by
  refine mem_keepFree.2 ⟨hfield, Context.obstacle?_eq_none_iff.2 ?_⟩
  simp [copyCalls, hpredicted]

/-- An update by the service writes the columns along the chain that are no primary keys, and the
references. -/
theorem writes_iff {d : Diagram} (hd : d.DistinctIds) (basePackage : String) (queryLimit : Int)
    {c : ClassNode} (hc : c ∈ d.classes) {call : AccessorCall} :
    let ctx := (Context.build d basePackage queryLimit).value
    ("existing", call) ∈ (copyCode c (copied ctx c).value).receivers ↔
      (∃ s ∈ ctx.chainScalars c, s.isPrimaryKey = false ∧
        call = ⟨c, .entity, .write, s.fieldName⟩) ∨
      ∃ r ∈ ctx.chainReferences c, call = ⟨c, .entity, .write, r.fieldName⟩ := by
  intro ctx
  rw [mem_receivers_copyCode]
  constructor
  · rintro ⟨field, hfield, rfl⟩
    rcases List.mem_append.1 (mem_keepFree.1 hfield).1 with hfield | hfield
    · obtain ⟨s, hs, rfl⟩ := List.mem_map.1 hfield
      obtain ⟨hs, hplain⟩ := List.mem_filter.1 hs
      exact .inl ⟨s, hs, by simpa using hplain, rfl⟩
    · obtain ⟨r, hr, rfl⟩ := List.mem_map.1 hfield
      exact .inr ⟨r, hr, rfl⟩
  · rintro (⟨s, hs, hplain, rfl⟩ | ⟨r, hr, rfl⟩)
    · refine ⟨s.fieldName, mem_copied ?_ fun access => ?_, rfl⟩
      · refine List.mem_append_left _ (List.mem_map_of_mem (List.mem_filter.2 ⟨hs, ?_⟩))
        simp [hplain]
      · exact Context.predicts_column hd basePackage queryLimit hc .entity access hs
    · refine ⟨r.fieldName, mem_copied ?_ fun access => ?_, rfl⟩
      · exact List.mem_append_right _ (List.mem_map_of_mem hr)
      · exact (Context.predicts_reference hd basePackage queryLimit hc access hr).1

end Service

/-! ## Files -/

/-- The method for an update by the mapper is in its file. -/
theorem Mapper.updateMethod_in_file (ctx : Context) (c : ClassNode) :
    indented 1 (updateMethod ctx c) <:+: (file ctx c).value.body := by
  refine (indented_infix_braced ?_).trans (List.suffix_cons _ _).isInfix
  exact List.infix_append_right.trans (List.prefix_append _ _).isInfix

/-- The method for an update by the service is in the file of the implementation. -/
theorem Service.copying_in_file (ctx : Context) (c : ClassNode) :
    indented 1 (copying c (copied ctx c).value) <:+: (implementationFile ctx c).value.body := by
  refine (indented_infix_braced ?_).trans List.infix_append_right
  iterate 2 refine List.infix_append_of_infix_left ?_
  exact List.infix_append_right

/-! ## The field of the key -/

section Build

variable {d : Diagram} (hd : d.DistinctIds) (basePackage : String) (queryLimit : Int)
  {c : ClassNode} (hc : c ∈ d.classes)
include hd hc

/-- A primary key of the chain is a column of the class at the top. -/
theorem Context.mem_scalars_root {k : ClassNode × ScalarMember} :
    let ctx := (build d basePackage queryLimit).value
    k ∈ ctx.chainKeys c → k.2.isPrimaryKey = true ∧
      k.2 ∈ (ctx.membersOf (ctx.hierarchy.root c)).scalars := by
  intro ctx hk
  have hh : ctx.hierarchy.WellFormed := Hierarchy.wellFormed_ofDiagram d
  rw [chainKeys_build hd basePackage queryLimit hc] at hk
  obtain ⟨s, hs, rfl⟩ := List.mem_map.1 hk
  rw [membersOf_build hd basePackage queryLimit (hh.root_mem hc)]
  obtain ⟨hs, hmark⟩ := List.mem_filter.1 hs
  exact ⟨hmark, hs⟩

/-- A column that counts is a primary key if a primary key of the chain has its field. -/
theorem Context.isPrimaryKey_iff {s : ScalarMember} :
    let ctx := (build d basePackage queryLimit).value
    s ∈ ctx.chainScalars c →
      (s.isPrimaryKey = true ↔ ∃ k ∈ ctx.chainKeys c, k.2.fieldName = s.fieldName) := by
  intro ctx hs
  constructor
  · intro hmark
    obtain ⟨p, hp, hmem⟩ := List.mem_flatMap.1 (mem_of_mem_distinctBy hs)
    exact ⟨(p, s), List.mem_flatMap.2
      ⟨p, hp, List.mem_map_of_mem (List.mem_filter.2 ⟨hmem, hmark⟩)⟩, rfl⟩
  · rintro ⟨k, hk, hfield⟩
    obtain ⟨hmark, hroot⟩ := mem_scalars_root hd basePackage queryLimit hc hk
    -- The class at the top comes first in the chain, and its columns have different fields.
    obtain ⟨rest, hchain⟩ := List.head?_eq_some_iff.1 (Hierarchy.head?_chain (h := ctx.hierarchy) c)
    rw [chainScalars, hchain, List.flatMap_cons] at hs
    have hfirst := mem_left_of_mem_distinctBy hs hroot hfield
    have hmembers : ctx.membersOf (ctx.hierarchy.root c) =
        ctx.hierarchy.membersOf (ctx.hierarchy.root c) :=
      membersOf_build hd basePackage queryLimit ((Hierarchy.wellFormed_ofDiagram d).root_mem hc)
    have hnodup : ((ctx.membersOf (ctx.hierarchy.root c)).scalars.map (·.fieldName)).Nodup := by
      rw [hmembers]
      exact (List.nodup_append.1 (Hierarchy.nodup_fields _)).1
    obtain rfl := List.inj_on_of_nodup_map hnodup hroot hfirst hfield
    exact hmark

/-- A column without the mark of a primary key has the field of the key exactly if the class at the
top of the chain has no primary key, and a column of the chain has this field. -/
theorem Context.exists_column_iff :
    let ctx := (build d basePackage queryLimit).value
    let key := ctx.entityKey c
    (∃ s ∈ ctx.chainScalars c, s.isPrimaryKey = false ∧ s.fieldName = key.fieldName) ↔
      (ctx.membersOf (ctx.hierarchy.root c)).keys = [] ∧
        ∃ p ∈ ctx.hierarchy.chain c, ∃ s ∈ (ctx.membersOf p).scalars,
          s.fieldName = key.fieldName := by
  intro ctx key
  have hh : ctx.hierarchy.WellFormed := Hierarchy.wellFormed_ofDiagram d
  have hkeys : ctx.chainKeys c = (ctx.membersOf (ctx.hierarchy.root c)).keys.map
      (ctx.hierarchy.root c, ·) := by
    rw [membersOf_build hd basePackage queryLimit (hh.root_mem hc)]
    exact chainKeys_build hd basePackage queryLimit hc
  -- All primary keys of the top have the field.
  have hfields : ∀ k ∈ (ctx.membersOf (ctx.hierarchy.root c)).keys,
      k.fieldName = key.fieldName := by
    intro k hk
    rw [membersOf_build hd basePackage queryLimit (hh.root_mem hc)] at hk
    rw [(hh.keys_top_sound (hh.parentOf_root c)).2 k hk]
    exact (congrArg _ (entityKey_build hd basePackage queryLimit hc)).symm
  constructor
  · rintro ⟨s, hs, hplain, hfield⟩
    obtain ⟨p, hp, hmem⟩ := List.mem_flatMap.1 (mem_of_mem_distinctBy hs)
    refine ⟨List.eq_nil_iff_forall_not_mem.2 fun k hk => ?_, p, hp, s, hmem, hfield⟩
    refine Bool.eq_false_iff.1 hplain ((isPrimaryKey_iff hd basePackage queryLimit hc hs).2 ?_)
    exact ⟨_, hkeys ▸ List.mem_map_of_mem hk, (hfields k hk).trans hfield.symm⟩
  · rintro ⟨hnone, p, hp, s, hs, hfield⟩
    obtain ⟨first, hfirst, hsame⟩ : ∃ first ∈ ctx.chainScalars c, first.fieldName = s.fieldName :=
      exists_mem_distinctBy (List.mem_flatMap.2 ⟨p, hp, hs⟩)
    refine ⟨first, hfirst, Bool.eq_false_iff.2 fun hmark => ?_, hsame.trans hfield⟩
    obtain ⟨k, hk, -⟩ := (isPrimaryKey_iff hd basePackage queryLimit hc hfirst).1 hmark
    rw [hkeys, hnone] at hk
    cases hk

/-- What an update writes are fields of the chain. -/
theorem Context.field_mem_of_chain {field : String} :
    let ctx := (build d basePackage queryLimit).value
    ((∃ s ∈ ctx.chainScalars c, s.fieldName = field) ∨
      ∃ r ∈ ctx.chainReferences c, r.fieldName = field) →
      ∃ p ∈ d.classes, field ∈ (ctx.hierarchy.membersOf p).fields := by
  intro ctx hfield
  obtain ⟨hscalars, hreferences⟩ := Mapper.mem_chain_build hd basePackage queryLimit hc
  rcases hfield with ⟨s, hs, rfl⟩ | ⟨r, hr, rfl⟩
  · obtain ⟨p, -, hp, hs⟩ := hscalars s hs
    exact ⟨p, hp, List.mem_append_left _ (List.mem_map_of_mem hs)⟩
  · obtain ⟨p, -, hp, hr⟩ := hreferences r hr
    exact ⟨p, hp, List.mem_append_right _ (List.mem_map_of_mem hr)⟩

end Build

/-- In the files of a diagram without repeated ids, every call of an update is made on something.
The mapper writes the field of the key of the entity that it updates exactly if a column has this
field although the class at the top of the chain has no primary key, or a reference has it that is
mapped to the entity. The service does so exactly if such a column or any reference has it. If names
are made of ASCII characters, no other call on the entity has the name of the setter of the key. -/
theorem key_written_iff (d : Diagram) (hd : d.DistinctIds) (basePackage : String)
    (queryLimit : Int) (c : ClassNode) (hc : c ∈ d.classes) :
    let ctx := (Context.build d basePackage queryLimit).value
    let key := ctx.entityKey c
    let write : AccessorCall := ⟨c, .entity, .write, key.fieldName⟩
    let mapped := Mapper.updateCode ctx c
    let copied := Service.copyCode c (Service.copied ctx c).value
    let column := (ctx.membersOf (ctx.hierarchy.root c)).keys = [] ∧
      ∃ p ∈ ctx.hierarchy.chain c, ∃ s ∈ (ctx.membersOf p).scalars, s.fieldName = key.fieldName
    indented 1 (Mapper.updateMethod ctx c) <:+: (Mapper.file ctx c).value.body ∧
      indented 1 (Service.copying c (Service.copied ctx c).value) <:+:
        (Service.implementationFile ctx c).value.body ∧
      mapped.receivers.map (·.2) = mapped.calls ∧ copied.receivers.map (·.2) = copied.calls ∧
      (("entity", write) ∈ mapped.receivers ↔
        column ∨ ∃ r ∈ ctx.chainReferences c, r.fieldName = key.fieldName ∧
          r.dtoFieldName.isSome ∧
          ctx.predicts ⟨r.target, .entity, .write, r.targetKey.fieldName⟩ = true) ∧
      (("existing", write) ∈ copied.receivers ↔
        column ∨ ∃ r ∈ ctx.chainReferences c, r.fieldName = key.fieldName) ∧
      (d.AsciiNames → ∀ call,
        ("entity", call) ∈ mapped.receivers ∨ ("existing", call) ∈ copied.receivers →
          call.method = setter key.fieldName → call = write) := by
  intro ctx key write mapped copied column
  have hmapper : ∀ call, ("entity", call) ∈ mapped.receivers ↔ _ := fun call =>
    Mapper.writes_iff hd basePackage queryLimit hc
  have hservice : ∀ call, ("existing", call) ∈ copied.receivers ↔ _ := fun call =>
    Service.writes_iff hd basePackage queryLimit hc
  have hcolumn : _ ↔ column := Context.exists_column_iff hd basePackage queryLimit hc
  have hwrite : ∀ field, write = ⟨c, .entity, .write, field⟩ ↔ field = key.fieldName := by
    simp [write, eq_comm]
  refine ⟨Mapper.updateMethod_in_file ctx c, Service.copying_in_file ctx c,
    Mapper.map_receivers_updateCode ctx c, Service.map_receivers_copyCode c _, ?_, ?_, ?_⟩
  · rw [hmapper, ← hcolumn]
    simp only [hwrite]
    rfl
  · rw [hservice, ← hcolumn]
    simp only [hwrite]
    rfl
  · intro hn call hcall hname
    obtain ⟨field, rfl, hfield⟩ : ∃ field, call = ⟨c, .entity, .write, field⟩ ∧
        ((∃ s ∈ ctx.chainScalars c, s.fieldName = field) ∨
          ∃ r ∈ ctx.chainReferences c, r.fieldName = field) := by
      rw [hmapper, hservice] at hcall
      rcases hcall with (⟨s, hs, -, rfl⟩ | ⟨r, hr, rfl, -⟩) | ⟨s, hs, -, rfl⟩ | ⟨r, hr, rfl⟩
      · exact ⟨_, rfl, .inl ⟨s, hs, rfl⟩⟩
      · exact ⟨_, rfl, .inr ⟨r, hr, rfl⟩⟩
      · exact ⟨_, rfl, .inl ⟨s, hs, rfl⟩⟩
      · exact ⟨_, rfl, .inr ⟨r, hr, rfl⟩⟩
    obtain ⟨p, hp, hmem⟩ := Context.field_mem_of_chain hd basePackage queryLimit hc hfield
    have hh : ctx.hierarchy.WellFormed := Hierarchy.wellFormed_ofDiagram d
    have hkey : key = ctx.hierarchy.keyOf (ctx.hierarchy.root c) :=
      Context.entityKey_build hd basePackage queryLimit hc
    have hsmall : StartsSmall key.fieldName.toList := by
      rw [hkey]
      exact Hierarchy.startsSmall_keyOf hn hh (hh.root_mem hc)
    have hsame : field = key.fieldName :=
      setter_inj (Hierarchy.startsSmall_fields hn hh hp field hmem) hsmall hname
    rw [hsame]

/-- Makers have a key. -/
def maker : ClassNode where
  id := "m"
  name := "Maker"
  attributes := [{ name := "id", type := "Long", isPrimaryKey := true }]

/-- A foreign key to makers. -/
def makerKey (name : String) : Attribute where
  name := name
  type := "Long"
  isForeignKey := true
  referencedEntity := some "Maker"

/-- Devices have a key. -/
def device : ClassNode where
  id := "d"
  name := "Device"
  attributes := [{ name := "id", type := "Long", isPrimaryKey := true }]

/-- Probes are devices with a unit and a maker. -/
def probe : ClassNode where
  id := "p"
  name := "Probe"
  attributes := [{ name := "unit", type := "String" }, makerKey "made_by"]

/-- Thermometers are probes with a foreign key that is called as the key of devices is. -/
def thermometer : ClassNode where
  id := "t"
  name := "Thermometer"
  attributes := [makerKey "id"]

/-- Sensors have a key behind a column that gets the same field. -/
def sensor : ClassNode where
  id := "s"
  name := "Sensor"
  attributes :=
    [{ name := "sensor_id", type := "String" },
      { name := "sensorId", type := "Long", isPrimaryKey := true }]

/-- Makers, devices with two generations of children, and sensors. -/
def laboratory : Diagram where
  classes := [maker, device, probe, thermometer, sensor]
  relationships := [parentEdge "d" "p", parentEdge "p" "t"]

theorem distinctIds_laboratory : laboratory.DistinctIds := by
  unfold Diagram.DistinctIds
  decide

/-- An update of a probe writes its unit and its maker, and not the key that it has from devices.
The setter of that name is called on the maker only. -/
theorem key_written_probe :
    let ctx := (Context.build laboratory "app" 3).value
    let mapped := (Mapper.updateCode ctx probe).receivers
    let copied := (Service.copyCode probe (Service.copied ctx probe).value).receivers
    laboratory.DistinctIds ∧ probe ∈ laboratory.classes ∧ laboratory.AsciiNames ∧
      ctx.entityKey probe = ⟨"id", .long, false⟩ ∧
      (∀ call, ("entity", call) ∈ mapped ∨ ("existing", call) ∈ copied →
        call.method ≠ "setId") ∧
      ("madeByTemp", ⟨maker, .entity, .write, "id"⟩) ∈ mapped ∧
      ∀ field ∈ ["unit", "madeBy"], ("entity", ⟨probe, .entity, .write, field⟩) ∈ mapped ∧
        ("existing", ⟨probe, .entity, .write, field⟩) ∈ copied := by
  intro ctx mapped copied
  have hc : probe ∈ laboratory.classes := by decide
  have hn : laboratory.AsciiNames := by
    unfold Diagram.AsciiNames
    decide
  have hkey : ctx.entityKey probe = ⟨"id", .long, false⟩ := by decide +kernel
  have hcolumn : ¬(ctx.membersOf (ctx.hierarchy.root probe)).keys = [] := by decide +kernel
  have hreference : ¬∃ r ∈ ctx.chainReferences probe, r.fieldName = "id" := by decide +kernel
  obtain ⟨-, -, -, -, hmapper, hservice, hnames⟩ :=
    key_written_iff laboratory distinctIds_laboratory "app" 3 probe hc
  rw [hkey] at hmapper hservice
  refine ⟨distinctIds_laboratory, hc, hn, hkey, fun call hcall hname => ?_, by decide +kernel,
    by decide +kernel⟩
  have hwrite : call = ⟨probe, .entity, .write, "id"⟩ := by
    have hsame := hnames hn call hcall (hkey ▸ hname)
    rwa [hkey] at hsame
  subst hwrite
  rcases hcall with hcall | hcall
  · rcases hmapper.1 hcall with ⟨hnone, -⟩ | ⟨r, hr, hfield, -⟩
    · exact hcolumn hnone
    · exact hreference ⟨r, hr, hfield⟩
  · rcases hservice.1 hcall with ⟨hnone, -⟩ | hsome
    · exact hcolumn hnone
    · exact hreference hsome

/-- An update of a sensor writes the field of the key, which a column has, and one of a thermometer
does, which a reference has. -/
theorem not_kept_laboratory :
    let ctx := (Context.build laboratory "app" 3).value
    laboratory.DistinctIds ∧
      ∀ c ∈ [sensor, thermometer], c ∈ laboratory.classes ∧
        ("entity", ⟨c, .entity, .write, (ctx.entityKey c).fieldName⟩) ∈
          (Mapper.updateCode ctx c).receivers ∧
        ("existing", ⟨c, .entity, .write, (ctx.entityKey c).fieldName⟩) ∈
          (Service.copyCode c (Service.copied ctx c).value).receivers :=
  ⟨distinctIds_laboratory, by decide +kernel⟩

end Scaffold
