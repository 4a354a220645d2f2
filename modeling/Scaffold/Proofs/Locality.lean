import Scaffold.Proofs.Agreement.Build
import Scaffold.Proofs.Agreement.Edges
import Scaffold.Proofs.Lengths

/-!
# A class that stands apart

A class stands apart from a diagram if no id or name in the diagram is its own, and it references no
class of the diagram (`Diagram.Apart`). If the diagram gains such a class (`Diagram.withClass`), no
lookup of the other classes finds it, it gives none of them a collection, and its resolution touches
nothing that is remembered for them (`spared_planCollections`). So the contexts agree
(`Context.agrees_withClass`), and all that is generated for the others stays as it is. Their names
and ids may repeat. The entity of the class itself must be generated, because a diagram of which one
entity fails has no artifacts: the lengths of its columns can be read, and no default value holds an
integer with more digits than are shown (`Attribute.Declarable`).

Main statement: `artifacts_apart`.
-/

namespace Scaffold

open Naming Text

/-! ## Lists with one more member -/

section Insertion

variable {α β : Type} {l : List α} {i : Nat} {a : α}

theorem find?_insert {p : α → Bool} (ha : p a = false) :
    (l.take i ++ a :: l.drop i).find? p = l.find? p := by
  have hne : ¬p a = true := by simp [ha]
  rw [List.find?_append, List.find?_cons_of_neg hne, ← List.find?_append, List.take_append_drop]

theorem find?_reverse_insert {p : α → Bool} (ha : p a = false) :
    (l.take i ++ a :: l.drop i).reverse.find? p = l.reverse.find? p := by
  have hne : ¬p a = true := by simp [ha]
  have hreverse : l.reverse = (l.drop i).reverse ++ (l.take i).reverse := by
    rw [← List.reverse_append, List.take_append_drop]
  rw [List.reverse_append, List.reverse_cons, List.append_assoc, List.singleton_append,
    List.find?_append, List.find?_cons_of_neg hne, ← List.find?_append, ← hreverse]

theorem filterMap_insert {f : α → Option β} (ha : f a = none) :
    (l.take i ++ a :: l.drop i).filterMap f = l.filterMap f := by
  rw [List.filterMap_append, List.filterMap_cons_none ha, ← List.filterMap_append,
    List.take_append_drop]

theorem filter_insert {p : α → Bool} (ha : p a = false) (hl : ∀ b ∈ l, p b = true) :
    (l.take i ++ a :: l.drop i).filter p = l := by
  have hne : ¬p a = true := by simp [ha]
  rw [List.filter_append, List.filter_cons_of_neg hne, ← List.filter_append,
    List.take_append_drop]
  exact List.filter_eq_self.2 hl

end Insertion

/-! ## Classes that stand apart -/

namespace Diagram

/-- The diagram with one more class, behind its first `i` classes. -/
def withClass (d : Diagram) (i : Nat) (extra : ClassNode) : Diagram :=
  { d with classes := d.classes.take i ++ extra :: d.classes.drop i }

/-- A class shares no id and no name with a diagram, and references no class of it. -/
structure Apart (d : Diagram) (extra : ClassNode) : Prop where
  /-- Its id is that of no class. -/
  ids : ∀ c ∈ d.classes, c.id ≠ extra.id
  /-- No edge leads to it or comes from it. -/
  ends : ∀ r ∈ d.relationships, r.source ≠ extra.id ∧ r.target ≠ extra.id
  /-- Its name is that of no class. -/
  names : ∀ c ∈ d.classes, c.name ≠ extra.name
  /-- No class references it. -/
  attributes : ∀ c ∈ d.classes, ∀ a ∈ c.attributes, a.referencedEntity ≠ some extra.name
  /-- No association table references it. -/
  tables : ∀ t ∈ d.associationTables, ∀ a ∈ t.foreignKeys, a.referencedEntity ≠ some extra.name
  /-- It references no class. -/
  keys : ∀ a ∈ extra.foreignKeys, ∀ c ∈ d.classes, a.referencedEntity ≠ some c.name

variable {d : Diagram} {extra : ClassNode}

theorem mem_withClass {i : Nat} {c : ClassNode} :
    c ∈ (d.withClass i extra).classes ↔ c = extra ∨ c ∈ d.classes := by
  have hparts : c ∈ d.classes ↔ c ∈ d.classes.take i ∨ c ∈ d.classes.drop i := by
    rw [← List.mem_append, List.take_append_drop]
  rw [withClass, List.mem_append, List.mem_cons, hparts]
  exact or_left_comm

theorem classById_withClass {id : String} (hid : id ≠ extra.id) (i : Nat) :
    d.classById id = (d.withClass i extra).classById id := by
  have hfind : (d.classes.take i ++ extra :: d.classes.drop i).reverse.find? (·.id = id) =
      d.classes.reverse.find? (·.id = id) := find?_reverse_insert (decide_eq_false hid.symm)
  rw [classById, classById, withClass, hfind]

theorem classByName_withClass {name : String} (hname : name ≠ extra.name) (i : Nat) :
    d.classByName name = (d.withClass i extra).classByName name := by
  have hfind : (d.classes.take i ++ extra :: d.classes.drop i).find? (·.name = name) =
      d.classes.find? (·.name = name) := find?_insert (decide_eq_false hname.symm)
  rw [classByName, classByName, withClass, hfind]

namespace Apart

variable (ha : d.Apart extra) (i : Nat)
include ha

theorem classes_eq_filter :
    d.classes = (d.withClass i extra).classes.filter fun c => c.id ≠ extra.id :=
  (filter_insert (by simp) fun c hc => decide_eq_true (ha.ids c hc)).symm

theorem sharesEdges : d.SharesEdges (d.withClass i extra) where
  relationships := rfl
  tables := rfl
  ids c hc := classById_withClass (ha.ids c hc) i
  ends r hr := ⟨classById_withClass (ha.ends r hr).1 i, classById_withClass (ha.ends r hr).2 i⟩

omit ha in
/-- An attribute that does not reference the extra class references what it did before. -/
theorem bind_classByName {a : Attribute} (hne : a.referencedEntity ≠ some extra.name) :
    a.referencedEntity.bind d.classByName =
      a.referencedEntity.bind (d.withClass i extra).classByName := by
  cases hname : a.referencedEntity with
  | none => rfl
  | some name =>
    rw [hname] at hne
    exact classByName_withClass (fun heq => hne (congrArg some heq)) i

theorem sharesReferences :
    (Hierarchy.ofDiagram d).value.SharesReferences
      (Hierarchy.ofDiagram (d.withClass i extra)).value where
  wellFormed := Hierarchy.wellFormed_ofDiagram d
  parents := (ha.sharesEdges i).sameParents
  referenceTarget c hc a hmem := by
    change d.referenceTarget? a = (d.withClass i extra).referenceTarget? a
    rw [referenceTarget?, referenceTarget?, bind_classByName i (ha.attributes c hc a hmem)]

/-- The extra class gives no other class a collection. -/
theorem sharesLinks : d.SharesLinks (d.withClass i extra) where
  classes c hc := mem_withClass.2 (.inr hc)
  parents := (ha.sharesEdges i).sameParents
  representative c hc := (ha.sharesEdges i).representative hc
  oneToManyLinks c hc := by
    have hlast := (Hierarchy.representative_mem (h := (Hierarchy.ofDiagram d).value) hc).1
    rw [Hierarchy.oneToManyLinks, Hierarchy.oneToManyLinks, ← (ha.sharesEdges i).representative hc,
      Hierarchy.deriveOneToMany, Hierarchy.deriveOneToMany,
      ← (ha.sharesEdges i).sameParents.oneToManyOf?]
    refine congrArg _ (filterMap_insert ?_).symm
    rw [Option.eq_none_iff_forall_ne_some]
    intro l hl
    obtain ⟨-, -, hreference⟩ := Hierarchy.oneToManyOf?_sound hl
    obtain ⟨a, hkey, hname⟩ := List.any_eq_true.1 hreference
    exact ha.keys a hkey _ hlast (of_decide_eq_true hname)
  manyToManyLinks c hc := (ha.sharesEdges i).manyToManyLinks hc

/-- The extra class is the only one with its id. -/
theorem eq_extra {c : ClassNode} (hc : c ∈ (d.withClass i extra).classes)
    (hid : c.id = extra.id) : c = extra := by
  rcases mem_withClass.1 hc with heq | hc
  · exact heq
  · exact absurd hid (ha.ids c hc)

theorem filter_eq_extra :
    ((d.withClass i extra).classes.filter fun c => c.id = extra.id) = [extra] := by
  have hnone : ∀ l ⊆ d.classes, (l.filter fun c => c.id = extra.id) = [] := fun l hl =>
    List.filter_eq_nil_iff.2 fun c hc => by simpa using ha.ids c (hl hc)
  rw [withClass, List.filter_append, List.filter_cons_of_pos (by simp),
    hnone _ (List.take_subset ..), hnone _ (List.drop_subset ..), List.nil_append]

/-! ## The extra class -/

/-- The extra class has no ancestors. -/
theorem ancestors_extra :
    (Hierarchy.ofDiagram (d.withClass i extra)).value.ancestors extra = [] := by
  have hh := Hierarchy.wellFormed_ofDiagram d
  rw [← (ha.sharesEdges i).sameParents.ancestors]
  refine hh.ancestors_of_top ?_
  cases hparent : (Hierarchy.ofDiagram d).value.parentOf extra with
  | none => rfl
  | some p =>
    obtain ⟨id, hid, -⟩ := Option.bind_eq_some_iff.1 hparent
    have hlink := Forest.mem_links_of_parentId (Option.filter_eq_some_iff.1 hid).1
    obtain ⟨c, hc⟩ := Option.isSome_iff_exists.1 (hh.ends _ hlink).1
    exact absurd (id_of_classById hc) (ha.ids c (mem_of_classById hc))

/-- The extra class stands for its own id. -/
theorem representative_extra :
    (Hierarchy.ofDiagram (d.withClass i extra)).value.representative extra = extra := by
  obtain ⟨hmem, hid⟩ := Hierarchy.representative_mem
    (h := (Hierarchy.ofDiagram (d.withClass i extra)).value) (mem_withClass.2 (.inl rfl))
  exact ha.eq_extra i hmem hid

/-- No class has a one-to-many collection of itself, and no other class references the extra
one. -/
theorem oneToManyLinks_extra :
    (Hierarchy.ofDiagram (d.withClass i extra)).value.oneToManyLinks extra = [] := by
  rw [List.eq_nil_iff_forall_not_mem]
  intro l hl
  rw [Hierarchy.oneToManyLinks, ha.representative_extra i] at hl
  obtain ⟨related, hrelated, hl⟩ := List.mem_filterMap.1 (mem_of_mem_distinctBy hl)
  rcases mem_withClass.1 hrelated with rfl | hrelated
  · simp [Hierarchy.oneToManyOf?] at hl
  · obtain ⟨-, -, hreference⟩ := Hierarchy.oneToManyOf?_sound hl
    obtain ⟨a, hkey, hname⟩ := List.any_eq_true.1 hreference
    exact ha.attributes related hrelated a (List.mem_of_mem_filter hkey) (of_decide_eq_true hname)

/-- The extra class can only reference itself. -/
theorem referenceTarget_extra {a : Attribute} (hmem : a ∈ extra.attributes) {target : ClassNode}
    (htarget : (d.withClass i extra).referenceTarget? a = some target) : target = extra := by
  unfold referenceTarget? at htarget
  split at htarget
  · next hreference =>
    obtain ⟨name, hname, hclass⟩ := Option.bind_eq_some_iff.1 htarget
    have hkey : a ∈ extra.foreignKeys :=
      List.mem_filter.2 ⟨hmem, (Bool.and_eq_true_iff.1 hreference).1⟩
    rcases mem_withClass.1 (mem_of_classByName hclass) with heq | hc
    · exact heq
    · rw [← name_of_classByName hclass] at hname
      exact absurd hname (ha.keys a hkey target hc)
  · cases htarget

end Apart

end Diagram

/-! ## Resolution -/

namespace Resolve

section Top

variable {ids : String → Prop} {h : Hierarchy} {c : ClassNode} (hid : ¬ids c.id)
  (htop : h.ancestors c = [])
include hid htop

theorem spared_primaryKey : Spared ids (primaryKey h c) fun _ => True := by
  rw [primaryKey, htop]
  exact spared_keyAlong (List.forall_mem_singleton.2 hid)

theorem spared_entityKey : Spared ids (entityKey h c) fun _ => True := by
  have hroot : h.root c = c := by
    rw [Hierarchy.root, htop]
    rfl
  rw [entityKey, hroot]
  exact spared_primaryKey hid htop

variable (hself : ∀ a ∈ c.attributes, ∀ target,
  h.diagram.referenceTarget? a = some target → target = c)
include hself

theorem spared_addAttribute (m : Members) {a : Attribute} (ha : a ∈ c.attributes) :
    Spared ids (addAttribute h c m a) fun _ => True := by
  have hplace : ∀ field, Spared ids (placeAttribute h c m a field) fun _ => True := by
    intro field
    unfold placeAttribute
    split
    · exact (spared_note _ _ _).bind fun _ _ => spared_pure trivial
    · cases htarget : h.diagram.referenceTarget? a with
      | none => exact spared_pure trivial
      | some target =>
        rw [hself a ha target htarget]
        exact (spared_entityKey hid htop).bind fun _ _ => spared_pure trivial
  unfold addAttribute
  split
  · exact spared_pure trivial
  · split
    · have hfield : Spared ids ((·.fieldName) <$> primaryKey h c) fun _ => True :=
        fun s s' hs => ⟨trivial, (spared_primaryKey hid htop s s' hs).2⟩
      exact hfield.bind fun field _ => hplace field
    · exact (spared_pure (R := fun _ => True) trivial).bind fun field _ => hplace field

theorem spared_membersOf : Spared ids (membersOf h c) fun _ => True := by
  rw [membersOf, htop, membersAlong]
  refine spared_get.bind fun s _ => ?_
  cases s.members.lookup c.id with
  | some m => exact spared_pure trivial
  | none =>
    refine (spared_foldlM fun m a ha => spared_addAttribute hid htop hself m ha).bind
      fun own _ => ?_
    refine (spared_pure (R := fun _ => True) trivial).bind fun _ _ => ?_
    refine spared_get.bind fun known _ => ?_
    refine (spared_noted _).bind fun references _ => ?_
    exact (spared_rememberMembers hid _).bind fun _ _ => spared_pure trivial

/-- To resolve a class that has no ancestors, no one-to-many collections, and no references to other
classes touches nothing that is remembered for other ids. -/
theorem spared_planCollections (hlinks : h.oneToManyLinks c = []) :
    Spared ids (planCollections h c) fun _ => True := by
  unfold planCollections
  refine (spared_membersOf hid htop hself).bind fun _ _ => ?_
  rw [hlinks]
  refine (spared_pure (R := fun _ => True) trivial).bind fun _ _ => ?_
  refine spared_get.bind fun s _ => ?_
  exact (spared_noteObstacles c _ _ _).bind fun _ _ => spared_pure trivial

end Top

/-- The resolution matches that without the extra class, as far as the other classes go. -/
theorem matches_withClass {d : Diagram} {extra : ClassNode} (ha : d.Apart extra) (i : Nat) :
    Matches (· ≠ extra.id) (Context.resolveAll (Hierarchy.ofDiagram d).value)
      (Context.resolveAll (Hierarchy.ofDiagram (d.withClass i extra)).value) fun _ _ => True := by
  refine matches_resolveAll (ha.sharesReferences i) ha.ids (ha.classes_eq_filter i)
    (ha.sharesLinks i).oneToManyLinks fun c hc hp => ?_
  have hc : c = extra := ha.eq_extra i hc (by simpa using hp)
  have htop := ha.ancestors_extra i
  have hself : ∀ a ∈ extra.attributes, ∀ target,
      (d.withClass i extra).referenceTarget? a = some target → target = extra :=
    fun a hmem _ htarget => ha.referenceTarget_extra i hmem htarget
  have hne : ¬extra.id ≠ extra.id := not_not.2 rfl
  rw [hc]
  exact ⟨spared_planCollections hne htop hself (ha.oneToManyLinks_extra i),
    spared_entityKey hne htop, spared_primaryKey hne htop⟩

end Resolve

/-! ## Artifacts -/

namespace Context

variable {d : Diagram} {extra : ClassNode} (ha : d.Apart extra) (i : Nat) (basePackage : String)
  (queryLimit : Int)
include ha

/-- The contexts agree, and the collections of the other classes come in the same order. -/
theorem agrees_withClass :
    let ctx := (build d basePackage queryLimit).value
    let ctx' := (build (d.withClass i extra) basePackage queryLimit).value
    ctx.Agrees ctx' ∧
      ∀ c ∈ d.classes, (ctx.prediction c).oneToMany = (ctx'.prediction c).oneToMany :=
  agrees_of_matches (ha.sharesLinks i) ha.ids (Resolve.matches_withClass ha i) basePackage
    queryLimit

/-- The entity of the extra class is generated, if columns can be declared for its attributes. -/
theorem entity_extra_succeeds (hdeclarable : ∀ a ∈ extra.attributes, a.Declarable) :
    (entity (build (d.withClass i extra) basePackage queryLimit).value extra).Succeeds := by
  refine entity_build_succeeds basePackage queryLimit fun c hc hid => ?_
  rw [ha.eq_extra i hc hid]
  exact hdeclarable

/-- Without the artifacts of the extra class, those of the context are what they were. -/
theorem filter_owned_withClass (hdeclarable : ∀ a ∈ extra.attributes, a.Declarable) :
    (List.filter fun a => a.owner ≠ some extra.id) <$>
        (build (d.withClass i extra) basePackage queryLimit).value.owned =
      (build d basePackage queryLimit).value.owned := by
  obtain ⟨hagrees, horder⟩ := agrees_withClass ha i basePackage queryLimit
  have hclasses : ((d.withClass i extra).classes.filter fun c => some c.id ≠ some extra.id) =
      d.classes := by simpa using (ha.classes_eq_filter i).symm
  refine hagrees.filter_owned (p := fun owner => owner ≠ some extra.id) (by simp) hclasses horder
    ?_ ?_
  · exact hagrees.joinArtifacts rfl fun t ht a hmem =>
      Diagram.Apart.bind_classByName i (ha.tables t ht a hmem)
  · intro c hc hp
    rw [ha.eq_extra i hc (by simpa using hp), exists_ownedEntity]
    exact entity_extra_succeeds ha i basePackage queryLimit hdeclarable

end Context

/-- The artifacts of the other classes do not change with a class that stands apart and for whose
attributes columns can be declared: without its entity and its other files, the artifacts are those
of the diagram without it. -/
theorem artifacts_apart (d : Diagram) (extra : ClassNode) (i : Nat) (ha : d.Apart extra)
    (hdeclarable : ∀ a ∈ extra.attributes, a.Declarable) (basePackage : String)
    (queryLimit : Int) :
    let ctx := (Context.build d basePackage queryLimit).value
    let ctx' := (Context.build (d.withClass i extra) basePackage queryLimit).value
    (d.generate basePackage queryLimit).run.value =
      List.map OwnedArtifact.artifact <$> ctx.owned ∧
    ((d.withClass i extra).generate basePackage queryLimit).run.value =
      List.map OwnedArtifact.artifact <$> ctx'.owned ∧
    (List.filter fun a => a.owner ≠ some extra.id) <$> ctx'.owned = ctx.owned ∧
    ∀ owned, ctx'.owned = .ok owned →
      ∃ text, (entity ctx' extra).run.value = .ok text ∧
        (owned.filter fun a => a.owner = some extra.id).map OwnedArtifact.artifact =
          ⟨.entities, extra.name, text⟩ ::
            Context.laterGroups.flatMap (ctx'.filesOf extra) := by
  intro ctx ctx'
  refine ⟨?_, ?_, ?_, fun owned howned => ?_⟩
  · rw [fst_run_generate, Context.map_artifact_owned]
  · rw [fst_run_generate, Context.map_artifact_owned]
  · exact Context.filter_owned_withClass ha i basePackage queryLimit hdeclarable
  · exact Context.filter_owned_class (ha.filter_eq_extra i) howned

/-- Two persons share an id and a name, and one of them references a pet. -/
def registry : Diagram where
  classes :=
    [member "1" "Person",
      { id := "1", name := "Person"
        attributes := [{ name := "pet", isForeignKey := true, referencedEntity := some "Pet" }] },
      { id := "2", name := "Pet", attributes := [{ name := "name", sqlType := some "CHAR(9)" }] }]
  relationships :=
    [crossing "owns" "1" "2", { id := "is", source := "2", target := "1", type := inheritanceType }]

/-- A class that references itself only. -/
def stray : ClassNode where
  id := "9"
  name := "Stray"
  attributes :=
    [{ name := "colour", sqlType := some "VARCHAR(12)" },
      { name := "mother", isForeignKey := true, referencedEntity := some "Stray" }]

theorem artifacts_apart_registry :
    ¬registry.DistinctIds ∧ registry.Apart stray ∧
      (∀ a ∈ stray.attributes, a.Declarable) ∧
      let ctx := (Context.build registry "app" 3).value
      let ctx' := (Context.build (registry.withClass 1 stray) "app" 3).value
      (List.filter fun a => a.owner ≠ some "9") <$> ctx'.owned = ctx.owned := by
  have hapart : registry.Apart stray :=
    { ids := by decide
      ends := by decide
      names := by decide
      attributes := by decide
      tables := by decide
      keys := by decide }
  have hdeclarable : ∀ a ∈ stray.attributes, a.Declarable := by decide +kernel
  obtain ⟨-, -, hsame, -⟩ := artifacts_apart registry stray 1 hapart hdeclarable "app" 3
  exact ⟨by decide, hapart, hdeclarable, hsame⟩

/-- A type of texts whose length has some number of digits. -/
def textType (digits : Nat) : String :=
  String.ofList ('C' :: 'H' :: 'A' :: 'R' :: '(' :: (List.replicate digits '1' ++ [')']))

theorem length_lengthDigits_textType (digits : Nat) :
    (Constraint.lengthDigits (textType digits).toList).length = digits := by
  have hdigit : isDigit '1' = true := by decide +kernel
  have hclose : isDigit ')' = false := by decide +kernel
  have htake : (List.replicate digits '1' ++ [')']).takeWhile isDigit =
      List.replicate digits '1' := by
    rw [List.takeWhile_append_of_pos fun c hc => by rw [List.eq_of_mem_replicate hc, hdigit]]
    simp [hclose]
  rw [textType, String.toList_ofList]
  cases digits with
  | zero => simp [Constraint.lengthDigits, hclose]
  | succ n => simp [Constraint.lengthDigits, htake]

/-- A class with a column whose length has one digit more than are read. -/
def wide : ClassNode where
  id := "w"
  name := "Wide"
  attributes := [{ name := "text", sqlType := some (textType 4301) }]

theorem apart_wide : registry.Apart wide where
  ids := by decide
  ends := by decide
  names := by decide
  attributes := by decide
  tables := by decide
  keys := by decide

/-- The entity of the class is not generated. -/
theorem entity_wide_fails :
    ¬(entity (Context.build (registry.withClass 3 wide) "app" 3).value wide).Succeeds := by
  have hmember : ∃ m ∈
      ((Context.build (registry.withClass 3 wide) "app" 3).value.membersOf wide).scalars,
      m.javaType = .string ∧ m.attr.sqlType.isSome = true := by decide +kernel
  obtain ⟨m, hm, htext, hdeclared⟩ := hmember
  have hfrom := (Context.known_build (registry.withClass 3 wide) "app" 3).2 wide
  obtain ⟨c, hc, hid, hmem⟩ := hfrom.columns m hm (.inl hdeclared)
  rw [apart_wide.eq_extra 3 hc hid] at hmem
  have htype : m.attr.sqlType = some (textType 4301) := by rw [List.mem_singleton.1 hmem]
  intro hsucceeds
  refine Entity.scalarField_of_long wide htext ?_ ((entity_succeeds_iff _ _).1 hsucceeds m hm)
  rw [htype, Option.getD_some, length_lengthDigits_textType]
  exact Nat.lt_succ_self maxDigits

/-- A class with a default value that has one digit too many. -/
def heavy : ClassNode where
  id := "h"
  name := "Heavy"
  attributes := [{ name := "weight", defaultValue := some (.int Json.overlong) }]

theorem apart_heavy : registry.Apart heavy where
  ids := by decide
  ends := by decide
  names := by decide
  attributes := by decide
  tables := by decide
  keys := by decide

/-- The entity of the class is not generated. -/
theorem entity_heavy_fails :
    ¬(entity (Context.build (registry.withClass 3 heavy) "app" 3).value heavy).Succeeds := by
  have hmember : ∃ m ∈
      ((Context.build (registry.withClass 3 heavy) "app" 3).value.membersOf heavy).scalars,
      Entity.hasShowableDefault m = false := by decide +kernel
  obtain ⟨m, hm, hdefault⟩ := hmember
  intro hsucceeds
  exact Entity.scalarField_of_unshowable heavy hdefault ((entity_succeeds_iff _ _).1 hsucceeds m hm)

/-- A class that stands apart prevents the generation of all artifacts, if the length of one of its
columns cannot be read, and if one of its default values cannot be shown. -/
theorem not_artifacts_apart_wide :
    registry.Apart wide ∧ registry.Apart heavy ∧
      (∃ artifacts, (registry.generate "app" 3).run.value = .ok artifacts) ∧
      (∃ e, ((registry.withClass 3 wide).generate "app" 3).run.value = .error e) ∧
      ∃ e, ((registry.withClass 3 heavy).generate "app" 3).run.value = .error e := by
  have hdeclarable : ∀ c ∈ registry.classes, ∀ a ∈ c.attributes, a.Declarable := by
    decide +kernel
  have hfails : ∀ extra, ¬(entity (Context.build (registry.withClass 3 extra) "app" 3).value
      extra).Succeeds →
      ∃ e, ((registry.withClass 3 extra).generate "app" 3).run.value = .error e := by
    intro extra hentity
    rw [← Generation.not_succeeds_iff, Diagram.generate_succeeds_iff]
    exact fun hsucceeds => hentity (hsucceeds extra (Diagram.mem_withClass.2 (.inl rfl)))
  exact ⟨apart_wide, apart_heavy, Diagram.generate_succeeds "app" 3 hdeclarable,
    hfails wide entity_wide_fails, hfails heavy entity_heavy_fails⟩

end Scaffold
