import Scaffold.Proofs.Prediction

/-!
# What is looked up is known

Nothing is assumed of the diagram here: ids and names may repeat, and edges and references may lead
nowhere. Then the members that are remembered for an id need not be those of the class that asks for
them. But after the resolution of all classes there are members and keys for each of them, and all
members that are remembered come from classes with their id and lead to classes of the diagram
(`Resolution.Closed`), so that what is looked up for the class at the end of a reference is there
too.

Main statement: `known_build`.
-/

namespace Scaffold

open Naming

/-- Members that a class with an id can have: references lead to classes of a list, and columns with
a declared type or a default value are attributes of such a class. -/
structure Members.From (classes : List ClassNode) (id : String) (m : Members) : Prop where
  /-- References lead to classes. -/
  targets : ∀ r ∈ m.references, r.target ∈ classes
  /-- Columns with a declared type or a default value are attributes. -/
  columns : ∀ s ∈ m.scalars, s.attr.sqlType.isSome ∨ s.attr.defaultValue.isSome →
    ∃ c ∈ classes, c.id = id ∧ s.attr ∈ c.attributes

theorem Members.from_empty (classes : List ClassNode) (id : String) : From classes id {} where
  targets := by simp
  columns := by simp

/-- All members that are remembered come from classes of a list with their id. -/
def Resolution.Closed (classes : List ClassNode) (s : Resolution) : Prop :=
  ∀ id m, s.members.lookup id = some m → m.From classes id

instance (classes : List ClassNode) :
    Resolution.IgnoresNotes (Resolution.Closed classes) where
  with_notes _ _ hs := hs

theorem Resolution.closed_empty (classes : List ClassNode) : Closed classes {} := by
  simp [Closed]

/-- A table with closed members gives a class closed members. -/
theorem Resolution.Closed.inTable {classes : List ClassNode} {s : Resolution}
    (hs : s.Closed classes) (c : ClassNode) :
    (Members.inTable s.members c).From classes c.id := by
  unfold Members.inTable
  cases hlookup : s.members.lookup c.id with
  | none => exact Members.from_empty classes c.id
  | some m => exact hs c.id m hlookup

namespace Resolve

variable {h : Hierarchy} {classes : List ClassNode}

/-- A key is known as soon as it is remembered. -/
theorem meets_rememberKey_known (c : ClassNode) (key : PrimaryKey) {P : Resolution → Prop} :
    Meets (Resolution.Closed classes) P (rememberKey c.id key) fun _ s => s.KnowsKey c := by
  intro s hs _
  refine ⟨hs, ⟨fun a ha => ?_, fun _ ha => ha⟩, ?_⟩
  · by_cases hid : a.id = c.id
    · exact Option.isSome_iff_exists.2 ⟨key, hid ▸ List.lookup_cons_self⟩
    · exact (congrArg Option.isSome (Resolution.lookup_cons_of_ne hid)).trans ha
  · exact Option.isSome_iff_exists.2 ⟨key, List.lookup_cons_self⟩

theorem meets_keyAlong_known (path : List ClassNode) {P : Resolution → Prop} :
    Meets (Resolution.Closed classes) P (keyAlong path)
      fun _ s => ∀ c ∈ path.head?, s.KnowsKey c := by
  induction path generalizing P with
  | nil => exact meets_pure fun _ _ _ => by simp
  | cons c rest ih =>
    have hremember : ∀ key, Meets (Resolution.Closed classes) (fun _ => True)
        (do rememberKey c.id key; return key) fun _ s => ∀ a ∈ (c :: rest).head?, s.KnowsKey a :=
      fun key => (meets_rememberKey_known c key).bind fun _ =>
        meets_pure fun _ _ hknown => by simpa using hknown
    rw [keyAlong]
    refine meets_get.bind fun s => ?_
    cases hlookup : s.keys.lookup c.id with
    | some key =>
      refine meets_pure fun s' _ hP => ?_
      obtain ⟨rfl, -⟩ := hP
      rintro a ⟨⟩
      exact Option.isSome_iff_exists.2 ⟨key, hlookup⟩
    | none =>
      cases hown : c.ownKey? with
      | some key => exact (meets_pure fun _ _ _ => trivial).bind hremember
      | none => exact (ih.mono fun _ _ _ _ => trivial).bind hremember

theorem meets_primaryKey_known (c : ClassNode) {P : Resolution → Prop} :
    Meets (Resolution.Closed classes) P (primaryKey h c) fun _ s => s.KnowsKey c :=
  (meets_keyAlong_known (c :: h.ancestors c)).mono fun _ _ _ hknown => hknown c rfl

/-- A class starts without references, and with a made-up column at most. -/
theorem startMembers_from (c : ClassNode) : (h.startMembers c).From classes c.id := by
  unfold Hierarchy.startMembers
  split
  · exact { targets := by simp, columns := by simp }
  · exact Members.from_empty classes c.id

/-- One more attribute adds itself as a column, or a reference to a class of the diagram, or
nothing. -/
theorem meets_addAttribute_from {c : ClassNode} (hc : c ∈ h.diagram.classes) (m : Members)
    {a : Attribute} (ha : a ∈ c.attributes) :
    Meets (Resolution.Closed classes) (fun _ => m.From h.diagram.classes c.id)
      (addAttribute h c m a) fun m' _ => m'.From h.diagram.classes c.id := by
  refine meets_of_fact fun hm => ?_
  have hplace : ∀ field, Meets (Resolution.Closed classes) (fun _ => True)
      (placeAttribute h c m a field) fun m' _ => m'.From h.diagram.classes c.id := by
    intro field
    unfold placeAttribute
    split
    · exact (meets_note _ _ _).bind fun _ => meets_pure fun _ _ _ => hm
    · cases htarget : h.diagram.referenceTarget? a with
      | none =>
        refine meets_pure fun _ _ _ => { targets := hm.targets, columns := ?_ }
        intro s hs hdeclared
        rcases List.mem_append.1 hs with hs | hs
        · exact hm.columns s hs hdeclared
        · rw [List.mem_singleton.1 hs]
          exact ⟨c, hc, rfl, ha⟩
      | some target =>
        have htarget := Hierarchy.mem_classes_of_referenceTarget htarget
        refine (meets_primaryKey_known (h.root target)).bind fun key => meets_pure fun _ _ _ => ?_
        refine { targets := ?_, columns := hm.columns }
        intro r hr
        rcases List.mem_append.1 hr with hr | hr
        · exact hm.targets r hr
        · rw [List.mem_singleton.1 hr]
          exact htarget
  unfold addAttribute
  split
  · exact meets_pure fun _ _ _ => hm
  · split
    · exact (((meets_primaryKey_known c).map _ fun _ _ _ => trivial).bind hplace)
    · exact (meets_pure fun _ _ _ => trivial).bind hplace

/-- A loop keeps what each step keeps of its result. -/
theorem meets_foldlM_keeps {α β : Type} {I : Resolution → Prop} {f : β → α → Resolve β}
    {K : β → Prop} {l : List α} {b : β}
    (hf : ∀ b, ∀ a ∈ l, Meets I (fun _ => K b) (f b a) fun b' _ => K b') :
    Meets I (fun _ => K b) (l.foldlM f b) fun b' _ => K b' := by
  induction l generalizing b with
  | nil => exact meets_pure fun _ _ hb => hb
  | cons a rest ih =>
    rw [List.foldlM_cons]
    exact (hf b a List.mem_cons_self).bind fun b' =>
      ih fun b a' ha' => hf b a' (List.mem_cons_of_mem a ha')

/-- Members that a class can have may be remembered. -/
theorem meets_rememberMembers_known {c : ClassNode} {m : Members} (hm : m.From classes c.id)
    {P : Resolution → Prop} :
    Meets (Resolution.Closed classes) P (rememberMembers c.id m) fun _ s => s.KnowsMembers c := by
  intro s hs _
  refine ⟨fun id m' hm' => ?_, ⟨fun _ ha => ha, fun a ha => ?_⟩, ?_⟩
  · by_cases hid : id = c.id
    · subst hid
      obtain rfl := Option.some.inj (List.lookup_cons_self.symm.trans hm')
      exact hm
    · exact hs id m' ((Resolution.lookup_cons_of_ne hid).symm.trans hm')
  · by_cases hid : a.id = c.id
    · exact Option.isSome_iff_exists.2 ⟨m, hid ▸ List.lookup_cons_self⟩
    · exact (congrArg Option.isSome (Resolution.lookup_cons_of_ne hid)).trans ha
  · exact Option.isSome_iff_exists.2 ⟨m, List.lookup_cons_self⟩

/-- Settling the references of a class does not change where they lead. -/
theorem meets_settle_known {c : ClassNode} (ancestors : List ClassNode) {own : Members}
    (hown : own.From classes c.id) {P : Resolution → Prop} :
    Meets (Resolution.Closed classes) P (settle c ancestors own)
      fun _ s => s.KnowsMembers c := by
  refine meets_get.bind fun known => ?_
  have hreferences : Meets (Resolution.Closed classes)
      (fun s => known = s ∧ P s)
      (noted (settleReferences c own.fields (own.scalars.map (·.fieldName) ++
        ancestors.flatMap fun a => (Members.inTable known.members a).dtoFields) own.references))
      fun references _ => ({ own with references := references } : Members).From classes c.id := by
    refine meets_noted _ fun _ _ _ _ _ => { targets := ?_, columns := hown.columns }
    intro r hr
    obtain ⟨r₀, hr₀, taken, rfl⟩ := exists_settledIn _ _ _ hr
    exact hown.targets r₀ hr₀
  refine hreferences.bind fun references => meets_of_fact fun hsettled => ?_
  exact (meets_rememberMembers_known hsettled).bind fun _ =>
    meets_pure fun _ _ hknown => hknown

theorem meets_membersAlong_known {path : List ClassNode} (hpath : path ⊆ h.diagram.classes)
    {P : Resolution → Prop} :
    Meets (Resolution.Closed h.diagram.classes) P (membersAlong h path)
      fun _ s => ∀ c ∈ path.head?, s.KnowsMembers c := by
  induction path generalizing P with
  | nil => exact meets_pure fun _ _ _ => by simp
  | cons c rest ih =>
    obtain ⟨hc, hrest⟩ := List.cons_subset.1 hpath
    rw [membersAlong]
    refine meets_get.bind fun s => ?_
    cases hlookup : s.members.lookup c.id with
    | some m =>
      refine meets_pure fun s' _ hP => ?_
      obtain ⟨rfl, -⟩ := hP
      rintro a ⟨⟩
      exact Option.isSome_iff_exists.2 ⟨m, hlookup⟩
    | none =>
      have hown := meets_foldlM_keeps (b := h.startMembers c) (l := c.attributes)
        (K := fun m => m.From h.diagram.classes c.id) (I := Resolution.Closed h.diagram.classes)
        fun m a ha => meets_addAttribute_from hc m ha
      refine (hown.pre fun _ _ => startMembers_from c).bind fun own => meets_of_fact fun hown => ?_
      refine (ih hrest).bind fun _ => (meets_settle_known rest hown).mono fun _ _ _ hknown => ?_
      simpa using hknown

theorem meets_membersOf_known (hh : h.WellFormed) {c : ClassNode} (hc : c ∈ h.diagram.classes)
    {P : Resolution → Prop} :
    Meets (Resolution.Closed h.diagram.classes) P (membersOf h c) fun _ s => s.KnowsMembers c := by
  have hpath : c :: h.ancestors c ⊆ h.diagram.classes :=
    List.cons_subset.2 ⟨hc, fun _ ha => hh.mem_classes ha⟩
  exact (meets_membersAlong_known hpath).mono fun _ _ _ hknown => hknown c rfl

/-- All members and keys of all classes get known, whatever the diagram. -/
theorem meets_resolveAll_known (hh : h.WellFormed) :
    Meets (Resolution.Closed h.diagram.classes) (fun _ => True) (Context.resolveAll h) fun _ s =>
      ∀ c ∈ h.diagram.classes, s.KnowsMembers c ∧ s.KnowsKey c ∧ s.KnowsKey (h.root c) :=
  meets_resolveAll (fun _ hc => meets_membersOf_known hh hc) hh fun c _ =>
    meets_primaryKey_known c

end Resolve

namespace Context

variable (d : Diagram) (basePackage : String) (queryLimit : Int)

/-- A built context knows the members of every class, its key and that of its entity, and all
members come from classes with their id. -/
theorem known_build :
    let ctx := (build d basePackage queryLimit).value
    (∀ c ∈ d.classes, (ctx.members.lookup c.id).isSome ∧ (ctx.keys.lookup c.id).isSome ∧
      (ctx.keys.lookup (ctx.hierarchy.root c).id).isSome) ∧
    ∀ c, (ctx.membersOf c).From d.classes c.id := by
  intro ctx
  obtain ⟨hclosed, -, hknown⟩ :=
    Resolve.meets_resolveAll_known (Hierarchy.wellFormed_ofDiagram d) {}
      (Resolution.closed_empty _) trivial
  exact ⟨hknown, fun c => hclosed.inTable c⟩

end Context

end Scaffold
