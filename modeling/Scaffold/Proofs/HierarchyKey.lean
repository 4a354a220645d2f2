import Scaffold.Proofs.KeyMarks

/-!
# The key member of a chain

The classes of a chain share one key, which only the class at the top can declare: all others leave
their primary keys out. At the top the first attribute that asks for the field of the key gets it
(`Hierarchy.keyAttribute?`), so at most one member is a primary key (`keys_top`). There is none if
the primary keys only stand for edges or if a column in front of them takes the field, and it has
another type than the key if the first primary key is left out and another one gets the field.
`Hierarchy.DeclaresKey` says that nothing of this is the case. `ledger` has a class for each of the
ways in which it can be.

Main statement: `key_declared_iff`.
-/

namespace Scaffold

open Naming Java

namespace Hierarchy

variable {h : Hierarchy} {c : ClassNode}

/-! ## The attribute that gets the field of the key -/

/-- Whether an attribute of a class asks for the field of the key. -/
def asksForKey (h : Hierarchy) (c : ClassNode) (a : Attribute) : Bool :=
  !h.leavesOut c a && h.memberField c a = (h.keyOf c).fieldName

/-- The attribute of a class that gets the field of the key, which is the first that asks for it. -/
def keyAttribute? (h : Hierarchy) (c : ClassNode) : Option Attribute :=
  c.attributes.find? (h.asksForKey c)

theorem javaType_scalarOf (a : Attribute) :
    (h.scalarOf c a).javaType = JavaType.ofDeclared a.type := by
  rw [scalarOf]

/-- A primary key asks for the field of the key, unless it is left out. -/
theorem leavesOut_of_not_asks {a : Attribute} (hkey : a.isPrimaryKey = true)
    (hask : h.asksForKey c a = false) : h.leavesOut c a = true := by
  simpa [asksForKey, memberField, hkey] using hask

/-- Once the field of the key is taken, no attribute adds a primary key. -/
theorem keys_addMember_of_taken {m : Members} (htaken : (h.keyOf c).fieldName ∈ m.fields)
    (a : Attribute) : (h.addMember c m a).value.keys = m.keys := by
  rcases addMember_cases (h := h) c m a with ⟨hsame, -⟩ | ⟨-, target, -, hsome⟩ | ⟨hfree, -, hnone⟩
  · rw [hsame]
  · rw [hsome]
    rfl
  · have hkey : a.isPrimaryKey = false := by
      refine Bool.eq_false_iff.2 fun hkey => hfree ?_
      rw [memberField, if_pos hkey]
      exact htaken
    rw [hnone]
    simp [Members.keys, ScalarMember.isPrimaryKey, scalarOf, hkey]

theorem keys_addAll_of_taken {m : Members} (htaken : (h.keyOf c).fieldName ∈ m.fields)
    (l : List Attribute) : (h.addAll c m l).keys = m.keys := by
  induction l generalizing m with
  | nil => rfl
  | cons a rest ih =>
    have hstill : (h.keyOf c).fieldName ∈ (h.addMember c m a).value.fields :=
      fields_subset_foldl c m [a] htaken
    exact (ih hstill).trans (keys_addMember_of_taken htaken a)

/-- An attribute that asks for the free field of the key gets it, and is a new primary key if it is
one. -/
theorem addMember_of_asks {m : Members} {a : Attribute} (hask : h.asksForKey c a = true)
    (hfree : (h.keyOf c).fieldName ∉ m.fields) :
    (h.keyOf c).fieldName ∈ (h.addMember c m a).value.fields ∧
      (h.addMember c m a).value.keys =
        m.keys ++ if a.isPrimaryKey then [h.scalarOf c a] else [] := by
  obtain ⟨hin, hfield⟩ : h.leavesOut c a = false ∧ h.memberField c a = (h.keyOf c).fieldName := by
    simpa [asksForKey] using hask
  rcases addMember_cases (h := h) c m a with ⟨-, hwhy⟩ | ⟨-, target, htarget, hsome⟩ | ⟨-, -, hnone⟩
  · rcases hwhy with hout | htaken
    · rw [hin] at hout
      cases hout
    · exact absurd (hfield ▸ htaken) hfree
  · have hkey : a.isPrimaryKey = false := by
      refine Bool.eq_false_iff.2 fun hkey => ?_
      simp [Diagram.referenceTarget?, hkey] at htarget
    rw [hsome, ← hfield]
    simp [Members.fields, Members.keys, referenceOf, hkey]
  · rw [hnone, ← hfield]
    cases hkey : a.isPrimaryKey <;>
      simp [Members.fields, Members.keys, ScalarMember.isPrimaryKey, scalarOf, hkey]

/-- An attribute that does not ask for the field of the key leaves it free and adds no primary
key. -/
theorem addMember_of_not_asks {m : Members} {a : Attribute} (hask : h.asksForKey c a = false)
    (hfree : (h.keyOf c).fieldName ∉ m.fields) :
    (h.keyOf c).fieldName ∉ (h.addMember c m a).value.fields ∧
      (h.addMember c m a).value.keys = m.keys := by
  by_cases hout : h.leavesOut c a = true
  · rw [addMember_of_leavesOut hout]
    exact ⟨hfree, rfl⟩
  have hfield : h.memberField c a ≠ (h.keyOf c).fieldName := by
    simpa [asksForKey, hout] using hask
  have hkey : a.isPrimaryKey = false :=
    Bool.eq_false_iff.2 fun hkey => hout (leavesOut_of_not_asks hkey hask)
  constructor
  · rcases fields_addMember (h := h) c m a with ⟨hsame, -⟩ | ⟨-, hperm⟩
    · rw [hsame]
      exact hfree
    · rw [hperm.mem_iff, List.mem_cons, not_or]
      exact ⟨hfield.symm, hfree⟩
  · rcases addMember_cases (h := h) c m a with ⟨hsame, -⟩ | ⟨-, target, -, hsome⟩ | ⟨-, -, hnone⟩
    · rw [hsame]
    · rw [hsome]
      rfl
    · rw [hnone]
      simp [Members.keys, ScalarMember.isPrimaryKey, scalarOf, hkey]

/-- While the field of the key is free, some attributes add one primary key at most: the first of
them that asks for the field. -/
theorem keys_addAll {m : Members} (hfree : (h.keyOf c).fieldName ∉ m.fields)
    (l : List Attribute) :
    (h.addAll c m l).keys =
      m.keys ++ (((l.find? (h.asksForKey c)).filter (·.isPrimaryKey)).toList.map
        (h.scalarOf c)) := by
  induction l generalizing m with
  | nil => simp [addAll]
  | cons a rest ih =>
    have hstep : h.addAll c m (a :: rest) = h.addAll c (h.addMember c m a).value rest := rfl
    rw [hstep, List.find?_cons]
    cases hask : h.asksForKey c a with
    | true =>
      obtain ⟨htaken, hkeys⟩ := addMember_of_asks hask hfree
      rw [keys_addAll_of_taken htaken, hkeys]
      cases hkey : a.isPrimaryKey <;> simp [Option.filter, hkey]
    | false =>
      obtain ⟨hfree, hkeys⟩ := addMember_of_not_asks hask hfree
      rw [ih hfree, hkeys]

/-! ## The primary keys of a class -/

theorem keys_membersOf (c : ClassNode) :
    (h.membersOf c).keys = (h.addAll c (h.startMembers c) c.attributes).keys := by
  have hscalars : (h.membersOf c).scalars =
      (h.addAll c (h.startMembers c) c.attributes).scalars := by
    rw [addAll, ← value_ownMembers]
    rfl
  rw [Members.keys, hscalars, Members.keys]

/-- A class with a parent has no primary key of its own. -/
theorem keys_child (hp : (h.parentOf c).isSome) : (h.membersOf c).keys = [] := by
  obtain ⟨p, hp⟩ := Option.isSome_iff_exists.1 hp
  have hstart : h.startMembers c = {} := if_neg (by simp [hp])
  rw [keys_membersOf, hstart, keys_addAll (by simp [Members.fields])]
  cases hfirst : c.attributes.find? (h.asksForKey c) with
  | none => rfl
  | some a =>
    -- What asks for the field is not left out, but a child leaves out every primary key.
    have hkey : a.isPrimaryKey = false := by
      refine Bool.eq_false_iff.2 fun hkey => ?_
      have hask := List.find?_some hfirst
      simp [asksForKey, leavesOut, hp, hkey] at hask
    simp [Option.filter, hkey, Members.keys]

/-- A class at the top has a made-up key, or the attribute that gets the field of the key if it is a
primary key. -/
theorem WellFormed.keys_top (hh : h.WellFormed) (hp : h.parentOf c = none) :
    (h.membersOf c).keys =
      if c.primaryKeys = [] then (h.startMembers c).scalars
      else ((h.keyAttribute? c).filter (·.isPrimaryKey)).toList.map (h.scalarOf c) := by
  rw [keys_membersOf]
  split
  · next hnone =>
    have hkey := hh.keyOf_of_top (ownKey_eq_none_iff.2 hnone) hp
    have hstart : h.startMembers c = _ := if_pos ⟨by simp [hp], hnone⟩
    have htaken : (h.keyOf c).fieldName ∈ (h.startMembers c).fields := by
      rw [hstart, hkey]
      decide
    rw [keys_addAll_of_taken htaken, hstart]
    rfl
  · next hsome =>
    have hstart : h.startMembers c = {} := if_neg fun hnone => hsome hnone.2
    rw [hstart, keys_addAll (by simp [Members.fields])]
    rfl

/-- A class at the top has the key that it is known by: one that is made up, or a primary key that
gets the field and has the type of the first primary key. -/
def DeclaresKey (h : Hierarchy) (c : ClassNode) : Prop :=
  c.primaryKeys = [] ∨ ∃ a ∈ h.keyAttribute? c,
    a.isPrimaryKey = true ∧ JavaType.ofDeclared a.type = (h.keyOf c).javaType

instance (h : Hierarchy) (c : ClassNode) : Decidable (h.DeclaresKey c) :=
  inferInstanceAs (Decidable (_ ∨ _))

/-- A class at the top has at most one primary key, and it is under the field of the key. -/
theorem WellFormed.keys_top_sound (hh : h.WellFormed) (hp : h.parentOf c = none) :
    (h.membersOf c).keys.length ≤ 1 ∧
      ∀ s ∈ (h.membersOf c).keys, s.fieldName = (h.keyOf c).fieldName := by
  rw [hh.keys_top hp]
  split
  · next hnone =>
    have hstart : h.startMembers c = _ := if_pos ⟨by simp [hp], hnone⟩
    rw [hstart, hh.keyOf_of_top (ownKey_eq_none_iff.2 hnone) hp]
    exact ⟨Nat.le_refl 1, by decide⟩
  · cases hfirst : (h.keyAttribute? c).filter (·.isPrimaryKey) with
    | none => simp
    | some a =>
      obtain ⟨-, hkey⟩ := Option.filter_eq_some_iff.1 hfirst
      simp [scalarOf, memberField, hkey]

/-- The primary key of a class at the top is the key that the class is known by exactly if the class
declares it. -/
theorem WellFormed.declaresKey_iff (hh : h.WellFormed) (hp : h.parentOf c = none) :
    h.DeclaresKey c ↔
      ∃ s, (h.membersOf c).keys = [s] ∧ s.fieldName = (h.keyOf c).fieldName ∧
        s.javaType = (h.keyOf c).javaType := by
  rw [hh.keys_top hp]
  split
  · next hnone =>
    have hstart : h.startMembers c = _ := if_pos ⟨by simp [hp], hnone⟩
    rw [hstart, hh.keyOf_of_top (ownKey_eq_none_iff.2 hnone) hp]
    exact iff_of_true (.inl hnone) ⟨_, rfl, by decide, rfl⟩
  · next hsome =>
    rw [DeclaresKey, or_iff_right hsome]
    constructor
    · rintro ⟨a, ha, hkey, htype⟩
      have hmember : ((h.keyAttribute? c).filter (·.isPrimaryKey)).toList.map (h.scalarOf c) =
          [h.scalarOf c a] := by
        rw [Option.mem_def.1 ha]
        simp [Option.filter, hkey]
      refine ⟨h.scalarOf c a, hmember, if_pos hkey, ?_⟩
      rw [javaType_scalarOf, htype]
    · rintro ⟨s, hs, -, htype⟩
      cases hfirst : (h.keyAttribute? c).filter (·.isPrimaryKey) with
      | none =>
        rw [hfirst] at hs
        cases hs
      | some a =>
        obtain ⟨ha, hkey⟩ := Option.filter_eq_some_iff.1 hfirst
        rw [hfirst] at hs
        obtain rfl : h.scalarOf c a = s := by simpa using hs
        rw [javaType_scalarOf] at htype
        exact ⟨a, ha, hkey, htype⟩

/-! ## Chains -/

/-- What only classes without a parent have, a chain has from its top. -/
theorem Ascends.flatMap_chain {β : Type} {f : ClassNode → List β}
    (hf : ∀ p, (h.parentOf p).isSome → f p = []) {path : List ClassNode}
    (hpath : h.Ascends c path) :
    (path.reverse ++ [c]).flatMap f = f (path.getLast?.getD c) := by
  induction hpath with
  | top => simp
  | @step c p path hp _ ih =>
    have hnone : f c = [] := hf c (by simp [hp])
    rw [List.reverse_cons, List.flatMap_append, ih, List.flatMap_singleton, hnone, List.append_nil,
      List.getLast?_cons, Option.getD_some]

theorem WellFormed.flatMap_chain (hh : h.WellFormed) {β : Type} {f : ClassNode → List β}
    (hf : ∀ p, (h.parentOf p).isSome → f p = []) (c : ClassNode) :
    (h.chain c).flatMap f = f (h.root c) :=
  (hh.ascends_ancestors c).flatMap_chain hf

end Hierarchy

/-! ## The keys of a chain -/

/-- The primary keys of the classes of a chain, each with its class. -/
def Context.chainKeys (ctx : Context) (c : ClassNode) : List (ClassNode × ScalarMember) :=
  (ctx.hierarchy.chain c).flatMap fun p => (ctx.membersOf p).keys.map (Prod.mk p)

/-- In a built context, the primary keys of a chain are those of the class at its top. -/
theorem Context.chainKeys_build {d : Diagram} (hd : d.DistinctIds) (basePackage : String)
    (queryLimit : Int) {c : ClassNode} (hc : c ∈ d.classes) :
    let ctx := (build d basePackage queryLimit).value
    ctx.chainKeys c =
      (ctx.hierarchy.membersOf (ctx.hierarchy.root c)).keys.map
        (Prod.mk (ctx.hierarchy.root c)) := by
  intro ctx
  have hh : ctx.hierarchy.WellFormed := Hierarchy.wellFormed_ofDiagram d
  have hmembers : ctx.chainKeys c = (ctx.hierarchy.chain c).flatMap fun p =>
      (ctx.hierarchy.membersOf p).keys.map (Prod.mk p) := by
    refine List.flatMap_congr fun p hp => ?_
    rw [membersOf_build hd basePackage queryLimit (hh.mem_classes_of_mem_chain hc hp)]
    rfl
  rw [hmembers, hh.flatMap_chain fun p hp => ?_]
  rw [Hierarchy.keys_child hp, List.map_nil]

/-- In a context that is built from a diagram without repeated ids, at most one member along a chain
is a primary key. It belongs to the class at the top and is under the field of the key that the
entity exposes, and the files of the chain have no other marks of a primary key. There is such a
member, and of the type of the key, exactly if the class at the top declares its key. -/
theorem key_declared_iff (d : Diagram) (hd : d.DistinctIds) (basePackage : String)
    (queryLimit : Int) (c : ClassNode) (hc : c ∈ d.classes) :
    let ctx := (Context.build d basePackage queryLimit).value
    let root := ctx.hierarchy.root c
    ((∃ s, ctx.chainKeys c = [(root, s)] ∧ s.fieldName = (ctx.entityKey c).fieldName ∧
        s.javaType = (ctx.entityKey c).javaType) ↔ ctx.hierarchy.DeclaresKey root) ∧
    (ctx.chainKeys c).length ≤ 1 ∧
    (∀ k ∈ ctx.chainKeys c, k.1 = root ∧ k.2.fieldName = (ctx.entityKey c).fieldName) ∧
    ∀ p ∈ ctx.hierarchy.chain c, ∀ f, (Entity.file ctx p).run.value = .ok f →
      f.body.count (indent 1 "@Id") = (ctx.membersOf p).keys.length := by
  intro ctx root
  have hh : ctx.hierarchy.WellFormed := Hierarchy.wellFormed_ofDiagram d
  have htop := hh.parentOf_root c
  have hkey : ctx.entityKey c = ctx.hierarchy.keyOf root :=
    Context.entityKey_build hd basePackage queryLimit hc
  have hkeys : ctx.chainKeys c = (ctx.hierarchy.membersOf root).keys.map (Prod.mk root) :=
    Context.chainKeys_build hd basePackage queryLimit hc
  obtain ⟨hone, hfields⟩ := hh.keys_top_sound htop
  refine ⟨?_, ?_, fun k hk => ?_, fun p _ f hf => Entity.count_id_file hf⟩
  · rw [hh.declaresKey_iff htop, hkey, hkeys]
    refine exists_congr fun s => and_congr_left fun _ => ?_
    constructor
    · intro hs
      obtain ⟨s', hs', heq⟩ := List.map_eq_singleton_iff.1 hs
      rw [hs', (Prod.mk.inj heq).2]
    · intro hs
      rw [hs, List.map_singleton]
  · rw [hkeys, List.length_map]
    exact hone
  · rw [hkeys] at hk
    obtain ⟨s, hs, rfl⟩ := List.mem_map.1 hk
    rw [hkey]
    exact ⟨rfl, hfields s hs⟩

/-- Accounts have a key under the name of what it references, behind a column, and a second primary
key that asks for the same field. -/
def account : ClassNode where
  id := "1"
  name := "Account"
  attributes :=
    [{ name := "opened", type := "Date" },
      { name := "bank_ref", type := "Long", isPrimaryKey := true, isForeignKey := true
        referencedField := some "account_number" },
      { name := "branch", isPrimaryKey := true }]

/-- Savings accounts are accounts and declare a key that their entity does not have. -/
def savings : ClassNode where
  id := "2"
  name := "Savings"
  attributes := [{ name := "contract", isPrimaryKey := true }]

/-- Accounts and savings accounts. -/
def bank : Diagram where
  classes := [account, savings]
  relationships := [parentEdge "1" "2"]

theorem key_declared_bank :
    bank.DistinctIds ∧ savings ∈ bank.classes ∧
      let ctx := (Context.build bank "app" 3).value
      ctx.hierarchy.root savings = account ∧ ctx.hierarchy.DeclaresKey account ∧
        ctx.entityKey savings = ⟨"account_number", .long, false⟩ ∧
        ∃ s, ctx.chainKeys savings = [(account, s)] ∧ s.fieldName = "accountNumber" ∧
          s.javaType = .long := by
  have hd : bank.DistinctIds := by
    unfold Diagram.DistinctIds
    decide
  have hc : savings ∈ bank.classes := by decide
  have hdeclares : (Hierarchy.ofDiagram bank).value.DeclaresKey account := by decide +kernel
  have hkey : (Context.build bank "app" 3).value.entityKey savings =
      ⟨"account_number", .long, false⟩ := by
    decide +kernel
  obtain ⟨hiff, -⟩ := key_declared_iff bank hd "app" 3 savings hc
  obtain ⟨s, hs, hfield, htype⟩ := hiff.2 hdeclares
  rw [hkey] at hfield htype
  exact ⟨hd, hc, rfl, hdeclares, hkey, s, hs, hfield, htype⟩

/-! ## Keys that are not declared -/

/-- In front of the key of an entry stands a column that asks for the same field. -/
def entry : ClassNode where
  id := "1"
  name := "Entry"
  attributes := [{ name := "entry_id" }, { name := "entryId", type := "Long", isPrimaryKey := true }]

/-- The key of a posting only stands for an edge. -/
def posting : ClassNode where
  id := "2"
  name := "Posting"
  attributes :=
    [{ name := "id", type := "Long", isPrimaryKey := true, isRelationshipAttribute := true }]

/-- The first key of a transfer only stands for an edge, and the second is of another type. -/
def transfer : ClassNode where
  id := "3"
  name := "Transfer"
  attributes :=
    [{ name := "number", type := "Long", isPrimaryKey := true, isRelationshipAttribute := true },
      { name := "code", isPrimaryKey := true }]

/-- Entries, postings and transfers. -/
def ledger : Diagram where
  classes := [entry, posting, transfer]

/-- Entries and postings have no primary key, and that of transfers has another type than the key
that they are known by. -/
theorem not_declared_ledger :
    ledger.DistinctIds ∧
      let ctx := (Context.build ledger "app" 3).value
      ctx.chainKeys entry = [] ∧ ctx.chainKeys posting = [] ∧
        (ctx.chainKeys transfer).map (fun k => (k.1, k.2.fieldName, k.2.javaType)) =
          [(transfer, "number", .string)] ∧
        ctx.entityKey transfer = ⟨"number", .long, false⟩ ∧
        ∀ c ∈ ledger.classes, ¬∃ s, ctx.chainKeys c = [(ctx.hierarchy.root c, s)] ∧
          s.fieldName = (ctx.entityKey c).fieldName ∧
          s.javaType = (ctx.entityKey c).javaType := by
  have hd : ledger.DistinctIds := by
    unfold Diagram.DistinctIds
    decide
  have hentry : (Context.build ledger "app" 3).value.chainKeys entry = [] := by decide +kernel
  have hposting : (Context.build ledger "app" 3).value.chainKeys posting = [] := by decide +kernel
  have htransfer : ((Context.build ledger "app" 3).value.chainKeys transfer).map
      (fun k => (k.1, k.2.fieldName, k.2.javaType)) = [(transfer, "number", .string)] := by
    decide +kernel
  have hkey : (Context.build ledger "app" 3).value.entityKey transfer =
      ⟨"number", .long, false⟩ := by
    decide +kernel
  refine ⟨hd, hentry, hposting, htransfer, hkey, fun c hc => ?_⟩
  rintro ⟨s, hs, -, htype⟩
  have hcases : c = entry ∨ c = posting ∨ c = transfer := by simpa [ledger] using hc
  rcases hcases with rfl | rfl | rfl
  · rw [hentry] at hs
    cases hs
  · rw [hposting] at hs
    cases hs
  · have hstring : s.javaType = .string := by
      rw [hs, List.map_singleton, List.singleton_inj] at htransfer
      exact congrArg (·.2.2) htransfer
    rw [hstring, hkey] at htype
    cases htype

end Scaffold
