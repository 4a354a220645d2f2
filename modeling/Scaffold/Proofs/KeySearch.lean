import Mathlib.Logic.Relation
import Scaffold.Proofs.Resolution

/-!
# The search for keys

The key of a class is found by a recursion that goes from the class to its parent, and so on, and
that remembers a key for every class on its way. `Hierarchy.Recalls` is a run of this recursion,
without a bound on its depth; as the parents make a forest, it always ends
(`Hierarchy.WellFormed.run_primaryKey_iff`). `Hierarchy.searchedKey` is a search for the first class
with a primary key, from the class upwards, which knows nothing of a memory.

What is remembered depends on the questions that were asked before, and from which class the
recursion started. Every entry is right all the same, which is the invariant `Resolution.Sound`, so
the recursion answers as the search does: `keys_searched`, for any questions in any order.
-/

namespace Scaffold

/-! ## The search -/

/-- The key that an attribute makes. If the attribute is a foreign key too, the key is called after
what it references. -/
def Attribute.asKey (a : Attribute) : PrimaryKey where
  name := if a.isForeignKey then (a.referencedField.filter (· ≠ "")).getD a.name else a.name
  javaType := JavaType.ofDeclared a.type

/-- The first primary key attribute of a class. -/
def ClassNode.firstKey? (c : ClassNode) : Option Attribute := c.attributes.find? (·.isPrimaryKey)

theorem ClassNode.ownKey?_eq (c : ClassNode) : c.ownKey? = c.firstKey?.map Attribute.asKey := by
  rw [ownKey?, primaryKeys, List.head?_filter]
  rfl

namespace Hierarchy

variable {h : Hierarchy}

/-- The key of the first of a class and its ancestors that has a primary key attribute, taken from
the first such attribute, and the key that is made up if there is none. -/
def searchedKey (h : Hierarchy) (c : ClassNode) : PrimaryKey :=
  match (c :: h.ancestors c).find? (·.firstKey?.isSome) with
  | some holder => (holder.firstKey?.map Attribute.asKey).getD .default
  | none => .default

theorem keyOf_eq_searchedKey (c : ClassNode) : h.keyOf c = h.searchedKey c := by
  unfold keyOf searchedKey
  induction c :: h.ancestors c with
  | nil => rfl
  | cons p rest ih =>
    rw [List.findSome?_cons, List.find?_cons, p.ownKey?_eq]
    cases hkey : p.firstKey? with
    | some a => simp [hkey]
    | none => simpa using ih

/-! ## Hierarchies -/

/-- Two classes are in one hierarchy: parents lead from one to the other, upwards and downwards. -/
def SameTree (h : Hierarchy) : ClassNode → ClassNode → Prop :=
  Relation.EqvGen fun c p => h.parentOf c = some p

theorem WellFormed.root_of_parent (hh : h.WellFormed) {c p : ClassNode}
    (hp : h.parentOf c = some p) : h.root c = h.root p := by
  rw [root, root, hh.ancestors_of_parent hp, List.getLast?_cons, Option.getD_some]

/-- The classes of one hierarchy have one class at the top. -/
theorem WellFormed.root_of_sameTree (hh : h.WellFormed) {c c' : ClassNode}
    (htree : h.SameTree c c') : h.root c = h.root c' := by
  induction htree with
  | rel c p hp => exact hh.root_of_parent hp
  | refl c => rfl
  | symm c c' _ ih => exact ih.symm
  | trans c c' c'' _ _ ih ih' => exact ih.trans ih'

/-! ## The recursion -/

/-- A run of the recursion that finds the key of a class, from what is remembered before to what is
remembered after. -/
inductive Recalls (h : Hierarchy) : Resolution → ClassNode → PrimaryKey → Resolution → Prop where
  /-- The key is remembered. -/
  | known {s : Resolution} {c : ClassNode} {key : PrimaryKey}
      (hlookup : s.keys.lookup c.id = some key) : Recalls h s c key s
  /-- The class declares a key. -/
  | own {s : Resolution} {c : ClassNode} {key : PrimaryKey}
      (hlookup : s.keys.lookup c.id = none) (hown : c.ownKey? = some key) :
      Recalls h s c key { s with keys := (c.id, key) :: s.keys }
  /-- The key is that of the parent. -/
  | above {s s' : Resolution} {c p : ClassNode} {key : PrimaryKey}
      (hlookup : s.keys.lookup c.id = none) (hown : c.ownKey? = none)
      (hp : h.parentOf c = some p) (rest : Recalls h s p key s') :
      Recalls h s c key { s' with keys := (c.id, key) :: s'.keys }
  /-- There is no parent, and the key is made up. -/
  | top {s : Resolution} {c : ClassNode}
      (hlookup : s.keys.lookup c.id = none) (hown : c.ownKey? = none)
      (hp : h.parentOf c = none) :
      Recalls h s c .default { s with keys := (c.id, .default) :: s.keys }

end Hierarchy

namespace Hierarchy

variable {h : Hierarchy} {c : ClassNode}

theorem Recalls.run_eq {s s' : Resolution} {key : PrimaryKey} (hrun : h.Recalls s c key s')
    (hh : h.WellFormed) : (Resolve.primaryKey h c).run s = (key, s') := by
  unfold Resolve.primaryKey
  induction hrun with
  | known hlookup => exact Resolve.run_keyAlong_of_known _ hlookup
  | own hlookup hown => exact Resolve.run_keyAlong_of_own _ hlookup hown
  | above hlookup hown hp _ ih =>
    rw [Resolve.run_keyAlong_of_none _ hlookup hown, hh.ancestors_of_parent hp, ih]
  | top hlookup hown hp =>
    rw [Resolve.run_keyAlong_of_none _ hlookup hown, hh.ancestors_of_top hp]
    rfl

/-- From every class the recursion comes to an end, whatever is remembered. -/
theorem Ascends.exists_recalls {path : List ClassNode} (hpath : h.Ascends c path)
    (s : Resolution) : ∃ key s', h.Recalls s c key s' := by
  induction hpath with
  | @top c hp =>
    cases hlookup : s.keys.lookup c.id with
    | some key => exact ⟨key, s, .known hlookup⟩
    | none =>
      cases hown : c.ownKey? with
      | some key => exact ⟨key, _, .own hlookup hown⟩
      | none => exact ⟨.default, _, .top hlookup hown hp⟩
  | @step c p _ hp _ ih =>
    cases hlookup : s.keys.lookup c.id with
    | some key => exact ⟨key, s, .known hlookup⟩
    | none =>
      cases hown : c.ownKey? with
      | some key => exact ⟨key, _, .own hlookup hown⟩
      | none =>
        obtain ⟨key, s', hrun⟩ := ih
        exact ⟨key, _, .above hlookup hown hp hrun⟩

/-- The recursion that is not bounded has one run from every class, and finds what `primaryKey`
finds. -/
theorem WellFormed.run_primaryKey_iff (hh : h.WellFormed) {s s' : Resolution} {key : PrimaryKey} :
    (Resolve.primaryKey h c).run s = (key, s') ↔ h.Recalls s c key s' := by
  constructor
  · intro hrun
    obtain ⟨key', s'', hrecalls⟩ := (hh.ascends_ancestors c).exists_recalls s
    have heq := (hrecalls.run_eq hh).symm.trans hrun
    rw [Prod.mk.injEq] at heq
    rwa [heq.1, heq.2] at hrecalls
  · intro hrecalls
    exact hrecalls.run_eq hh

end Hierarchy

/-! ## Questions -/

/-- A question about the keys of classes. -/
inductive KeyQuestion where
  /-- Which key a class declares or takes from an ancestor. -/
  | primary (c : ClassNode)
  /-- Which key the entity of a class exposes. -/
  | entity (c : ClassNode)
  deriving DecidableEq

namespace KeyQuestion

/-- The class that a question is about. -/
def subject : KeyQuestion → ClassNode
  | .primary c => c
  | .entity c => c

/-- Answers a question from what is remembered, and remembers what is found. -/
def ask (h : Hierarchy) : KeyQuestion → Resolve PrimaryKey
  | .primary c => Resolve.primaryKey h c
  | .entity c => Resolve.entityKey h c

/-- The answer to a question by a search. -/
def answer (h : Hierarchy) : KeyQuestion → PrimaryKey
  | .primary c => h.searchedKey c
  | .entity c => h.searchedKey (h.root c)

end KeyQuestion

namespace Resolve

variable {h : Hierarchy}

/-- A loop whose steps meet what a function gives meets what it gives for the whole list. -/
theorem meets_mapM {I : Resolution → Prop} {α β : Type} {f : α → Resolve β} {g : α → β}
    {l : List α} (hf : ∀ a ∈ l, Meets I (fun _ => True) (f a) fun b _ => b = g a) :
    Meets I (fun _ => True) (l.mapM f) fun bs _ => bs = l.map g := by
  induction l with
  | nil => exact meets_pure fun _ _ _ => rfl
  | cons a rest ih =>
    obtain ⟨hfirst, hrest⟩ := List.forall_mem_cons.1 hf
    rw [List.mapM_cons]
    refine hfirst.bind fun b => meets_of_fact fun hb => (ih hrest).bind fun bs => ?_
    exact meets_of_fact fun hbs => meets_pure fun _ _ _ => by rw [hb, hbs, List.map_cons]

/-- What is remembered stays right with every question, and the answer is that of the search. -/
theorem meets_ask (hd : h.diagram.DistinctIds) (hh : h.WellFormed) {q : KeyQuestion}
    (hq : q.subject ∈ h.diagram.classes) :
    Meets (Resolution.Sound h) (fun _ => True) (q.ask h) fun key _ => key = q.answer h := by
  cases q with
  | primary c =>
    refine (meets_primaryKey hd hh hq).mono fun key s _ hkey => ?_
    rw [hkey.1, Hierarchy.keyOf_eq_searchedKey]
    rfl
  | entity c =>
    refine (meets_entityKey hd hh hq).mono fun key s _ hkey => ?_
    rw [hkey.1, Hierarchy.entityKeyOf, Hierarchy.keyOf_eq_searchedKey]
    rfl

end Resolve

/-- In a diagram without repeated ids, any questions about keys that are asked one after the other
are answered as the search along the chain answers them, whatever was remembered on the way. Each of
them is answered by a recursion that ends. What the entity of a class exposes is the key of the
class at the top of its chain, so it is the same for all classes of a hierarchy. -/
theorem keys_searched (d : Diagram) (hd : d.DistinctIds) (questions : List KeyQuestion)
    (hquestions : ∀ q ∈ questions, q.subject ∈ d.classes) :
    let h := (Hierarchy.ofDiagram d).value
    ((questions.mapM (KeyQuestion.ask h)).run {}).1 = questions.map (KeyQuestion.answer h) ∧
      (∀ c s key s', (Resolve.primaryKey h c).run s = (key, s') ↔ h.Recalls s c key s') ∧
      (∀ c, (h.chain c).head? = some (h.root c) ∧
        (KeyQuestion.entity c).answer h = (KeyQuestion.primary (h.root c)).answer h) ∧
      ∀ c c', h.SameTree c c' →
        (KeyQuestion.entity c).answer h = (KeyQuestion.entity c').answer h := by
  intro h
  have hh : h.WellFormed := Hierarchy.wellFormed_ofDiagram d
  have hanswers := Resolve.meets_mapM fun q hq => Resolve.meets_ask hd hh (hquestions q hq)
  refine ⟨?_, fun c s key s' => hh.run_primaryKey_iff, fun c => ⟨?_, rfl⟩, fun c c' htree => ?_⟩
  · exact (hanswers {} (Resolution.sound_empty h) trivial).2.2
  · exact Hierarchy.head?_chain c
  · exact congrArg h.searchedKey (hh.root_of_sameTree htree)

/-- Vessels have a key under the name of what it references, behind a column, and a second primary
key. -/
def vessel : ClassNode where
  id := "1"
  name := "Vessel"
  attributes :=
    [{ name := "built", type := "Date" },
      { name := "imo", type := "Long", isPrimaryKey := true, isForeignKey := true
        referencedField := some "imo_number" },
      { name := "flag", isPrimaryKey := true }]

/-- Ferries are vessels without a primary key. -/
def ferry : ClassNode where
  id := "2"
  name := "Ferry"
  attributes := [{ name := "seats", type := "Integer" }]

/-- Hydrofoils are ferries with a primary key. -/
def hydrofoil : ClassNode where
  id := "3"
  name := "Hydrofoil"
  attributes := [{ name := "hull_code", isPrimaryKey := true }]

/-- Piers have no primary key. -/
def pier : ClassNode where
  id := "4"
  name := "Pier"

/-- Ferries, hydrofoils and other vessels, and piers. -/
def harbour : Diagram where
  classes := [vessel, ferry, hydrofoil, pier]
  relationships := [parentEdge "1" "2", parentEdge "2" "3"]

theorem keys_searched_harbour :
    let h := (Hierarchy.ofDiagram harbour).value
    let questions : List KeyQuestion :=
      [.entity hydrofoil, .primary ferry, .primary pier, .primary hydrofoil, .entity ferry,
        .primary vessel]
    harbour.DistinctIds ∧ (∀ q ∈ questions, q.subject ∈ harbour.classes) ∧
      ((questions.mapM (KeyQuestion.ask h)).run {}).1 =
        [⟨"imo_number", .long, false⟩, ⟨"imo_number", .long, false⟩, ⟨"id", .long, true⟩,
          ⟨"hull_code", .string, false⟩, ⟨"imo_number", .long, false⟩,
          ⟨"imo_number", .long, false⟩] ∧
      h.SameTree hydrofoil vessel ∧
      (KeyQuestion.entity hydrofoil).answer h = (KeyQuestion.entity vessel).answer h := by
  intro h questions
  have hd : harbour.DistinctIds := by
    unfold Diagram.DistinctIds
    decide
  have hquestions : ∀ q ∈ questions, q.subject ∈ harbour.classes := by decide
  have htree : h.SameTree hydrofoil vessel := by
    have hferry : h.parentOf hydrofoil = some ferry := by decide +kernel
    have hvessel : h.parentOf ferry = some vessel := by decide +kernel
    exact .trans _ _ _ (.rel _ _ hferry) (.rel _ _ hvessel)
  obtain ⟨hanswers, -, -, hsame⟩ := keys_searched harbour hd questions hquestions
  refine ⟨hd, hquestions, hanswers.trans ?_, htree, hsame _ _ htree⟩
  decide +kernel

end Scaffold
