import Mathlib.Data.List.Basic
import Scaffold.Proofs.Agreement.Generation

/-!
# Which class an artifact is for

Two artifacts may have one path, so a path does not tell for which class an artifact has been
generated. `Context.owned` lists the artifacts of a context with the ids of their classes; without
the ids the list is the one that is generated (`map_artifact_owned`). It also shows that nothing but
the entities can fail: they come first, and what follows is `Context.later`.

The artifacts of some owners are those that are generated for them (`filter_owned`), and contexts
that agree have the same artifacts for a class, but for the order of the fields of the entity.

Main statements: `map_artifact_owned`, `filter_owned`, `Agrees.filesOf`.
-/

namespace Scaffold

open Java

/-! ## Results without diagnostics -/

theorem Noted.value_mapM {α β : Type} (f : α → Noted β) (l : List α) :
    (l.mapM f).value = l.map fun a => (f a).value := by
  induction l with
  | nil => rfl
  | cons a rest ih =>
    rw [List.mapM_cons, List.map_cons, ← ih]
    rfl

namespace Generation

variable {α β : Type}

theorem value_bind (x : Generation α) (f : α → Generation β) :
    (x >>= f).run.value = x.run.value >>= fun a => (f a).run.value := by
  rw [ExceptT.run_bind, Noted.value_bind]
  cases x.run.value <;> rfl

theorem value_map (f : α → β) (x : Generation α) : (f <$> x).run.value = f <$> x.run.value := by
  rw [ExceptT.run_map]
  rfl

theorem value_mapM (f : α → Generation β) (l : List α) :
    (l.mapM f).run.value = l.mapM fun a => (f a).run.value := by
  induction l with
  | nil => rfl
  | cons a rest ih =>
    rw [List.mapM_cons, List.mapM_cons, value_bind]
    refine bind_congr fun b => ?_
    rw [value_bind, ih]
    rfl

end Generation

/-- What is done to each result may be done in the end. -/
theorem map_mapM_except {α β γ ε : Type} (f : β → γ) (g : α → Except ε β) (l : List α) :
    List.map f <$> l.mapM g = l.mapM fun a => f <$> g a := by
  induction l with
  | nil => rfl
  | cons a rest ih =>
    rw [List.mapM_cons, List.mapM_cons, ← ih]
    cases g a with
    | error e => rfl
    | ok b => cases rest.mapM g <;> rfl

/-- The steps of a loop matter for the members of the list only. -/
theorem mapM_congr {m : Type → Type} [Monad m] [LawfulMonad m] {α β : Type} {f g : α → m β}
    {l : List α} (hl : ∀ a ∈ l, f a = g a) : l.mapM f = l.mapM g := by
  induction l with
  | nil => rfl
  | cons a rest ih =>
    obtain ⟨ha, hrest⟩ := List.forall_mem_cons.1 hl
    rw [List.mapM_cons, List.mapM_cons, ha, ih hrest]

/-- What a list of results consists of. -/
theorem mapM_eq_ok_iff {α β ε : Type} {f : α → Except ε β} {l : List α} {bs : List β} :
    l.mapM f = .ok bs ↔ List.Forall₂ (fun a b => f a = .ok b) l bs := by
  induction l generalizing bs with
  | nil =>
    rw [List.mapM_nil, List.forall₂_nil_left_iff]
    exact ⟨fun h => (Except.ok.inj h).symm, fun h => congrArg Except.ok h.symm⟩
  | cons a rest ih =>
    rw [List.mapM_cons, List.forall₂_cons_left_iff]
    cases hfirst : f a with
    | error e => simp [bind, Except.bind]
    | ok b =>
      cases hrest : rest.mapM f with
      | error e => simp [bind, Except.bind, ← ih, hrest]
      | ok bs' =>
        have hall : ∀ bs'', List.Forall₂ (fun a b => f a = .ok b) rest bs'' ↔ bs' = bs'' :=
          fun bs'' => by rw [← ih, hrest, Except.ok.injEq]
        simp [bind, Except.bind, pure, Except.pure, hall, eq_comm]

theorem exists_mapM_eq_ok {α β ε : Type} {f : α → Except ε β} {l : List α} :
    (∃ bs, l.mapM f = .ok bs) ↔ ∀ a ∈ l, ∃ b, f a = .ok b := by
  simp only [mapM_eq_ok_iff]
  induction l with
  | nil => simp
  | cons a rest ih => simp [List.forall₂_cons_left_iff, ← ih]

theorem exists_of_forall₂ {α β : Type} {R : α → β → Prop} {l : List α} {l' : List β}
    (h : List.Forall₂ R l l') {a : α} (ha : a ∈ l) : ∃ b ∈ l', R a b := by
  induction h with
  | nil => cases ha
  | cons hab _ ih =>
    rcases List.mem_cons.1 ha with rfl | ha
    · exact ⟨_, List.mem_cons_self, hab⟩
    · obtain ⟨b, hb, hR⟩ := ih ha
      exact ⟨b, List.mem_cons_of_mem _ hb, hR⟩

/-! ## Artifacts and their classes -/

/-- A generated file, with the id of the class that it is generated for. A join entity is for no
class. -/
structure OwnedArtifact where
  /-- The id of the class. -/
  owner : Option String
  /-- The file. -/
  artifact : Artifact
  deriving DecidableEq

namespace Context

/-- The entity of a class. -/
def entityArtifact (ctx : Context) (c : ClassNode) : Except Constraint.HugeLength Artifact :=
  Artifact.mk .entities c.name <$> (entity ctx c).run.value

/-- The artifacts of a group for a class, without the entity. -/
def filesOf (ctx : Context) (c : ClassNode) : Group → List Artifact
  | .entities => []
  | .dto => [⟨.dto, Naming.dtoName c.name, dto ctx c⟩]
  | .mappers => [⟨.mappers, c.name ++ "Mapper", (mapper ctx c).value⟩]
  | .repositories => [⟨.repositories, c.name ++ "Repository", repository ctx c⟩]
  | .services =>
    [⟨.services, c.name ++ "Service", service ctx c⟩,
      ⟨.services, c.name ++ "ServiceImpl", (serviceImplementation ctx c).value⟩]
  | .controllers => [⟨.controllers, c.name ++ "Controller", (controller ctx c).value⟩]

/-- The groups of the artifacts that follow the entities, in order. -/
def laterGroups : List Group := [.dto, .mappers, .repositories, .services, .controllers]

/-- The join entities. -/
def joinArtifacts (ctx : Context) : List OwnedArtifact :=
  ctx.diagram.associationTables.map fun t =>
    ⟨none, ⟨.entities, t.name, (joinEntity ctx t).value⟩⟩

/-- The artifacts for a class that follow the entities, group by group. -/
def ownedFiles (ctx : Context) (g : Group) (c : ClassNode) : List OwnedArtifact :=
  (ctx.filesOf c g).map (OwnedArtifact.mk (some c.id))

/-- The artifacts that follow the entities of the classes. -/
def later (ctx : Context) : List OwnedArtifact :=
  ctx.joinArtifacts ++ laterGroups.flatMap fun g => ctx.diagram.classes.flatMap (ctx.ownedFiles g)

/-- The entity of a class, and the class. -/
def ownedEntity (ctx : Context) (c : ClassNode) : Except Constraint.HugeLength OwnedArtifact :=
  OwnedArtifact.mk (some c.id) <$> ctx.entityArtifact c

/-- The artifacts of a context and their classes. -/
def owned (ctx : Context) : Except Constraint.HugeLength (List OwnedArtifact) :=
  (· ++ ctx.later) <$> ctx.diagram.classes.mapM ctx.ownedEntity

/-- What the entity of a class consists of. -/
theorem entityArtifact_eq_ok {ctx : Context} {c : ClassNode} {a : Artifact} :
    ctx.entityArtifact c = .ok a ↔
      ∃ text, (entity ctx c).run.value = .ok text ∧ a = ⟨.entities, c.name, text⟩ := by
  unfold entityArtifact
  cases (entity ctx c).run.value with
  | error e => simp [Functor.map, Except.map]
  | ok text => simp [Functor.map, Except.map, eq_comm]

theorem ownedEntity_eq_ok {ctx : Context} {c : ClassNode} {a : OwnedArtifact} :
    ctx.ownedEntity c = .ok a ↔
      ∃ text, (entity ctx c).run.value = .ok text ∧
        a = ⟨some c.id, ⟨.entities, c.name, text⟩⟩ := by
  unfold ownedEntity entityArtifact
  cases (entity ctx c).run.value with
  | error e => simp [Functor.map, Except.map]
  | ok text => simp [Functor.map, Except.map, eq_comm]

theorem map_artifact_ownedFiles (ctx : Context) (g : Group) (c : ClassNode) :
    (ctx.ownedFiles g c).map OwnedArtifact.artifact = ctx.filesOf c g := by
  rw [ownedFiles, List.map_map]
  exact List.map_id _

/-- The artifacts that follow the entities come in the order in which they are generated. -/
theorem map_artifact_later (ctx : Context) :
    let classes := ctx.diagram.classes
    ctx.later.map OwnedArtifact.artifact =
      (ctx.diagram.associationTables.mapM fun t =>
        Artifact.mk .entities t.name <$> joinEntity ctx t).value ++
      (classes.map fun c => ⟨.dto, Naming.dtoName c.name, dto ctx c⟩) ++
      (classes.mapM fun c => Artifact.mk .mappers (c.name ++ "Mapper") <$> mapper ctx c).value ++
      (classes.map fun c => ⟨.repositories, c.name ++ "Repository", repository ctx c⟩) ++
      (classes.mapM ctx.serviceArtifacts).value.flatten ++
      (classes.mapM fun c =>
        Artifact.mk .controllers (c.name ++ "Controller") <$> controller ctx c).value := by
  intro classes
  have hjoin : ctx.joinArtifacts.map OwnedArtifact.artifact =
      ctx.diagram.associationTables.map fun t =>
        (Artifact.mk .entities t.name <$> joinEntity ctx t).value := by
    rw [joinArtifacts, List.map_map]
    rfl
  have hservices : (classes.mapM ctx.serviceArtifacts).value.flatten =
      classes.flatMap (ctx.filesOf · .services) := by
    rw [Noted.value_mapM, ← List.flatMap_def]
    rfl
  have hone : ∀ f : ClassNode → Artifact, classes.map f = classes.flatMap fun c => [f c] :=
    fun f => List.map_eq_flatMap
  rw [later, List.map_append, hjoin, hservices]
  simp only [Noted.value_mapM, hone, laterGroups, List.map_append, List.flatMap_cons,
    List.flatMap_nil, List.map_flatMap, map_artifact_ownedFiles, List.append_nil,
    List.append_assoc]
  rfl

/-- What is generated: the entities, if all of them can be, and what follows them. -/
theorem value_artifacts (ctx : Context) :
    ctx.artifacts.run.value =
      (· ++ ctx.later.map OwnedArtifact.artifact) <$>
        ctx.diagram.classes.mapM ctx.entityArtifact := by
  have hentity : ∀ c, (Artifact.mk .entities c.name <$> entity ctx c).run.value =
      ctx.entityArtifact c := fun c => Generation.value_map _ _
  unfold Context.artifacts
  simp only [Generation.value_bind, Generation.value_mapM, hentity, map_artifact_later]
  cases ctx.diagram.classes.mapM ctx.entityArtifact with
  | error e => rfl
  | ok entities =>
    refine congrArg Except.ok ?_
    simp only [List.append_assoc]
    rfl

/-- Without their classes, the artifacts of a context are those that are generated. -/
theorem map_artifact_owned (ctx : Context) :
    List.map OwnedArtifact.artifact <$> ctx.owned = ctx.artifacts.run.value := by
  have hentity : ∀ c, OwnedArtifact.artifact <$> ctx.ownedEntity c = ctx.entityArtifact c := by
    intro c
    rw [ownedEntity]
    cases ctx.entityArtifact c <;> rfl
  have hentities : List.map OwnedArtifact.artifact <$> ctx.diagram.classes.mapM ctx.ownedEntity =
      ctx.diagram.classes.mapM ctx.entityArtifact := by
    simp only [map_mapM_except, hentity]
  rw [value_artifacts, ← hentities, owned]
  cases ctx.diagram.classes.mapM ctx.ownedEntity with
  | error e => rfl
  | ok entities => exact congrArg Except.ok List.map_append

/-! ## The artifacts of some owners -/

/-- Of lists whose items all count or all do not, those are left whose items count. -/
theorem filter_flatMap_of_forall {α β : Type} {f : α → List β} {p : β → Bool} {q : α → Bool}
    (hf : ∀ a, ∀ b ∈ f a, p b = q a) (l : List α) :
    (l.flatMap f).filter p = (l.filter q).flatMap f := by
  induction l with
  | nil => rfl
  | cons a rest ih =>
    rw [List.flatMap_cons, List.filter_append, ih]
    cases hq : q a with
    | true =>
      have hall : (f a).filter p = f a := List.filter_eq_self.2 fun b hb => (hf a b hb).trans hq
      rw [hall, List.filter_cons_of_pos hq, List.flatMap_cons]
    | false =>
      have hnone : (f a).filter p = [] :=
        List.filter_eq_nil_iff.2 fun b hb => by simp [hf a b hb, hq]
      rw [hnone, List.filter_cons_of_neg (by simp [hq]), List.nil_append]

/-- What follows the entities, for some classes only. -/
theorem filter_later (ctx : Context) (p : Option String → Bool) :
    ctx.later.filter (fun a => p a.owner) =
      (ctx.joinArtifacts.filter fun _ => p none) ++ laterGroups.flatMap fun g =>
        (ctx.diagram.classes.filter fun c => p (some c.id)).flatMap (ctx.ownedFiles g) := by
  have hjoin : ctx.joinArtifacts.filter (fun a => p a.owner) =
      ctx.joinArtifacts.filter fun _ => p none := by
    refine List.filter_congr fun a ha => ?_
    obtain ⟨t, -, rfl⟩ := List.mem_map.1 ha
    rfl
  have hfiles : ∀ g c, ∀ a ∈ ctx.ownedFiles g c, p a.owner = p (some c.id) := by
    intro g c a ha
    obtain ⟨file, -, rfl⟩ := List.mem_map.1 ha
    rfl
  rw [later, List.filter_append, hjoin, List.filter_flatMap]
  refine congrArg (_ ++ ·) (List.flatMap_congr fun g _ => ?_)
  exact filter_flatMap_of_forall (hfiles g) _

/-- A loop without the steps whose results are left out. -/
theorem filter_mapM_except {α β ε : Type} {p : α → Bool} {q : β → Bool} {f : α → Except ε β}
    {l : List α} (hkeep : ∀ a ∈ l, ∀ b, f a = .ok b → q b = p a)
    (hdrop : ∀ a ∈ l, p a = false → ∃ b, f a = .ok b) :
    List.filter q <$> l.mapM f = (l.filter p).mapM f := by
  induction l with
  | nil => rfl
  | cons a rest ih =>
    obtain ⟨hfirst, hrest⟩ := List.forall_mem_cons.1 hkeep
    obtain ⟨hgone, hdrop⟩ := List.forall_mem_cons.1 hdrop
    have ih := ih hrest hdrop
    cases hp : p a with
    | true =>
      rw [List.filter_cons_of_pos hp, List.mapM_cons, List.mapM_cons, ← ih]
      cases ha : f a with
      | error e => rfl
      | ok b =>
        have hq : q b = true := (hfirst b ha).trans hp
        cases rest.mapM f with
        | error e => rfl
        | ok bs => exact congrArg Except.ok (List.filter_cons_of_pos hq)
    | false =>
      obtain ⟨b, hb⟩ := hgone hp
      have hq : ¬q b = true := by simp [hfirst b hb, hp]
      rw [List.filter_cons_of_neg (by simp [hp]), List.mapM_cons, hb, ← ih]
      cases rest.mapM f with
      | error e => rfl
      | ok bs => exact congrArg Except.ok (List.filter_cons_of_neg hq)

/-- The artifacts for some classes only, if the entities of the others are generated. -/
theorem filter_owned {ctx : Context} {p : Option String → Bool}
    (hdrop : ∀ c ∈ ctx.diagram.classes, p (some c.id) = false →
      ∃ a, ctx.ownedEntity c = .ok a) :
    List.filter (fun a => p a.owner) <$> ctx.owned =
      (· ++ ctx.later.filter fun a => p a.owner) <$>
        (ctx.diagram.classes.filter fun c => p (some c.id)).mapM ctx.ownedEntity := by
  have hkeep : ∀ c ∈ ctx.diagram.classes, ∀ a, ctx.ownedEntity c = .ok a →
      p a.owner = p (some c.id) := by
    intro c _ a ha
    obtain ⟨text, -, rfl⟩ := ownedEntity_eq_ok.1 ha
    rfl
  rw [owned, ← filter_mapM_except (p := fun c : ClassNode => p (some c.id)) hkeep hdrop]
  cases ctx.diagram.classes.mapM ctx.ownedEntity with
  | error e => rfl
  | ok entities => exact congrArg Except.ok (List.filter_append ..)

/-- The artifacts of the only class with an id are its entity and its other files. -/
theorem filter_owned_class {ctx : Context} {c : ClassNode} {owned : List OwnedArtifact}
    (hc : (ctx.diagram.classes.filter fun a => a.id = c.id) = [c])
    (howned : ctx.owned = .ok owned) :
    ∃ text, (entity ctx c).run.value = .ok text ∧
      (owned.filter fun a => a.owner = some c.id).map OwnedArtifact.artifact =
        ⟨.entities, c.name, text⟩ :: laterGroups.flatMap (ctx.filesOf c) := by
  have hentities : ∀ a ∈ ctx.diagram.classes, ∃ e, ctx.ownedEntity a = .ok e := by
    refine exists_mapM_eq_ok.1 ?_
    rw [Context.owned] at howned
    cases hfirst : ctx.diagram.classes.mapM ctx.ownedEntity with
    | error e =>
      rw [hfirst] at howned
      cases howned
    | ok entities => exact ⟨entities, rfl⟩
  have hmem : c ∈ ctx.diagram.classes.filter fun a => a.id = c.id := hc ▸ List.mem_singleton_self c
  obtain ⟨e, he⟩ := hentities c (List.mem_of_mem_filter hmem)
  obtain ⟨text, htext, rfl⟩ := ownedEntity_eq_ok.1 he
  have hclasses : (ctx.diagram.classes.filter fun a => some a.id = some c.id) = [c] := by
    simpa using hc
  have hfilter := filter_owned (p := fun owner => owner = some c.id) fun a ha _ => hentities a ha
  have hlater := ctx.filter_later fun owner => owner = some c.id
  rw [hclasses] at hfilter hlater
  rw [howned, hlater, List.mapM_cons, he] at hfilter
  refine ⟨text, htext, ?_⟩
  rw [Except.ok.inj hfilter]
  simp [List.map_flatMap, map_artifact_ownedFiles]

/-! ## Contexts that agree -/

namespace Agrees

variable {ctx ctx' : Context} (hs : ctx.Agrees ctx') {c : ClassNode}
  (hc : c ∈ ctx.diagram.classes)
include hs hc

theorem filesOf (g : Group) : ctx.filesOf c g = ctx'.filesOf c g := by
  cases g with
  | entities => rfl
  | dto => rw [Context.filesOf, Context.filesOf, hs.dto hc]
  | mappers => rw [Context.filesOf, Context.filesOf, hs.mapper hc]
  | repositories => rw [Context.filesOf, Context.filesOf, hs.repository hc]
  | services =>
    rw [Context.filesOf, Context.filesOf, hs.service hc, hs.serviceImplementation hc]
  | controllers => rw [Context.filesOf, Context.filesOf, hs.controller hc]

theorem ownedFiles (g : Group) : ctx.ownedFiles g c = ctx'.ownedFiles g c := by
  rw [Context.ownedFiles, Context.ownedFiles, hs.filesOf hc]

theorem ownedEntity (horder : (ctx.prediction c).oneToMany = (ctx'.prediction c).oneToMany) :
    ctx.ownedEntity c = ctx'.ownedEntity c := by
  rw [Context.ownedEntity, Context.ownedEntity, entityArtifact, entityArtifact,
    hs.entity hc horder]

omit hc in
theorem joinArtifacts (htables : ctx.diagram.associationTables = ctx'.diagram.associationTables)
    (htargets : ∀ t ∈ ctx.diagram.associationTables, ∀ a ∈ t.foreignKeys,
      a.referencedEntity.bind ctx.diagram.classByName =
        a.referencedEntity.bind ctx'.diagram.classByName) :
    ctx.joinArtifacts = ctx'.joinArtifacts := by
  rw [Context.joinArtifacts, Context.joinArtifacts, ← htables]
  refine List.map_congr_left fun t ht => ?_
  rw [hs.joinEntity (htargets t ht)]

omit hc in
/-- The artifacts of a context are those of a context that it agrees with, for its classes only. -/
theorem filter_owned {p : Option String → Bool} (hnone : p none = true)
    (hclasses : (ctx'.diagram.classes.filter fun c => p (some c.id)) = ctx.diagram.classes)
    (horder : ∀ c ∈ ctx.diagram.classes,
      (ctx.prediction c).oneToMany = (ctx'.prediction c).oneToMany)
    (hjoin : ctx.joinArtifacts = ctx'.joinArtifacts)
    (hdrop : ∀ c ∈ ctx'.diagram.classes, p (some c.id) = false →
      ∃ a, ctx'.ownedEntity c = .ok a) :
    List.filter (fun a => p a.owner) <$> ctx'.owned = ctx.owned := by
  have hfiles : ∀ g, ctx.diagram.classes.flatMap (ctx'.ownedFiles g) =
      ctx.diagram.classes.flatMap (ctx.ownedFiles g) :=
    fun g => List.flatMap_congr fun c hc => (hs.ownedFiles hc g).symm
  have hlater : ctx'.later.filter (fun a => p a.owner) = ctx.later := by
    rw [filter_later, hclasses, ← hjoin, hnone, List.filter_true, later]
    simp only [hfiles]
  have hentities : ctx.diagram.classes.mapM ctx'.ownedEntity =
      ctx.diagram.classes.mapM ctx.ownedEntity :=
    mapM_congr fun c hc => (hs.ownedEntity hc (horder c hc)).symm
  rw [Context.filter_owned hdrop, hclasses, hlater, hentities, owned]

end Agrees

end Context

end Scaffold
