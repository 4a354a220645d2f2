import Scaffold.Proofs.Reordering

/-!
# Where the artifacts of a diagram go

The place of an artifact is its group and the name of its class, and makes up its path. The places
of all artifacts follow from the names in the diagram: every class has an entity, every association
table a join entity, and every class one file or two in each other group, whose names are told
apart by a suffix. Nothing else of a class shows in its paths.

Main statement: `places_artifacts`.
-/

namespace Scaffold

/-- Where an artifact goes. -/
structure Place where
  /-- The group, and directory. -/
  group : Group
  /-- The name of the class in the file. -/
  name : String
  deriving DecidableEq

/-- The path of the file at a place. -/
def Place.path (p : Place) : String := s!"{p.group.name}/{p.name}.java"

theorem Place.toList_path (p : Place) :
    p.path.toList = p.group.name.toList ++ '/' :: (p.name.toList ++ ".java".toList) := by
  simp [Place.path, toString]

/-- The place of an artifact. -/
def Artifact.place (a : Artifact) : Place := ⟨a.group, a.name⟩

theorem Artifact.path_place (a : Artifact) : a.place.path = a.path := rfl

/-- What follows the name of a class in the names of its files in a group. -/
def Group.suffixes : Group → List String
  | .entities => [""]
  | .dto => ["DTO"]
  | .mappers => ["Mapper"]
  | .repositories => ["Repository"]
  | .services => ["Service", "ServiceImpl"]
  | .controllers => ["Controller"]

namespace Diagram

/-- The names of the classes, and those of the association tables. -/
def typeNames (d : Diagram) : List String :=
  d.classes.map (·.name) ++ d.associationTables.map (·.name)

/-- The places of the files for a class in a group. -/
def placesIn (g : Group) (c : ClassNode) : List Place := g.suffixes.map fun s => ⟨g, c.name ++ s⟩

/-- The places of all artifacts of a diagram, in order. -/
def places (d : Diagram) : List Place :=
  d.typeNames.map (Place.mk .entities) ++
    Context.laterGroups.flatMap fun g => d.classes.flatMap (placesIn g)

/-- Every place is called after a class or an association table. -/
theorem exists_of_mem_places {d : Diagram} {p : Place} (hp : p ∈ d.places) :
    ∃ name ∈ d.typeNames, ∃ s ∈ p.group.suffixes, p.name = name ++ s := by
  rcases List.mem_append.1 hp with hp | hp
  · obtain ⟨name, hname, rfl⟩ := List.mem_map.1 hp
    exact ⟨name, hname, "", List.mem_singleton_self _, String.append_empty.symm⟩
  · obtain ⟨g, -, hp⟩ := List.mem_flatMap.1 hp
    obtain ⟨c, hc, hp⟩ := List.mem_flatMap.1 hp
    obtain ⟨s, hs, rfl⟩ := List.mem_map.1 hp
    exact ⟨c.name, List.mem_append_left _ (List.mem_map_of_mem hc), s, hs, rfl⟩

/-- Every class and every association table has an entity. -/
theorem entity_mem_places {d : Diagram} {name : String} (hname : name ∈ d.typeNames) :
    ⟨.entities, name⟩ ∈ d.places :=
  List.mem_append_left _ (List.mem_map_of_mem hname)

end Diagram

namespace Context

variable {ctx : Context}

theorem map_place_filesOf {g : Group} (hg : g ∈ laterGroups) (c : ClassNode) :
    (ctx.filesOf c g).map Artifact.place = Diagram.placesIn g c := by
  cases g with
  | entities => exact absurd hg (by decide)
  | _ => rfl

theorem map_place_later (ctx : Context) :
    (ctx.later.map OwnedArtifact.artifact).map Artifact.place =
      ctx.diagram.associationTables.map (fun t => ⟨.entities, t.name⟩) ++
        laterGroups.flatMap fun g => ctx.diagram.classes.flatMap (Diagram.placesIn g) := by
  have hfiles : ∀ g ∈ laterGroups, (ctx.diagram.classes.flatMap (ctx.ownedFiles g)).map
      (Artifact.place ∘ OwnedArtifact.artifact) =
        ctx.diagram.classes.flatMap (Diagram.placesIn g) := by
    intro g hg
    rw [List.map_flatMap]
    refine List.flatMap_congr fun c _ => ?_
    rw [← List.map_map, map_artifact_ownedFiles, map_place_filesOf hg]
  rw [List.map_map, later, List.map_append, joinArtifacts, List.map_map, List.map_flatMap,
    List.flatMap_congr hfiles]
  rfl

/-- The places of the artifacts of a context are those of its diagram. -/
theorem places_artifacts {artifacts : List Artifact}
    (hartifacts : ctx.artifacts.run.value = .ok artifacts) :
    artifacts.map Artifact.place = ctx.diagram.places := by
  obtain ⟨entities, rfl, hentities⟩ := artifacts_parts hartifacts
  have hplaces : ∀ {classes : List ClassNode} {entities : List Artifact},
      List.Forall₂ (fun c e => ctx.entityArtifact c = .ok e) classes entities →
        entities.map Artifact.place = classes.map fun c => ⟨.entities, c.name⟩ := by
    intro classes entities hall
    induction hall with
    | nil => rfl
    | cons he _ ih =>
      obtain ⟨text, -, rfl⟩ := entityArtifact_eq_ok.1 he
      rw [List.map_cons, List.map_cons, ih]
      rfl
  rw [List.map_append, hplaces hentities, map_place_later, Diagram.places, Diagram.typeNames,
    List.map_append, List.map_map, List.map_map, List.append_assoc]
  rfl

end Context

/-- What is compiled is a diagram, and its artifacts are at the places of the diagram. -/
theorem places_of_compile {source : Document.Source} {r : Request} {s : Settings}
    {generated : Noted (List Artifact)} (hcompile : compile source r s = .ok generated) :
    ∃ d, Diagram.parse source = .ok d ∧
      (r.generate s d.value).run.value = .ok generated.value ∧
      generated.notes = d.notes ++ (r.generate s d.value).run.notes ∧
      generated.value.map Artifact.place = d.value.places := by
  unfold compile at hcompile
  cases hparse : Diagram.parse source with
  | error e =>
    rw [hparse] at hcompile
    cases hcompile
  | ok d =>
    rw [hparse] at hcompile
    dsimp only at hcompile
    cases hgenerate : (r.generate s d.value).run.value with
    | error e =>
      rw [hgenerate] at hcompile
      cases hcompile
    | ok artifacts =>
      rw [hgenerate] at hcompile
      cases hcompile
      refine ⟨d, rfl, hgenerate, rfl, ?_⟩
      rw [Request.generate, fst_run_generate] at hgenerate
      exact Context.places_artifacts hgenerate

end Scaffold
