import Scaffold.Proofs.KeyTypes
import Scaffold.Proofs.Typed.Controllers

/-!
# Imports

Each generator collects the imports of its file beside the code that it makes. Here the two are held
against each other: `Context.typed` makes all files of a context with the types in their code told
apart, and written out they are the artifacts that are generated (`map_artifact_typed`). What a file
does not mark as a type is a fixed text, in which no type of values stands that has to be imported,
or a name, a literal, an annotation or a comment.

A file imports a type (`TypedFile.Imports`) if its import statements have the one that the type
needs. Types of values need one unless Java knows them without, and generated classes need one
outside of their own group. Each generator has a lemma that says that its file imports every type in
its code; these rest on the lists of types in `allTypes_typedFile`, which say where a type can come
from: own members, members along the chain, keys of referenced classes, or queries that are kept.

Main statements: `imports_complete` (import statements are strictly increasing and complete).
-/

namespace Scaffold

open Naming Java Text

/-- The import statement that a file of a group needs for a type. -/
def TypeUse.statement? (ctx : Context) (home : Group) : TypeUse → Option String
  | .value type => type.import?.map importStatement
  | .generated group name => if group = home then none else some (ctx.groupImport group name)

namespace TypedFile

/-- The import statements of a file. -/
def importBlock (f : TypedFile) : List String := ordered (f.imports.map importStatement)

/-- The file imports a type, unless it needs no import. -/
def Imports (ctx : Context) (f : TypedFile) (use : TypeUse) : Prop :=
  ∀ s ∈ use.statement? ctx f.group, s ∈ f.importBlock

/-- The file imports all types in its code. -/
def Complete (ctx : Context) (f : TypedFile) : Prop := f.code.AllTypes (f.Imports ctx)

variable {ctx : Context} {f : TypedFile}

theorem imports_value {types : List JavaType} {t : JavaType}
    (htypes : JavaType.imports types ⊆ f.imports) (ht : t ∈ types) :
    f.Imports ctx (.value t) := by
  intro s hs
  obtain ⟨name, hname, rfl⟩ := Option.map_eq_some_iff.1 hs
  have himport : name ∈ JavaType.imports types :=
    mem_ordered.2 (List.mem_filterMap.2 ⟨t, ht, hname⟩)
  exact mem_ordered.2 (List.mem_map_of_mem (htypes himport))

theorem importStatement_groupImport (ctx : Context) (group : Group) (name : String) :
    importStatement (ctx.groupImport group name) = ctx.groupImport group name := by
  have hstart : "import ".toList <+: (ctx.groupImport group name).toList := by
    simp only [Context.groupImport, Context.importOf, String.toList_append, List.append_assoc]
    exact List.prefix_append ..
  rw [importStatement, if_pos (List.isPrefixOf_iff_prefix.2 hstart)]

theorem imports_generated {group : Group} {name : String}
    (himport : ctx.groupImport group name ∈ f.imports) :
    f.Imports ctx (.generated group name) := by
  intro s hs
  by_cases hown : group = f.group
  · rw [TypeUse.statement?, if_pos hown] at hs
    cases hs
  · rw [TypeUse.statement?, if_neg hown] at hs
    obtain rfl := Option.some.inj hs
    rw [← importStatement_groupImport]
    exact mem_ordered.2 (List.mem_map_of_mem himport)

/-- A file needs no import for the classes of its own group. -/
theorem imports_own (name : String) : f.Imports ctx (.generated f.group name) := by
  intro s hs
  rw [TypeUse.statement?, if_pos rfl] at hs
  cases hs

/-- The text of a file is made of its package, its import statements, and its code. -/
theorem text_source (ctx : Context) (f : TypedFile) :
    (f.source ctx).text =
      render (s!"package {ctx.groupPackage f.group};" :: "" ::
        (f.importBlock ++ if f.importBlock.isEmpty then [] else [""]) ++ f.code.written) := rfl

end TypedFile

/-! ## Entities and transfer objects -/

namespace Entity

theorem complete {ctx : Context} {c : ClassNode} {f : TypedFile}
    (hf : typedFile ctx c = .ok f) : f.Complete ctx := by
  unfold typedFile at hf
  cases hfields : (ctx.membersOf c).scalars.mapM (typedScalarField c) with
  | error e =>
    rw [hfields] at hf
    cases hf
  | ok scalarFields =>
    rw [hfields] at hf
    obtain rfl := Except.ok.inj hf
    let f : TypedFile := ⟨.entities, c.name, imports ctx c, typedCode ctx c scalarFields⟩
    have hscalars : ∀ m ∈ (ctx.membersOf c).scalars, f.Imports ctx (.value m.javaType) :=
      fun m hm => TypedFile.imports_value (fun _ h => List.mem_append_right _ h)
        (List.mem_append_left _ (List.mem_map_of_mem hm))
    have hkeys : ∀ r ∈ (ctx.membersOf c).references, f.Imports ctx (.value r.targetKey.javaType) :=
      fun r hr => TypedFile.imports_value (fun _ h => List.mem_append_right _ h)
        (List.mem_append_right _ (List.mem_map_of_mem hr))
    have hcodes : ∀ code ∈ scalarFields, code.AllTypes (f.Imports ctx) := by
      intro code hcode
      obtain ⟨m, hm, hfield⟩ := exists_of_forall₂ (mapM_eq_ok_iff.1 hfields).flip hcode
      exact allTypes_scalarField hfield (hscalars m hm)
    exact allTypes_typedCode (fun name => TypedFile.imports_own name) hcodes hscalars hkeys

end Entity

namespace JoinEntity

theorem complete (ctx : Context) (t : AssociationTable) : (typedFile ctx t).Complete ctx := by
  have htypes : JavaType.imports ((keyColumns ctx t).map (·.javaType) ++
      (extras t).map (·.javaType)) ⊆ (typedFile ctx t).imports :=
    fun _ h => List.mem_append_right _ h
  exact allTypes_typedFile (fun name => TypedFile.imports_own name)
    (fun k hk => TypedFile.imports_value htypes (List.mem_append_left _ (List.mem_map_of_mem hk)))
    (fun e he => TypedFile.imports_value htypes (List.mem_append_right _ (List.mem_map_of_mem he)))

end JoinEntity

namespace Dto

theorem complete (ctx : Context) (c : ClassNode) : (typedFile ctx c).Complete ctx := by
  refine allTypes_typedFile (fun name => TypedFile.imports_own name) fun field hfield =>
    TypedFile.imports_value (fun _ h => List.mem_cons_of_mem _ h) ?_
  rcases List.mem_append.1 hfield with hfield | hfield
  · obtain ⟨m, hm, rfl⟩ := List.mem_map.1 hfield
    exact List.mem_append_left _ (List.mem_map_of_mem hm)
  · obtain ⟨r, hr, hfield⟩ := List.mem_filterMap.1 hfield
    obtain ⟨name, hname, rfl⟩ := Option.map_eq_some_iff.1 hfield
    have hpresent : r.dtoFieldName.isSome = true := by rw [hname, Option.isSome_some]
    exact List.mem_append_right _ (List.mem_map_of_mem (List.mem_filter.2 ⟨hr, hpresent⟩))

end Dto

/-! ## Mappers, repositories and services -/

theorem Mapper.complete (ctx : Context) (c : ClassNode) : (typedFile ctx c).Complete ctx := by
  refine allTypes_typedFile (TypedFile.imports_own _) (TypedFile.imports_generated ?_)
    (TypedFile.imports_generated ?_) fun m hm => TypedFile.imports_generated ?_
  · exact List.mem_append_left _ (List.mem_cons_of_mem _ List.mem_cons_self)
  · exact List.mem_append_left _ List.mem_cons_self
  · exact List.mem_append_right _ (List.mem_map_of_mem hm)

/-- The type of the parameter of a query is that of a column with queries, that of the key of a
referenced entity, or a referenced entity. -/
theorem Members.allTypes_query {P : TypeUse → Prop} {m : Members} {limit : Int}
    (hscalars : ∀ s ∈ m.queried limit, P (.value s.javaType))
    (hkeys : ∀ r ∈ m.references, P (.value r.targetKey.javaType))
    (htargets : ∀ r ∈ m.references, P (.generated .entities r.target.name)) {q : Query}
    (hq : q ∈ m.repositoryQueries limit) : q.type.use.AllTypes P := by
  rcases mem_repositoryQueries.1 hq with ⟨s, hs, verb, rfl⟩ | ⟨r, hr, ⟨verb, rfl⟩ | hkey⟩
  · exact hscalars s hs
  · exact htargets r hr
  · obtain ⟨field, -, rfl⟩ := Option.map_eq_some_iff.1 hkey
    exact hkeys r hr

theorem Repository.complete (ctx : Context) (c : ClassNode) : (typedFile ctx c).Complete ctx := by
  have htypes : JavaType.imports ((ctx.entityKey c).javaType :: (ctx.queried c).map (·.javaType) ++
      (ctx.membersOf c).references.map (·.targetKey.javaType)) ⊆ (typedFile ctx c).imports :=
    fun _ h => List.mem_append_right _ h
  have htargets : ∀ r ∈ (ctx.membersOf c).references,
      (typedFile ctx c).Imports ctx (.generated .entities r.target.name) :=
    fun r hr => TypedFile.imports_generated
      (List.mem_append_left _ (List.mem_append_left _
        (List.mem_append_right _ (List.mem_map_of_mem hr))))
  refine allTypes_typedFile (TypedFile.imports_own _) (TypedFile.imports_generated ?_)
    (TypedFile.imports_value htypes List.mem_cons_self) fun q hq =>
      Members.allTypes_query (fun s hs => TypedFile.imports_value htypes ?_)
        (fun r hr => TypedFile.imports_value htypes ?_) htargets (mem_queries.1 hq).1
  · exact List.mem_append_left _ (List.mem_append_left _
      (List.mem_append_left _ List.mem_cons_self))
  · exact List.mem_append_left _ (List.mem_cons_of_mem _ (List.mem_map_of_mem hs))
  · exact List.mem_append_right _ (List.mem_map_of_mem hr)

namespace Service

/-- The types that the queries of a service speak of are imported with those of keys and columns and
with the entities. -/
theorem imports_queries {ctx : Context} {c : ClassNode} {f : TypedFile}
    (htypes : JavaType.imports (valueTypes ctx c) ⊆ f.imports)
    (hentities : entityImports ctx c ⊆ f.imports) :
    ∀ q ∈ queries ctx c, q.type.use.AllTypes (f.Imports ctx) := by
  intro q hq
  refine Members.allTypes_query (fun s hs => TypedFile.imports_value htypes ?_)
    (fun r hr => TypedFile.imports_value htypes ?_)
    (fun r hr => TypedFile.imports_generated (hentities ?_))
    (Members.serviceQueries_subset (mem_queries.1 hq).1)
  · exact List.mem_append_left _ (List.mem_cons_of_mem _ (List.mem_map_of_mem hs))
  · exact List.mem_append_right _ (List.mem_map_of_mem hr)
  · exact List.mem_cons_of_mem _ (List.mem_map_of_mem hr)

theorem complete (ctx : Context) (c : ClassNode) : (typedFile ctx c).Complete ctx := by
  have htypes : JavaType.imports (valueTypes ctx c) ⊆ (typedFile ctx c).imports :=
    fun _ h => List.mem_append_right _ h
  have hentities : entityImports ctx c ⊆ (typedFile ctx c).imports :=
    fun _ h => List.mem_append_left _ (List.mem_append_left _ h)
  exact allTypes_typedFile (TypedFile.imports_generated (hentities List.mem_cons_self))
    (TypedFile.imports_own _) (TypedFile.imports_value htypes List.mem_cons_self)
    (imports_queries htypes hentities)

theorem complete_implementation (ctx : Context) (c : ClassNode) :
    (typedImplementation ctx c).Complete ctx := by
  let f := typedImplementation ctx c
  have htypes : JavaType.imports (valueTypes ctx c) ⊆ f.imports :=
    fun _ h => List.mem_append_right _ h
  have hentities : entityImports ctx c ⊆ f.imports :=
    fun _ h => List.mem_append_left _ (List.mem_append_left _
      (List.mem_append_left _ (List.mem_append_left _ h)))
  have haccesses : ∀ a ∈ Access.of c.name :: relatedAccess c (resolved ctx c).value,
      f.Imports ctx (.generated .repositories a.type) :=
    fun a ha => TypedFile.imports_generated (List.mem_append_left _ (List.mem_append_left _
      (List.mem_append_right _ (List.mem_map_of_mem ha))))
  have htargets : ∀ r ∈ (resolved ctx c).value,
      f.Imports ctx (.generated .entities r.target.name) :=
    fun r hr => TypedFile.imports_generated (List.mem_append_left _ (List.mem_append_left _
      (List.mem_append_left _ (List.mem_append_right _ (List.mem_map_of_mem hr)))))
  exact allTypes_typedImplementation (TypedFile.imports_own _) (TypedFile.imports_own _)
    (TypedFile.imports_generated (hentities List.mem_cons_self))
    (TypedFile.imports_value htypes List.mem_cons_self) (imports_queries htypes hentities)
    haccesses htargets

end Service

/-! ## Controllers -/

theorem Controller.complete (ctx : Context) (c : ClassNode) : (typedFile ctx c).Complete ctx := by
  let f := typedFile ctx c
  have hfixed : ∀ s ∈ [ctx.groupImport .entities c.name, ctx.groupImport .dto (dtoName c.name),
      ctx.groupImport .mappers (c.name ++ "Mapper"),
      ctx.groupImport .services (c.name ++ "Service")], s ∈ f.imports := by
    intro s hs
    refine List.mem_append_left _ (List.mem_append_left _ (List.mem_append_left _ ?_))
    exact List.mem_append_left ["jakarta.persistence.EntityNotFoundException", _, _, _, _, _, _] hs
  have htypes : JavaType.imports ((ctx.entityKey c).javaType ::
      (scalarSearches ctx c).map (·.type) ++ (referenceSearches ctx c).map (·.type)) ⊆ f.imports :=
    fun _ h => List.mem_append_right _ h
  obtain ⟨hentity, hdto, hmapper, hservice, -⟩ := by
    simpa only [List.forall_mem_cons] using hfixed
  refine allTypes_typedFile (TypedFile.imports_own _) (TypedFile.imports_generated hservice)
    (TypedFile.imports_generated hmapper) (TypedFile.imports_generated hentity)
    (TypedFile.imports_generated hdto) (TypedFile.imports_value htypes List.mem_cons_self)
    (fun s hs => TypedFile.imports_value htypes ?_)
    (fun s hs => TypedFile.imports_value htypes ?_) fun r hr => TypedFile.imports_generated ?_
  · exact List.mem_append_left _ (List.mem_cons_of_mem _ (List.mem_map_of_mem hs))
  · exact List.mem_append_right _ (List.mem_map_of_mem hs)
  · exact List.mem_append_left _ (List.mem_append_right _ (List.mem_map_of_mem hr))

/-! ## All files -/

namespace Context

/-- The files of a group for a class, without the entity. -/
def typedFilesOf (ctx : Context) (c : ClassNode) : Group → List TypedFile
  | .entities => []
  | .dto => [Dto.typedFile ctx c]
  | .mappers => [Mapper.typedFile ctx c]
  | .repositories => [Repository.typedFile ctx c]
  | .services => [Service.typedFile ctx c, Service.typedImplementation ctx c]
  | .controllers => [Controller.typedFile ctx c]

/-- The files that follow the entities of the classes. -/
def typedLater (ctx : Context) : List TypedFile :=
  ctx.diagram.associationTables.map (JoinEntity.typedFile ctx) ++
    laterGroups.flatMap fun g => ctx.diagram.classes.flatMap (ctx.typedFilesOf · g)

/-- All files of a context, with the types in their code. -/
def typed (ctx : Context) : Except Constraint.HugeLength (List TypedFile) :=
  (· ++ ctx.typedLater) <$> ctx.diagram.classes.mapM (Entity.typedFile ctx)

theorem map_artifact_typedFilesOf (ctx : Context) (c : ClassNode) (g : Group) :
    (ctx.typedFilesOf c g).map (TypedFile.artifact ctx) = ctx.filesOf c g := by
  cases g <;>
    simp only [typedFilesOf, filesOf, List.map_cons, List.map_nil, Dto.artifact_typedFile,
      Mapper.artifact_typedFile, Repository.artifact_typedFile, Service.artifact_typedFile,
      Service.artifact_typedImplementation, Controller.artifact_typedFile]

theorem map_artifact_typedLater (ctx : Context) :
    ctx.typedLater.map (TypedFile.artifact ctx) = ctx.later.map OwnedArtifact.artifact := by
  simp only [typedLater, later, joinArtifacts, List.map_append, List.map_map, List.map_flatMap,
    map_artifact_typedFilesOf, map_artifact_ownedFiles, Function.comp_def,
    JoinEntity.artifact_typedFile]

/-- The files with the types in their code are those that are generated. -/
theorem map_artifact_typed (ctx : Context) :
    List.map (TypedFile.artifact ctx) <$> ctx.typed = ctx.artifacts.run.value := by
  have hentities : ctx.diagram.classes.mapM ctx.entityArtifact =
      List.map (TypedFile.artifact ctx) <$> ctx.diagram.classes.mapM (Entity.typedFile ctx) := by
    rw [map_mapM_except]
    exact mapM_congr fun c _ => Entity.entityArtifact_eq ctx c
  rw [value_artifacts, hentities, ← map_artifact_typedLater, typed]
  cases ctx.diagram.classes.mapM (Entity.typedFile ctx) with
  | error e => rfl
  | ok entities => exact congrArg Except.ok List.map_append

theorem complete_typedFilesOf (ctx : Context) (c : ClassNode) (g : Group) :
    ∀ f ∈ ctx.typedFilesOf c g, f.Complete ctx := by
  cases g with
  | entities => exact List.forall_mem_nil _
  | dto => exact List.forall_mem_singleton.2 (Dto.complete ctx c)
  | mappers => exact List.forall_mem_singleton.2 (Mapper.complete ctx c)
  | repositories => exact List.forall_mem_singleton.2 (Repository.complete ctx c)
  | services =>
    exact List.forall_mem_cons.2
      ⟨Service.complete ctx c, List.forall_mem_singleton.2 (Service.complete_implementation ctx c)⟩
  | controllers => exact List.forall_mem_singleton.2 (Controller.complete ctx c)

theorem complete_typed {ctx : Context} {files : List TypedFile} (hfiles : ctx.typed = .ok files)
    {f : TypedFile} (hf : f ∈ files) : f.Complete ctx := by
  unfold typed at hfiles
  cases hentities : ctx.diagram.classes.mapM (Entity.typedFile ctx) with
  | error e =>
    rw [hentities] at hfiles
    cases hfiles
  | ok entities =>
    rw [hentities] at hfiles
    obtain rfl := Except.ok.inj hfiles
    rcases List.mem_append.1 hf with hf | hf
    · obtain ⟨c, -, hc⟩ := exists_of_forall₂ (mapM_eq_ok_iff.1 hentities).flip hf
      exact Entity.complete hc
    rcases List.mem_append.1 hf with hf | hf
    · obtain ⟨t, -, rfl⟩ := List.mem_map.1 hf
      exact JoinEntity.complete ctx t
    obtain ⟨g, -, hf⟩ := List.mem_flatMap.1 hf
    obtain ⟨c, -, hf⟩ := List.mem_flatMap.1 hf
    exact complete_typedFilesOf ctx c g f hf

end Context

/-- The import statements of every generated file are strictly increasing, and they import every
type in the code of the file that has to be imported: a type of values, or a generated class of
another group. -/
theorem imports_complete (d : Diagram) (basePackage : String) (queryLimit : Int) :
    let ctx := (Context.build d basePackage queryLimit).value
    (d.generate basePackage queryLimit).run.value =
        List.map (TypedFile.artifact ctx) <$> ctx.typed ∧
      ∀ files, ctx.typed = .ok files → ∀ f ∈ files,
        (f.artifact ctx).content =
          render (s!"package {ctx.groupPackage f.group};" :: "" ::
            (f.importBlock ++ if f.importBlock.isEmpty then [] else [""]) ++ f.code.written) ∧
        f.importBlock.Pairwise (· < ·) ∧
        f.code.AllTypes fun use => ∀ s ∈ use.statement? ctx f.group, s ∈ f.importBlock := by
  intro ctx
  refine ⟨?_, fun files hfiles f hf => ⟨f.text_source ctx, pairwise_ordered _, ?_⟩⟩
  · rw [fst_run_generate, Context.map_artifact_typed]
  · exact Context.complete_typed hfiles hf

example (ctx : Context) :
    (TypeUse.value .localDate).statement? ctx .dto = some "import java.time.LocalDate;" := by
  have hstatement : importStatement "java.time.LocalDate" = "import java.time.LocalDate;" := by
    decide
  exact congrArg some hstatement

end Scaffold
