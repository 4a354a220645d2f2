import Scaffold.Proofs.Calls
import Scaffold.Proofs.Places
import Scaffold.Proofs.RoundTrip

/-!
# Stages that report problems

A document is read, its diagram is analysed and linted, and files are generated. Every finding
belongs to one of these stages (`Finding.stage?`), and a stage reports no finding of another. So
the diagnostics of a compilation fall into four parts, and whether a finding is among them is
decided by the part of its stage.

The analysis collects its diagnostics in the state of `Resolve`. `Resolve.Reports` says that a
computation there only adds to them, and has a rule for each way in which computations are put
together.

Main statements: `Stage.onlyFrom_notes` (a stage reports its own findings only), `notes_of_compile`
(the diagnostics of a compilation are those of its stages) and `mem_notes_of_compile` (each is one
of the stage of its finding).
-/

namespace Scaffold

/-- The stages of a compilation that report problems. -/
inductive Stage where
  /-- Reading the document. -/
  | reading
  /-- Making the context of generation. -/
  | analysis
  /-- Looking for problems of the diagram. -/
  | lint
  /-- Generating the files. -/
  | generation
  deriving DecidableEq

/-- The stage that a finding belongs to. Remarks in free words belong to none. -/
def Finding.stage? : Finding → Option Stage
  | .namelessAttribute .. | .looseConnection .. => some .reading
  | .unclearParent .. | .looseInheritance .. | .inheritanceCycle .. | .unknownType ..
  | .manyAtBothEnds .. | .manyToItself .. | .unknownTable .. | .fieldTaken .. | .idFieldTaken ..
  | .idQueryTaken .. | .unmappedCollection .. | .collectionTaken .. | .ownerless .. =>
    some .analysis
  | .repeatedName .. | .missingKey .. | .aimlessForeignKey .. | .unknownReference ..
  | .looseEnd .. | .fewForeignKeys .. => some .lint
  | .misfitDefault .. | .noKeySetter .. | .noConversion .. | .unknownKeyTarget ..
  | .keyOutOfSync .. | .unmappedToDto .. | .unmappedToEntity .. | .unresolvable ..
  | .notCopied .. | .notNavigable .. => some .generation
  | .remark .. => none

/-- Whether all diagnostics of a list belong to a stage. -/
def OnlyFrom (stage : Stage) (notes : List Diagnostic) : Prop :=
  ∀ n ∈ notes, n.finding.stage? = some stage

section OnlyFrom

variable {stage : Stage} {α : Type}

theorem onlyFrom_nil : OnlyFrom stage [] := fun _ hn => absurd hn List.not_mem_nil

theorem onlyFrom_singleton {n : Diagnostic} (hn : n.finding.stage? = some stage) :
    OnlyFrom stage [n] := List.forall_mem_singleton.2 hn

theorem OnlyFrom.append {notes notes' : List Diagnostic} (h : OnlyFrom stage notes)
    (h' : OnlyFrom stage notes') : OnlyFrom stage (notes ++ notes') :=
  List.forall_mem_append.2 ⟨h, h'⟩

theorem onlyFrom_ite {p : Prop} [Decidable p] {notes notes' : List Diagnostic}
    (h : OnlyFrom stage notes) (h' : OnlyFrom stage notes') :
    OnlyFrom stage (if p then notes else notes') := by
  split
  · exact h
  · exact h'

theorem onlyFrom_flatMap {f : α → List Diagnostic} {l : List α}
    (h : ∀ a, OnlyFrom stage (f a)) : OnlyFrom stage (l.flatMap f) := by
  intro n hn
  obtain ⟨a, -, hn⟩ := List.mem_flatMap.1 hn
  exact h a n hn

theorem onlyFrom_filterMap {f : α → Option Diagnostic} {l : List α}
    (h : ∀ a n, f a = some n → n.finding.stage? = some stage) :
    OnlyFrom stage (l.filterMap f) := by
  intro n hn
  obtain ⟨a, -, hn⟩ := List.mem_filterMap.1 hn
  exact h a n hn

theorem onlyFrom_bind {β : Type} {x : Noted α} {f : α → Noted β} (hx : OnlyFrom stage x.notes)
    (hf : ∀ a, OnlyFrom stage (f a).notes) : OnlyFrom stage (x >>= f).notes := hx.append (hf _)

end OnlyFrom

/-! ## Reading -/

namespace Document

theorem onlyFrom_attributeNotes (label : String) (attributes : List (Option Attribute)) :
    OnlyFrom .reading (attributeNotes label attributes) := by
  refine onlyFrom_filterMap fun p n hn => ?_
  split at hn
  · cases hn
    rfl
  · cases hn

theorem onlyFrom_connectionNotes (connections : List Connection) :
    OnlyFrom .reading (connectionNotes connections) := by
  refine onlyFrom_filterMap fun p n hn => ?_
  split at hn
  · cases hn
    rfl
  · cases hn

theorem onlyFrom_readClass {fields : Json.Fields} {index : Nat} {n : Noted ClassNode}
    (hread : readClass fields index = .ok n) : OnlyFrom .reading n.notes := by
  obtain ⟨-, -, attributes, -, -, hnotes⟩ := readClass_inv hread
  rw [hnotes]
  exact onlyFrom_attributeNotes _ _

theorem onlyFrom_readElement {index : Nat} {v : Json.Value} {n : Noted ClassNode}
    (hread : readElement index v = .ok (some n)) : OnlyFrom .reading n.notes := by
  obtain ⟨fields, -, hclass⟩ := readClass_of_readElement hread
  exact onlyFrom_readClass hclass

end Document

/-- Reading a document reports nothing but what is left out of it. -/
theorem onlyFrom_parse {source : Document.Source} {d : Noted Diagram}
    (hread : Diagram.parse source = .ok d) : OnlyFrom .reading d.notes := by
  obtain ⟨fields, -, hread⟩ := Except.bind_eq_ok.1 hread
  unfold Document.readDiagram at hread
  obtain ⟨elements, -, hread⟩ := Except.bind_eq_ok.1 hread
  obtain ⟨connections, -, hread⟩ := Except.bind_eq_ok.1 hread
  obtain ⟨read, helements, hread⟩ := Except.bind_eq_ok.1 hread
  obtain ⟨edges, -, hread⟩ := Except.bind_eq_ok.1 hread
  cases hread
  refine .append (fun note hnote => ?_) (Document.onlyFrom_connectionNotes edges)
  obtain ⟨n, hn, hnote⟩ := List.mem_flatMap.1 hnote
  obtain ⟨o, ho, rfl⟩ := List.mem_filterMap.1 hn
  obtain ⟨p, -, hp⟩ := exists_of_mem_mapM helements ho
  exact Document.onlyFrom_readElement hp note hnote

/-! ## Analysis -/

namespace Resolve

variable {stage : Stage} {α β : Type}

/-- A computation keeps the diagnostics that there are, and adds none but those of a stage. -/
def Reports (stage : Stage) (x : Resolve α) : Prop :=
  ∀ s, ∃ notes, (x.run s).2.notes = s.notes ++ notes ∧ OnlyFrom stage notes

theorem reports_of_notes_eq {x : Resolve α} (hx : ∀ s, (x.run s).2.notes = s.notes) :
    Reports stage x :=
  fun s => ⟨[], (hx s).trans (List.append_nil _).symm, onlyFrom_nil⟩

theorem reports_pure (a : α) : Reports stage (pure a : Resolve α) :=
  reports_of_notes_eq fun _ => rfl

theorem reports_get : Reports stage (get : Resolve Resolution) := reports_of_notes_eq fun _ => rfl

theorem reports_rememberKey (id : String) (key : PrimaryKey) :
    Reports stage (rememberKey id key) := reports_of_notes_eq fun _ => rfl

theorem reports_rememberMembers (id : String) (members : Members) :
    Reports stage (rememberMembers id members) := reports_of_notes_eq fun _ => rfl

theorem reports_noted {x : Noted α} (hx : OnlyFrom stage x.notes) : Reports stage (noted x) :=
  fun _ => ⟨x.notes, rfl, hx⟩

theorem reports_note {finding : Finding} (hfinding : finding.stage? = some stage)
    (classId field : Option String) : Reports stage (note finding classId field) :=
  fun _ => ⟨_, rfl, onlyFrom_singleton hfinding⟩

theorem Reports.bind {x : Resolve α} {f : α → Resolve β} (hx : Reports stage x)
    (hf : ∀ a, Reports stage (f a)) : Reports stage (x >>= f) := by
  intro s
  obtain ⟨notes, hnotes, honly⟩ := hx s
  obtain ⟨notes', hnotes', honly'⟩ := hf (x.run s).1 (x.run s).2
  refine ⟨notes ++ notes', ?_, honly.append honly'⟩
  rw [← List.append_assoc, ← hnotes]
  exact hnotes'

theorem Reports.map {x : Resolve α} (hx : Reports stage x) (f : α → β) :
    Reports stage (f <$> x) := hx

theorem reports_foldlM {f : β → α → Resolve β} {l : List α} {b : β}
    (hf : ∀ b a, Reports stage (f b a)) : Reports stage (l.foldlM f b) := by
  induction l generalizing b with
  | nil => exact reports_pure b
  | cons a rest ih =>
    rw [List.foldlM_cons]
    exact (hf b a).bind fun _ => ih

theorem reports_forIn {f : α → PUnit → Resolve (ForInStep PUnit)} {l : List α}
    (hf : ∀ a u, Reports stage (f a u)) (u : PUnit) : Reports stage (forIn l u f) := by
  induction l generalizing u with
  | nil => exact reports_pure u
  | cons a rest ih =>
    rw [List.forIn_cons]
    refine (hf a u).bind fun r => ?_
    cases r with
    | done u => exact reports_pure u
    | yield u => exact ih u

variable {h : Hierarchy}

theorem reports_keyAlong (path : List ClassNode) : Reports stage (keyAlong path) := by
  induction path with
  | nil => exact reports_pure _
  | cons c rest ih =>
    have hremember : ∀ key, Reports stage (do rememberKey c.id key; return key) :=
      fun key => (reports_rememberKey c.id key).bind fun _ => reports_pure key
    rw [keyAlong]
    refine reports_get.bind fun s => ?_
    cases s.keys.lookup c.id with
    | some key => exact reports_pure key
    | none =>
      cases c.ownKey? with
      | some key => exact (reports_pure key).bind hremember
      | none => exact ih.bind hremember

theorem reports_primaryKey (c : ClassNode) : Reports stage (primaryKey h c) := reports_keyAlong _

theorem reports_entityKey (c : ClassNode) : Reports stage (entityKey h c) := reports_primaryKey _

theorem reports_placeAttribute (c : ClassNode) (m : Members) (a : Attribute) (field : String) :
    Reports .analysis (placeAttribute h c m a field) := by
  unfold placeAttribute
  split
  · exact (reports_note rfl _ _).bind fun _ => reports_pure m
  · split
    · exact (reports_entityKey _).bind fun _ => reports_pure _
    · exact reports_pure _

theorem reports_addAttribute (c : ClassNode) (m : Members) (a : Attribute) :
    Reports .analysis (addAttribute h c m a) := by
  unfold addAttribute
  split
  · exact reports_pure m
  · split
    · exact ((reports_primaryKey c).map _).bind (reports_placeAttribute c m a)
    · exact (reports_pure _).bind (reports_placeAttribute c m a)

end Resolve

theorem onlyFrom_settleReferences (c : ClassNode) (fields taken : List String)
    (references : List ReferenceMember) :
    OnlyFrom .analysis (settleReferences c fields taken references).notes := by
  induction references generalizing taken with
  | nil => exact onlyFrom_nil
  | cons r rest ih =>
    have hrest : ∀ taken settled, OnlyFrom .analysis
        (settleReferences c fields taken rest >>= fun others => pure (settled :: others)).notes :=
      fun taken _ => onlyFrom_bind (ih taken) fun _ => onlyFrom_nil
    have hnoted : ∀ {finding : Finding} {x : Noted (List ReferenceMember)},
        finding.stage? = some .analysis → OnlyFrom .analysis x.notes →
          OnlyFrom .analysis (Noted.note finding c.id r.attr.name >>= fun _ => x).notes :=
      fun hfinding hx => onlyFrom_bind (onlyFrom_singleton hfinding) fun _ => hx
    rw [settleReferences]
    dsimp only
    split
    · split
      · exact hnoted rfl (hnoted rfl (hrest _ _))
      · exact hnoted rfl (hrest _ _)
    · split
      · exact hnoted rfl (hrest _ _)
      · exact hrest _ _

theorem Hierarchy.onlyFrom_ownerNotes (h : Hierarchy) (table : List (String × Members))
    (c : ClassNode) : OnlyFrom .analysis (h.ownerNotes table c) := by
  refine onlyFrom_filterMap fun l n hn => ?_
  obtain ⟨finding, hfinding, rfl⟩ := Option.map_eq_some_iff.1 hn
  unfold ownerObstacle? at hfinding
  grind [Finding.stage?]

namespace Resolve

variable {h : Hierarchy}

theorem reports_membersAlong (path : List ClassNode) :
    Reports .analysis (membersAlong h path) := by
  induction path with
  | nil => exact reports_pure _
  | cons c rest ih =>
    rw [membersAlong]
    refine reports_get.bind fun s => ?_
    cases s.members.lookup c.id with
    | some members => exact reports_pure members
    | none =>
      refine (reports_foldlM (reports_addAttribute c)).bind fun own => ih.bind fun _ => ?_
      refine reports_get.bind fun s => ?_
      refine (reports_noted (onlyFrom_settleReferences _ _ _ _)).bind fun references => ?_
      exact (reports_rememberMembers _ _).bind fun _ => reports_pure _

theorem reports_membersOf (c : ClassNode) : Reports .analysis (membersOf h c) :=
  reports_membersAlong _

theorem reports_noteObstacle (c : ClassNode) (field : String) {finding : Option Finding}
    (hfinding : ∀ f, finding = some f → f.stage? = some .analysis) :
    Reports .analysis (noteObstacle c field finding) := by
  cases finding with
  | none => exact reports_pure _
  | some f => exact reports_note (hfinding f rfl) _ _

theorem reports_planCollections (c : ClassNode) : Reports .analysis (planCollections h c) := by
  unfold planCollections
  refine (reports_membersOf c).bind fun _ => ?_
  refine (reports_forIn (fun l _ => ?_) _).bind fun _ => reports_get.bind fun s => ?_
  · refine (reports_membersOf _).bind fun _ => reports_get.bind fun s => ?_
    refine (reports_noteObstacle _ _ fun f hf => ?_).bind fun _ => reports_pure _
    unfold Hierarchy.oneToManyObstacle? at hf
    grind [Finding.stage?]
  · refine (reports_forIn (fun l _ => ?_) _).bind fun _ => reports_pure _
    refine (reports_noteObstacle _ _ fun f hf => ?_).bind fun _ => reports_pure _
    unfold Hierarchy.manyToManyObstacle? at hf
    grind [Finding.stage?]

theorem reports_resolveAll : Reports .analysis (Context.resolveAll h) := by
  unfold Context.resolveAll
  refine (reports_forIn (fun c _ => ?_) _).bind fun _ => reports_get.bind fun s => ?_
  · exact (reports_planCollections c).bind fun _ => reports_pure _
  refine (reports_forIn (fun c _ => ?_) _).bind fun _ => ?_
  · exact (reports_noted (h.onlyFrom_ownerNotes _ c)).bind fun _ => reports_pure _
  refine (reports_forIn (fun c _ => ?_) _).bind fun _ => ?_
  · exact (reports_entityKey c).bind fun _ => reports_pure _
  refine (reports_forIn (fun c _ => ?_) _).bind fun _ => reports_pure _
  exact (reports_primaryKey c).bind fun _ => reports_pure _

end Resolve

theorem onlyFrom_hierarchy (d : Diagram) : OnlyFrom .analysis (Hierarchy.ofDiagram d).notes := by
  refine onlyFrom_filterMap fun p n hn => ?_
  cases ho : p.2 with
  | unclear | loose | cyclic =>
    rw [ho] at hn
    cases hn
    rfl
  | settled | linked =>
    rw [ho] at hn
    cases hn

theorem onlyFrom_relationNotes (d : Diagram) : OnlyFrom .analysis d.allRelationNotes := by
  refine onlyFrom_flatMap fun r => .append ?_ ?_
  · exact onlyFrom_ite onlyFrom_nil (onlyFrom_singleton rfl)
  · exact onlyFrom_ite (onlyFrom_singleton rfl) onlyFrom_nil

theorem onlyFrom_pairNotes (d : Diagram) (c : ClassNode) :
    OnlyFrom .analysis (Hierarchy.pairNotes d c) := by
  refine onlyFrom_filterMap fun candidate n hn => ?_
  unfold Hierarchy.PairCandidate.note? at hn
  grind [Finding.stage?]

/-- Making a context reports which edges, members and collections are left out of it. -/
theorem onlyFrom_build (d : Diagram) (basePackage : String) (queryLimit : Int) :
    OnlyFrom .analysis (Context.build d basePackage queryLimit).notes := by
  obtain ⟨notes, hnotes, honly⟩ :=
    Resolve.reports_resolveAll (h := (Hierarchy.ofDiagram d).value) {}
  rw [List.nil_append] at hnotes
  refine .append ?_ (hnotes ▸ honly)
  exact ((onlyFrom_hierarchy d).append (onlyFrom_relationNotes d)).append
    (onlyFrom_flatMap (onlyFrom_pairNotes d))

/-! ## Lint -/

namespace Diagram

theorem onlyFrom_nameNotes (earlier : List ClassNode) (c : ClassNode) :
    OnlyFrom .lint (nameNotes earlier c) := by
  unfold nameNotes
  split
  · exact onlyFrom_singleton rfl
  · exact onlyFrom_nil

theorem onlyFrom_keyNotes (childIds : List String) (c : ClassNode) :
    OnlyFrom .lint (keyNotes childIds c) :=
  onlyFrom_ite (onlyFrom_singleton rfl) onlyFrom_nil

theorem stage_foreignKeyNote {d : Diagram} {c : ClassNode} {a : Attribute} {n : Diagnostic}
    (hn : d.foreignKeyNote? c a = some n) : n.finding.stage? = some .lint := by
  unfold foreignKeyNote? at hn
  grind [Finding.stage?]

theorem onlyFrom_classNotes (d : Diagram) (childIds : List String)
    (earlier classes : List ClassNode) :
    OnlyFrom .lint (d.classNotes childIds earlier classes) := by
  induction classes generalizing earlier with
  | nil => exact onlyFrom_nil
  | cons c rest ih =>
    refine .append (.append (.append ?_ ?_) ?_) (ih _)
    · exact onlyFrom_nameNotes earlier c
    · exact onlyFrom_keyNotes childIds c
    · exact onlyFrom_filterMap fun _ _ => stage_foreignKeyNote

/-- Lint reports problems of the diagram itself. -/
theorem onlyFrom_lint (d : Diagram) (childIds : List String) :
    OnlyFrom .lint (d.lint childIds) := by
  refine .append (.append (d.onlyFrom_classNotes childIds [] d.classes) ?_) ?_
  · refine onlyFrom_flatMap fun r => onlyFrom_filterMap fun place n hn => ?_
    unfold endNote? at hn
    grind [Finding.stage?]
  · refine onlyFrom_filterMap fun t n hn => ?_
    unfold tableNote? at hn
    grind [Finding.stage?]

end Diagram

/-! ## Generation -/

theorem Noted.notes_mapM {α β : Type} (f : α → Noted β) (l : List α) :
    (l.mapM f).notes = l.flatMap fun a => (f a).notes := by
  induction l with
  | nil => rfl
  | cons a rest ih =>
    rw [List.mapM_cons, List.flatMap_cons, ← ih, Noted.notes_bind, Noted.notes_bind,
      Noted.notes_pure, List.append_nil]

theorem onlyFrom_mapM {stage : Stage} {α β : Type} {f : α → Noted β} {l : List α}
    (hf : ∀ a, OnlyFrom stage (f a).notes) : OnlyFrom stage (l.mapM f).notes := by
  rw [Noted.notes_mapM]
  exact onlyFrom_flatMap hf

namespace Generation

variable {stage : Stage} {α β : Type}

/-- What is read off tables reports nothing. -/
theorem onlyFrom_except (x : Except Constraint.HugeLength α) :
    OnlyFrom stage (liftM x : Generation α).run.notes := by
  cases x <;> exact onlyFrom_nil

theorem onlyFrom_noted {x : Noted α} (hx : OnlyFrom stage x.notes) :
    OnlyFrom stage (liftM x : Generation α).run.notes := by
  have hlift : (liftM x : Generation α).run.notes = x.notes := Noted.notes_map _ _
  rwa [hlift]

theorem onlyFrom_bind {x : Generation α} {f : α → Generation β}
    (hx : OnlyFrom stage x.run.notes) (hf : ∀ a, OnlyFrom stage (f a).run.notes) :
    OnlyFrom stage (x >>= f).run.notes := by
  rw [ExceptT.run_bind, Noted.notes_bind]
  refine hx.append ?_
  cases x.run.value with
  | error e => exact onlyFrom_nil
  | ok a => exact hf a

theorem onlyFrom_mapM {f : α → Generation β} {l : List α}
    (hf : ∀ a, OnlyFrom stage (f a).run.notes) : OnlyFrom stage (l.mapM f).run.notes := by
  induction l with
  | nil => exact onlyFrom_nil
  | cons a rest ih =>
    rw [List.mapM_cons]
    exact onlyFrom_bind (hf a) fun _ => onlyFrom_bind ih fun _ => onlyFrom_nil

end Generation

namespace Context

variable {ctx : Context}

theorem onlyFrom_entity (c : ClassNode) : OnlyFrom .generation (entity ctx c).run.notes := by
  have hinitializer : ∀ m, OnlyFrom .generation (Entity.initializer c m).notes := by
    intro m
    unfold Entity.initializer
    split
    · exact onlyFrom_nil
    · split
      · exact onlyFrom_nil
      · exact onlyFrom_bind (onlyFrom_singleton rfl) fun _ => onlyFrom_nil
  have hscalar : ∀ m, OnlyFrom .generation (Entity.scalarField c m).run.notes := fun m =>
    Generation.onlyFrom_bind (Generation.onlyFrom_except _) fun _ =>
      Generation.onlyFrom_bind (Generation.onlyFrom_except _) fun _ =>
        Generation.onlyFrom_bind (Generation.onlyFrom_except _) fun _ =>
          Generation.onlyFrom_bind (Generation.onlyFrom_noted (hinitializer m)) fun _ =>
            onlyFrom_nil
  have hsetters : OnlyFrom .generation (Entity.keySetters ctx c).notes := by
    refine onlyFrom_filterMap fun r n hn => ?_
    unfold Entity.keyObstacle? at hn
    split at hn
    · next hobstacle =>
      cases hn
      rw [eq_of_obstacle hobstacle]
      rfl
    · split at hn
      · cases hn
      · cases hn
        rfl
  have hfile : OnlyFrom .generation (Entity.file ctx c).run.notes :=
    Generation.onlyFrom_bind (Generation.onlyFrom_mapM hscalar) fun _ =>
      Generation.onlyFrom_bind (Generation.onlyFrom_noted hsetters) fun _ => onlyFrom_nil
  have hnotes : (entity ctx c).run.notes = (Entity.file ctx c).run.notes := by
    rw [entity, ExceptT.run_map, Noted.notes_map]
  rwa [hnotes]

theorem onlyFrom_joinEntity (t : AssociationTable) :
    OnlyFrom .generation (joinEntity ctx t).notes := by
  refine onlyFrom_bind (.append ?_ ?_) fun _ => onlyFrom_nil
  · refine onlyFrom_filterMap fun column n hn => ?_
    split at hn
    · cases hn
    · cases hn
      rfl
  · refine onlyFrom_filterMap fun r n hn => ?_
    rw [eq_of_obstacle hn]
    rfl

theorem onlyFrom_mapper (c : ClassNode) : OnlyFrom .generation (mapper ctx c).notes := by
  have hgap : ∀ field toDto toEntity,
      OnlyFrom .generation (Mapper.gapNotes c field toDto toEntity) := by
    intro field toDto toEntity
    refine .append ?_ ?_
    · exact onlyFrom_ite onlyFrom_nil (onlyFrom_singleton rfl)
    · exact onlyFrom_ite onlyFrom_nil (onlyFrom_singleton rfl)
  refine onlyFrom_bind (.append ?_ ?_) fun _ => onlyFrom_nil
  · exact onlyFrom_flatMap fun m => hgap _ _ _
  · refine onlyFrom_flatMap fun r => ?_
    unfold Mapper.referenceNotes
    split
    · exact hgap _ _ _
    · exact hgap _ _ _

theorem onlyFrom_service (c : ClassNode) :
    OnlyFrom .generation (serviceImplementation ctx c).notes := by
  have hresolved : OnlyFrom .generation (Service.resolved ctx c).notes := by
    refine onlyFrom_filterMap fun r n hn => ?_
    unfold Service.resolveObstacle? at hn
    split at hn
    · rw [eq_of_obstacle hn]
      rfl
    · cases hn
      rfl
  have hcopied : OnlyFrom .generation (Service.copied ctx c).notes := by
    refine onlyFrom_filterMap fun field n hn => ?_
    rw [eq_of_obstacle hn]
    rfl
  have hfile : OnlyFrom .generation (Service.implementationFile ctx c).notes :=
    onlyFrom_bind hresolved fun _ => onlyFrom_bind hcopied fun _ => onlyFrom_nil
  exact onlyFrom_bind hfile fun _ => onlyFrom_nil

theorem onlyFrom_controller (c : ClassNode) : OnlyFrom .generation (controller ctx c).notes := by
  have hnavigated : OnlyFrom .generation (Controller.navigated ctx c).notes := by
    refine onlyFrom_filterMap fun r n hn => ?_
    rw [eq_of_obstacle hn]
    rfl
  have hfile : OnlyFrom .generation (Controller.file ctx c).notes :=
    onlyFrom_bind hnavigated fun _ => onlyFrom_nil
  exact onlyFrom_bind hfile fun _ => onlyFrom_nil

/-- Generating files reports what is left out of them. -/
theorem onlyFrom_artifacts (ctx : Context) : OnlyFrom .generation ctx.artifacts.run.notes := by
  have hmap : ∀ {α : Type} {x : Noted α} (f : α → Artifact), OnlyFrom .generation x.notes →
      OnlyFrom .generation (f <$> x).notes := fun f hx => by rwa [Noted.notes_map]
  unfold artifacts
  refine Generation.onlyFrom_bind (Generation.onlyFrom_mapM fun c => ?_) fun entities => ?_
  · rw [ExceptT.run_map, Noted.notes_map]
    exact onlyFrom_entity c
  refine Generation.onlyFrom_bind (Generation.onlyFrom_noted ?_) fun joinEntities => ?_
  · exact onlyFrom_mapM fun t => hmap _ (onlyFrom_joinEntity t)
  refine Generation.onlyFrom_bind (Generation.onlyFrom_noted ?_) fun mappers => ?_
  · exact onlyFrom_mapM fun c => hmap _ (onlyFrom_mapper c)
  refine Generation.onlyFrom_bind (Generation.onlyFrom_noted ?_) fun services => ?_
  · exact onlyFrom_mapM fun c => onlyFrom_bind (onlyFrom_service c) fun _ => onlyFrom_nil
  refine Generation.onlyFrom_bind (Generation.onlyFrom_noted ?_) fun controllers => onlyFrom_nil
  exact onlyFrom_mapM fun c => hmap _ (onlyFrom_controller c)

end Context

/-! ## All stages -/

/-- The diagnostics of a generation are those of making the context, of lint and of generating the
files, in this order. -/
theorem Diagram.notes_generate (d : Diagram) (basePackage : String) (queryLimit : Int) :
    (d.generate basePackage queryLimit).run.notes =
      (Context.build d basePackage queryLimit).notes ++
        d.lint (Hierarchy.ofDiagram d).value.forest.childIds ++
        (Context.build d basePackage queryLimit).value.artifacts.run.notes := by
  have hlift : (liftM (d.check basePackage queryLimit) : Generation Context).run.notes =
      (d.check basePackage queryLimit).notes := Noted.notes_map _ _
  rw [Diagram.generate, ExceptT.run_bind, Noted.notes_bind, hlift]
  rfl

/-- The diagnostics of a stage on the way from a diagram that was read to its files. -/
def Stage.notes (d : Noted Diagram) (basePackage : String) (queryLimit : Int) :
    Stage → List Diagnostic
  | .reading => d.notes
  | .analysis => (Context.build d.value basePackage queryLimit).notes
  | .lint => d.value.lint (Hierarchy.ofDiagram d.value).value.forest.childIds
  | .generation => (Context.build d.value basePackage queryLimit).value.artifacts.run.notes

theorem Stage.onlyFrom_notes {source : Document.Source} {d : Noted Diagram}
    (hparse : Diagram.parse source = .ok d) (basePackage : String) (queryLimit : Int)
    (stage : Stage) : OnlyFrom stage (stage.notes d basePackage queryLimit) := by
  cases stage with
  | reading => exact onlyFrom_parse hparse
  | analysis => exact onlyFrom_build _ _ _
  | lint => exact Diagram.onlyFrom_lint _ _
  | generation => exact Context.onlyFrom_artifacts _

/-- The diagnostics of a compilation are those of its stages, one stage after the other. -/
theorem notes_of_compile {source : Document.Source} {r : Request} {s : Settings}
    {generated : Noted (List Artifact)} (hcompile : compile source r s = .ok generated) :
    ∃ d, Diagram.parse source = .ok d ∧
      generated.value.map Artifact.place = d.value.places ∧
      generated.notes = [Stage.reading, .analysis, .lint, .generation].flatMap
        (Stage.notes d (r.chosenPackage s) (r.chosenLimit s)) := by
  obtain ⟨d, hparse, -, hnotes, hplaces⟩ := places_of_compile hcompile
  refine ⟨d, hparse, hplaces, ?_⟩
  rw [hnotes, Request.generate, Diagram.notes_generate]
  simp [Stage.notes]

/-- A diagnostic of a compilation is one of the stage of its finding. -/
theorem mem_notes_of_compile {source : Document.Source} {r : Request} {s : Settings}
    {generated : Noted (List Artifact)} (hcompile : compile source r s = .ok generated) :
    ∃ d, Diagram.parse source = .ok d ∧
      generated.value.map Artifact.place = d.value.places ∧
      ∀ n, n ∈ generated.notes ↔ ∃ stage, n.finding.stage? = some stage ∧
        n ∈ Stage.notes d (r.chosenPackage s) (r.chosenLimit s) stage := by
  obtain ⟨d, hparse, hplaces, hnotes⟩ := notes_of_compile hcompile
  refine ⟨d, hparse, hplaces, fun n => ?_⟩
  rw [hnotes, List.mem_flatMap]
  constructor
  · rintro ⟨stage, -, hn⟩
    exact ⟨stage, stage.onlyFrom_notes hparse _ _ n hn, hn⟩
  · rintro ⟨stage, -, hn⟩
    exact ⟨stage, by cases stage <;> simp, hn⟩

end Scaffold
