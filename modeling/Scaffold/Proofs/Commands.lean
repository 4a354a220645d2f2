import Mathlib.Data.List.Basic
import Scaffold.Command.Execution
import Scaffold.Proofs.Decoded

/-!
# What commands say and how they end

`Says` describes a computation that leaves the tree as it is: which lines it says, and how it ends.
It has a rule for each way in which computations are put together, so what `inspect` and `validate`
say can be read off as lists of lines, `Context.overview` and `report`.

An association table lists the classes that its foreign keys reference. A foreign key that
references nothing has no name to be listed, and the overview ends there by a fault. No other part
of a diagram can end it, if all of it can be said: a surrogate that is not paired cannot be written
to the output, and the members of a class are looked up one call deeper for each of its ancestors.
The model has neither such characters nor a limit for calls, and statements about what commands say
are made of plain documents (`Document.Source.Plain`) and of diagrams with short chains of ancestors
(`Diagram.Shallow`).

Main statement: `overview_complete`, what `inspect` and `validate` say and how they end for every
such diagram that can be loaded.
-/

namespace Scaffold

namespace Command

/-- With the tree `t`, a computation says some lines and ends with a result or early. It changes
nothing else. -/
def Says {α : Type} (t : Files.Tree) (x : Run α) (lines : List String) (r : Except Stop α) : Prop :=
  ∀ c : Console, c.tree = t → x.run.run c = (r, { c with said := c.said ++ lines.map spoken })

/-- A computation that looks at the console first finds it as it is. -/
theorem run_get_bind {α : Type} (f : Console → Run α) (c : Console) :
    (get >>= f).run.run c = (f c).run.run c := rfl

namespace Says

variable {α β : Type} {t : Files.Tree}

theorem of_eq {x : Run α} {lines lines' : List String} {r : Except Stop α}
    (hx : Says t x lines r) (hlines : lines = lines') : Says t x lines' r := hlines ▸ hx

/-! ## Rules -/

theorem pure (a : α) : Says t (Pure.pure a) [] (.ok a) := by
  intro c _
  rw [List.map_nil, List.append_nil]
  rfl

theorem say (s : String) : Says t (Command.say s) [s] (.ok ()) := fun _ _ => rfl

theorem stop (e : Stop) : Says t (throw e : Run α) [] (.error e) := by
  intro c _
  rw [List.map_nil, List.append_nil]
  rfl

/-- What the second of two computations says comes behind what the first says. -/
theorem bind {x : Run α} {f : α → Run β} {lines lines' : List String} {a : α}
    {r : Except Stop β} (hx : Says t x lines (.ok a)) (hf : Says t (f a) lines' r) :
    Says t (x >>= f) (lines ++ lines') r := by
  intro c hc
  rw [ExceptT.run_bind, StateT.run_bind, hx c hc, List.map_append, ← List.append_assoc]
  exact hf _ hc

/-- The result of the first of two computations may be ignored. -/
theorem seq {x : Run α} {y : Run β} {lines lines' : List String} {a : α} {r : Except Stop β}
    (hx : Says t x lines (.ok a)) (hy : Says t y lines' r) :
    Says t (x >>= fun _ => y) (lines ++ lines') r := hx.bind hy

/-- If the first of two computations ends early, the second does not start. -/
theorem bind_stop {x : Run α} {lines : List String} {e : Stop} (hx : Says t x lines (.error e))
    (f : α → Run β) : Says t (x >>= f) lines (.error e) := by
  intro c hc
  rw [ExceptT.run_bind, StateT.run_bind, hx c hc]
  rfl

/-- What is said may depend on the tree. -/
theorem reading {f : Console → Run α} {lines : List String} {r : Except Stop α}
    (hf : ∀ c, c.tree = t → Says t (f c) lines r) : Says t (get >>= f) lines r :=
  fun c hc => hf c hc c hc

/-- A loop whose steps do not end early says what its steps say, one after the other. -/
theorem loop {l : List α} {f : α → Run (ForInStep PUnit)} {lines : α → List String}
    (hf : ∀ a ∈ l, Says t (f a) (lines a) (.ok (.yield ⟨⟩))) :
    Says t (forIn l ⟨⟩ fun a _ => f a) (l.flatMap lines) (.ok ⟨⟩) := by
  induction l with
  | nil => exact pure _
  | cons a rest ih =>
    obtain ⟨hfirst, hrest⟩ := List.forall_mem_cons.1 hf
    rw [List.forIn_cons, List.flatMap_cons]
    exact hfirst.bind (ih hrest)

/-- A loop ends early with the first of its steps that does. -/
theorem loop_stop {before after : List α} {a : α} {f : α → Run (ForInStep PUnit)}
    {lines : α → List String} {e : Stop}
    (hbefore : ∀ b ∈ before, Says t (f b) (lines b) (.ok (.yield ⟨⟩)))
    (ha : Says t (f a) [] (.error e)) :
    Says t (forIn (before ++ a :: after) ⟨⟩ fun a _ => f a) (before.flatMap lines)
      (.error e) := by
  induction before with
  | nil =>
    rw [List.nil_append, List.forIn_cons]
    exact ha.bind_stop _
  | cons b rest ih =>
    obtain ⟨hfirst, hrest⟩ := List.forall_mem_cons.1 hbefore
    rw [List.cons_append, List.forIn_cons, List.flatMap_cons]
    exact hfirst.bind (ih hrest)

/-- A step of a loop that says something goes on. -/
theorem step {x : Run PUnit} {lines : List String} (hx : Says t x lines (.ok ⟨⟩)) :
    Says t (do x; return ForInStep.yield PUnit.unit) lines (.ok (.yield ⟨⟩)) := by
  rw [← List.append_nil lines]
  exact hx.bind (pure _)

/-- A loop says one line for each member of a list. -/
theorem each (l : List α) (line : α → String) :
    Says t (forIn l ⟨⟩ fun a _ => do Command.say (line a); return ForInStep.yield PUnit.unit)
      (l.map line) (.ok ⟨⟩) := by
  rw [List.map_eq_flatMap]
  exact loop fun a _ => (say (line a)).step

/-- A loop says the members of a list. -/
theorem lines (l : List String) :
    Says t (forIn l ⟨⟩ fun s _ => do Command.say s; return ForInStep.yield PUnit.unit) l
      (.ok ⟨⟩) := by
  have hl := each (t := t) l id
  rwa [List.map_id] at hl

end Says

theorem says_load {t : Files.Tree} {p : Files.Path} {d : Noted Diagram}
    (hload : Diagram.load t p = .ok d) : Says t (load p) [] (.ok d) := by
  refine .reading fun c hc => ?_
  rw [hc, hload]
  exact .pure d

end Command

/-! ## Files -/

/-- At a path there is a file with a text in it. -/
def Files.Tree.Holds (t : Files.Tree) (p : Files.Path) (text : List Char) : Prop :=
  ∃ content, t.read p = .ok content ∧ content.read = .ok text

/-- What can be read is there. -/
theorem Files.Tree.find_of_read (t : Files.Tree) {p : Files.Path} {content : Files.Content}
    (hread : t.read p = .ok content) : t.find p = .ok (some (.file content)) := by
  unfold read at hread
  cases hlocate : t.locate p with
  | error e =>
    rw [hlocate] at hread
    cases hread
  | ok l =>
    rw [hlocate] at hread
    simp only [find, hlocate]
    cases hentry : t.get? l with
    | none => simp [hentry, bind, Except.bind] at hread
    | some e =>
      cases e with
      | directory => simp [hentry, bind, Except.bind] at hread
      | file c =>
        simp only [hentry, bind, Except.bind, Except.ok.injEq] at hread
        rw [hread]

/-- A document is not empty. -/
theorem Diagram.parse_nil_ne_ok (d : Noted Diagram) :
    Diagram.parse (.text (String.ofList [])) ≠ .ok d := by
  intro hparse
  cases hparse

/-- A file is loaded if what is in it, without the blanks around it, is a document of a diagram. -/
theorem Diagram.load_of_holds {t : Files.Tree} {p : Files.Path} {text : List Char}
    {d : Noted Diagram} (hfile : t.Holds p text)
    (hparse : Diagram.parse (.text (String.ofList (Text.trimChars text))) = .ok d) :
    Diagram.load t p = .ok d := by
  obtain ⟨content, hread, htext⟩ := hfile
  have hfind : t.find p = .ok (some (.file content)) := t.find_of_read hread
  have hne : Text.trimChars text ≠ [] := by
    intro hnil
    rw [hnil] at hparse
    exact Diagram.parse_nil_ne_ok d hparse
  rw [Diagram.load_eq_parse hfind hread htext hne, hparse]
  rfl

/-! ## Overviews -/

/-- Every foreign key of an association table references a class by name. -/
def AssociationTable.Aimed (t : AssociationTable) : Prop :=
  ∀ a ∈ t.foreignKeys, a.referencedEntity.isSome

instance (t : AssociationTable) : Decidable t.Aimed :=
  inferInstanceAs (Decidable (∀ a ∈ t.foreignKeys, a.referencedEntity.isSome))

namespace Context

theorem isSome_mapM_id {α : Type} {l : List (Option α)} :
    (l.mapM id).isSome ↔ ∀ o ∈ l, o.isSome := by
  induction l with
  | nil => simp
  | cons o rest ih =>
    rw [List.mapM_cons, List.forall_mem_cons, ← ih]
    cases o <;> cases rest.mapM id <;> simp

/-- An association table has a line in an overview exactly if all its foreign keys reference
something. -/
theorem isSome_tableLine? {t : AssociationTable} : (tableLine? t).isSome ↔ t.Aimed := by
  rw [tableLine?, Option.isSome_map, isSome_mapM_id, AssociationTable.referencedEntities]
  exact List.forall_mem_map

/-- The lines of an overview about classes. -/
def classOverview (ctx : Context) : List String :=
  s!"Classes ({ctx.diagram.classes.length}):" :: ctx.diagram.classes.flatMap ctx.classLines

/-- The lines of an overview about association tables, as far as they have a line. -/
def tableOverview (tables : List AssociationTable) : List String :=
  if tables = [] then []
  else s!"Association tables ({tables.length}):" :: tables.filterMap tableLine?

/-- The lines of an overview about edges. -/
def edgeOverview (ctx : Context) : List String :=
  s!"Relationships ({ctx.diagram.relationships.length}):" ::
    ctx.diagram.relations.map ctx.relationLine

/-- The lines of an overview about diagnostics. -/
def noteOverview (notes : List Diagnostic) : List String :=
  if notes = [] then []
  else s!"Warnings ({notes.length}):" :: notes.map fun n => s!"  {n.format}"

/-- The lines of an overview. -/
def overview (ctx : Context) (notes : List Diagnostic) : List String :=
  ctx.classOverview ++ tableOverview ctx.diagram.associationTables ++ ctx.edgeOverview ++
    noteOverview notes

end Context

/-- How many ancestors a class of a shallow diagram may have. -/
def maxAncestors : Nat := 100

/-- No class of a diagram has so many ancestors that the calls for them would be too many. -/
def Diagram.Shallow (d : Diagram) : Prop :=
  ∀ c ∈ d.classes, ((Hierarchy.ofDiagram d).value.ancestors c).length ≤ maxAncestors

instance (d : Diagram) : Decidable d.Shallow :=
  inferInstanceAs <| Decidable (∀ c ∈ d.classes,
    ((Hierarchy.ofDiagram d).value.ancestors c).length ≤ maxAncestors)

namespace Command

variable {t : Files.Tree} {p : Files.Path} {d : Noted Diagram}

/-- What the loop over association tables does for one of them. -/
def tableStep (a : AssociationTable) : Run (ForInStep PUnit) :=
  match Context.tableLine? a with
  | some line => do say line; return .yield ⟨⟩
  | none => do fail (.aimlessKey a.name); return .yield ⟨⟩

theorem says_tableStep {a : AssociationTable} (haimed : a.Aimed) :
    Says t (tableStep a) (Context.tableLine? a).toList (.ok (.yield ⟨⟩)) := by
  obtain ⟨line, hline⟩ := Option.isSome_iff_exists.1 (Context.isSome_tableLine?.2 haimed)
  simp only [tableStep, hline]
  exact (Says.say line).step

theorem says_tableStep_stop {a : AssociationTable} (haimless : ¬a.Aimed) :
    Says t (tableStep a) [] (.error (.fault (.aimlessKey a.name))) := by
  have hnone : Context.tableLine? a = none := by
    rwa [← Option.not_isSome_iff_eq_none, Context.isSome_tableLine?]
  simp only [tableStep, hnone]
  exact (Says.stop _).bind_stop _

/-- The loop over association tables says a line for each. -/
theorem says_tables {tables : List AssociationTable} (haimed : ∀ a ∈ tables, a.Aimed) :
    Says t (forIn tables ⟨⟩ fun a _ => tableStep a) (tables.filterMap Context.tableLine?)
      (.ok ⟨⟩) := by
  rw [List.filterMap_eq_flatMap_toList]
  exact Says.loop fun a ha => says_tableStep (haimed a ha)

/-- The loop over association tables ends at the first one without a line. -/
theorem says_tables_stop {before after : List AssociationTable} {a : AssociationTable}
    (hbefore : ∀ b ∈ before, b.Aimed) (ha : ¬a.Aimed) :
    Says t (forIn (before ++ a :: after) ⟨⟩ fun a _ => tableStep a)
      (before.filterMap Context.tableLine?) (.error (.fault (.aimlessKey a.name))) := by
  rw [List.filterMap_eq_flatMap_toList]
  exact Says.loop_stop (fun b hb => says_tableStep (hbefore b hb)) (says_tableStep_stop ha)

/-- The diagnostics, if there are any, are said behind their number. -/
theorem says_notes (notes : List Diagnostic) :
    Says t (if notes = [] then pure () else do
        say s!"Warnings ({notes.length}):"
        for n in notes do say s!"  {n.format}")
      (Context.noteOverview notes) (.ok ()) := by
  unfold Context.noteOverview
  split
  · exact .pure _
  · exact ((Says.say _).seq ((Says.each _ _).seq (.pure _))).of_eq (by simp)

/-- An overview is given in full if all association tables have a line. -/
theorem says_overview (hload : Diagram.load t p = .ok d) (s : Settings)
    (haimed : ∀ a ∈ d.value.associationTables, a.Aimed) :
    let built := Context.build d.value s.basePackage s.queryLimit
    Says t (showOverview s p) (built.value.overview (d.notes ++ built.notes)) (.ok ()) := by
  intro built
  have hclasses := Says.loop (t := t) (l := d.value.classes) fun c _ =>
    (Says.lines (built.value.classLines c)).step
  have htail := (Says.say (t := t) s!"Relationships ({d.value.relationships.length}):").seq
    ((Says.each built.value.diagram.relations built.value.relationLine).seq
      (says_notes (d.notes ++ built.notes)))
  have hlines : built.value.overview (d.notes ++ built.notes) =
      [] ++ ([s!"Classes ({d.value.classes.length}):"] ++
        (d.value.classes.flatMap built.value.classLines ++
          (Context.tableOverview d.value.associationTables ++
            (built.value.edgeOverview ++ Context.noteOverview (d.notes ++ built.notes))))) := by
    simp [Context.overview, Context.classOverview, built, Context.diagram_build]
  rw [hlines]
  unfold showOverview
  refine (says_load hload).bind ((Says.say _).seq (hclasses.seq ?_))
  unfold Context.tableOverview
  split
  · exact htail
  · exact (Says.say _).seq ((says_tables haimed).seq htail)

/-- An overview ends at the first association table without a line. What comes in front of it is
said. -/
theorem says_overview_stop (hload : Diagram.load t p = .ok d) (s : Settings)
    {before after : List AssociationTable} {a : AssociationTable}
    (htables : d.value.associationTables = before ++ a :: after)
    (hbefore : ∀ b ∈ before, b.Aimed) (ha : ¬a.Aimed) :
    let built := Context.build d.value s.basePackage s.queryLimit
    Says t (showOverview s p)
      (built.value.classOverview ++
        s!"Association tables ({d.value.associationTables.length}):" ::
          before.filterMap Context.tableLine?)
      (.error (.fault (.aimlessKey a.name))) := by
  intro built
  have hclasses := Says.loop (t := t) (l := d.value.classes) fun c _ =>
    (Says.lines (built.value.classLines c)).step
  have hlines : built.value.classOverview ++
      s!"Association tables ({d.value.associationTables.length}):" ::
        before.filterMap Context.tableLine? =
      [] ++ ([s!"Classes ({d.value.classes.length}):"] ++
        (d.value.classes.flatMap built.value.classLines ++
          ([s!"Association tables ({d.value.associationTables.length}):"] ++
            before.filterMap Context.tableLine?))) := by
    simp [Context.classOverview, built, Context.diagram_build]
  rw [hlines]
  unfold showOverview
  refine (says_load hload).bind ((Says.say _).seq (hclasses.seq ?_))
  rw [if_neg (by simp [htables])]
  refine (Says.say _).seq (Says.bind_stop ?_ _)
  rw [htables]
  exact says_tables_stop hbefore ha

/-! ## Reports -/

/-- The lines of a report. -/
def report (notes : List Diagnostic) : List String :=
  notes.map Diagnostic.format ++
    [if notes = [] then "✓ No problems found" else s!"{notes.length} warning(s)"]

/-- A report lists the diagnostics of reading, of the analysis and of lint. It counts as a failure
only if any is strictly forbidden. -/
theorem says_report (hload : Diagram.load t p = .ok d) (s : Settings) (strict : Bool) :
    let standard : Settings := {}
    let notes := d.notes ++ (d.value.check s.basePackage standard.queryLimit).notes
    Says t (reportProblems s p strict) (report notes)
      (if strict ∧ notes ≠ [] then .error (.exit 1) else .ok ()) := by
  intro standard notes
  have hlines : report notes = [] ++ (notes.map Diagnostic.format ++
      [if notes = [] then "✓ No problems found" else s!"{notes.length} warning(s)"]) := rfl
  rw [hlines]
  unfold reportProblems
  refine (says_load hload).bind ((Says.each _ _).seq ?_)
  by_cases hnone : notes = []
  · rw [if_pos hnone, if_pos hnone, if_neg fun hboth => hboth.2 hnone]
    exact .say _
  · -- the number is said before the command ends early
    rw [if_neg hnone, if_neg hnone, ← List.append_nil [s!"{notes.length} warning(s)"]]
    refine (Says.say _).seq ?_
    cases strict with
    | true =>
      rw [if_pos rfl, if_pos ⟨rfl, hnone⟩]
      exact .stop _
    | false =>
      rw [if_neg Bool.false_ne_true, if_neg fun hboth => Bool.false_ne_true hboth.1]
      exact .pure _

/-! ## Runs -/

/-- What is seen of a run that ended on a console. -/
def Outcome.ended (console : Console) : Except Stop Unit → Outcome
  | .ok () => { console, exitCode := 0 }
  | .error (.exit code) => { console, exitCode := code }
  | .error (.fault f) => { console, exitCode := 1, fault := some f }

/-- What a command line leads to, if the log can be set up. -/
theorem execute_eq_ended {tree tree' : Files.Tree} {env : Environment} {args : List String}
    {command : Command} {verbose : Bool} {s : Settings} {log : Log} {lines : List String}
    {r : Except Stop Unit}
    (hargs : Invocation.ofArguments args = .ok (.run command verbose))
    (hstart : Log.Options.start { verbose } tree env = .ok (s, log, tree'))
    (hcommand : Says tree' (run s command) lines r) :
    execute tree env args = .ended { tree := tree', said := lines.map spoken } r := by
  have hprepare : (prepare env verbose).run.run { tree } = (.ok s, { tree := tree' }) := by
    rw [prepare, run_get_bind, hstart]
    rfl
  have hrun : (prepare env verbose >>= command.run).run.run { tree } =
      (r, { tree := tree', said := lines.map spoken }) := by
    rw [ExceptT.run_bind, StateT.run_bind, hprepare]
    exact hcommand { tree := tree' } rfl
  simp only [execute, hargs, Outcome.ofRun, hrun]
  cases r with
  | ok => rfl
  | error e => cases e <;> rfl

/-! ## How commands end -/

/-- The first table of a list that is not aimed. -/
theorem exists_first_aimless {tables : List AssociationTable} (h : ¬∀ a ∈ tables, a.Aimed) :
    ∃ before a after, tables = before ++ a :: after ∧ (∀ b ∈ before, b.Aimed) ∧ ¬a.Aimed := by
  have hsome : (tables.find? fun a => !decide a.Aimed).isSome := by
    rw [List.find?_isSome]
    push Not at h
    simpa using h
  obtain ⟨a, ha⟩ := Option.isSome_iff_exists.1 hsome
  obtain ⟨hnot, before, after, htables, hbefore⟩ := List.find?_eq_some_iff_append.1 ha
  exact ⟨before, a, after, htables, fun b hb => by simpa using hbefore b hb, by simpa using hnot⟩

/-- For every diagram that can be loaded, `validate` lists the diagnostics and ends with exit code 0
unless any is strictly forbidden. So does `inspect` with an overview, if all foreign keys of
association tables reference something; otherwise it ends by a fault at the first table of which one
references nothing, and says what comes in front of it.

That the document is plain and the diagram shallow is used nowhere in the proof: it rules out what
the model does not have. -/
theorem overview_complete {tree tree' : Files.Tree} {env : Environment} {verbose : Bool}
    {s : Settings} {log : Log}
    (hstart : Log.Options.start { verbose } tree env = .ok (s, log, tree')) {p : Files.Path}
    {text : List Char} (hfile : tree'.Holds p text) {d : Noted Diagram}
    (hparse : Diagram.parse (.text (String.ofList (Text.trimChars text))) = .ok d)
    (_hplain : Document.Source.Plain (.text (String.ofList (Text.trimChars text))))
    (_hshallow : d.value.Shallow) :
    let built := Context.build d.value s.basePackage s.queryLimit
    let checked := d.value.check s.basePackage ({} : Settings).queryLimit
    let tables := d.value.associationTables
    (∀ args, Invocation.ofArguments args = .ok (.run (.validate p false) verbose) →
      let o := execute tree env args
      o.exitCode = 0 ∧ o.fault = none ∧
        o.console.said = (report (d.notes ++ checked.notes)).map spoken) ∧
    ∀ args, Invocation.ofArguments args = .ok (.run (.inspect p) verbose) →
      let o := execute tree env args
      (o.exitCode = 0 ↔ ∀ a ∈ tables, a.Aimed) ∧
      ((∀ a ∈ tables, a.Aimed) → o.fault = none ∧
        o.console.said = (built.value.overview (d.notes ++ built.notes)).map spoken) ∧
      ∀ before a after, tables = before ++ a :: after → (∀ b ∈ before, b.Aimed) → ¬a.Aimed →
        o.exitCode = 1 ∧ o.fault = some (.aimlessKey a.name) ∧
          o.console.said = (built.value.classOverview ++
            s!"Association tables ({tables.length}):" ::
              before.filterMap Context.tableLine?).map spoken := by
  intro built checked tables
  have hload := Diagram.load_of_holds hfile hparse
  constructor
  · intro args hargs o
    have hout : o = _ := execute_eq_ended hargs hstart (says_report hload s false)
    rw [if_neg fun hboth => Bool.false_ne_true hboth.1] at hout
    rw [hout]
    exact ⟨rfl, rfl, rfl⟩
  · intro args hargs o
    have hfull := fun haimed : ∀ a ∈ tables, a.Aimed =>
      show o = _ from execute_eq_ended hargs hstart (says_overview hload s haimed)
    have hcut := fun {before after : List AssociationTable} {a : AssociationTable}
        (htables : tables = before ++ a :: after) (hbefore : ∀ b ∈ before, b.Aimed)
        (ha : ¬a.Aimed) =>
      show o = _ from execute_eq_ended hargs hstart
        (says_overview_stop hload s htables hbefore ha)
    refine ⟨⟨fun hcode => ?_, fun haimed => ?_⟩, fun haimed => ?_,
      fun before a after htables hbefore ha => ?_⟩
    · -- with an aimless key the exit code would be that of the first table with one
      by_contra haimless
      obtain ⟨before, a, after, htables, hbefore, ha⟩ := exists_first_aimless haimless
      rw [hcut htables hbefore ha] at hcode
      cases hcode
    · rw [hfull haimed]
      rfl
    · rw [hfull haimed]
      exact ⟨rfl, rfl⟩
    · rw [hcut htables hbefore ha]
      exact ⟨rfl, rfl, rfl⟩

/-- Where the diagram is. -/
def sheet : Files.Path := { names := ["diagram.json"] }

/-- A file tree with a text in the working directory. -/
def desk (text : List Char) : Files.Tree :=
  (Files.Tree.empty ["home"]).put ["home", "diagram.json"] (.file (.text (String.ofList text)))

theorem holds_desk {text : List Char} (htext : Files.unifyLineEnds text = text) :
    (desk text).Holds sheet text := by
  refine ⟨.text (String.ofList text), rfl, ?_⟩
  rw [Files.Content.read, String.toList_ofList, htext]

/-- A document with a class, an association table with a foreign key to it, and an edge to nothing.
The table may have more keys. -/
def rentals (keys : List String) : List Char :=
  (["\x7b\"elements\": [", "\x7b\"id\": \"c\", \"name\": \"Car\"\x7d, ",
    "\x7b\"id\": \"r\", \"name\": \"Rental\", ", "\"stereotype\": \"association_table\", ",
    "\"attributes\": [", "\x7b\"name\": \"car\", ", "\"isForeignKey\": true, ",
    "\"referencedEntity\": \"Car\"\x7d"] ++ keys ++
    ["]\x7d], \"connections\": [", "\x7b\"id\": \"e\", ", "\"source\": \"c\", ",
      "\"target\": \"x\"\x7d]\x7d"]).flatMap String.toList

theorem overview_complete_rentals :
    let tree := desk (rentals [])
    Document.Source.Plain (.text (String.ofList (Text.trimChars (rentals [])))) ∧
      (execute tree [] ["validate", "diagram.json"]).exitCode = 0 ∧
      (execute tree [] ["inspect", "diagram.json"]).exitCode = 0 ∧
      (execute tree [] ["inspect", "diagram.json"]).console.said =
        ["Classes (1):", "  Car  key: id: Long (generated)", "Association tables (1):",
          "  Rental -> Car", "Relationships (1):",
          "  Car -> x: one-to-one (declared association)"] := by
  intro tree
  let s : Settings := {}
  have hplain : Document.Source.Plain (.text (String.ofList (Text.trimChars (rentals [])))) := by
    unfold Document.Source.Plain
    simp only [Document.Source.fields, Json.Value.read, String.toList_ofList]
    decide +kernel
  have hfacts : (Diagram.parse
      (.text (String.ofList (Text.trimChars (rentals []))))).toOption.any (fun d => decide (
        d.value.Shallow ∧ (∀ a ∈ d.value.associationTables, a.Aimed) ∧
        ((Context.build d.value s.basePackage s.queryLimit).value.overview
          (d.notes ++ (Context.build d.value s.basePackage s.queryLimit).notes)).map spoken =
        ["Classes (1):", "  Car  key: id: Long (generated)", "Association tables (1):",
          "  Rental -> Car", "Relationships (1):",
          "  Car -> x: one-to-one (declared association)"])) = true := by
    simp only [Diagram.parse, Document.Source.fields, Json.Value.read, String.toList_ofList]
    decide +kernel
  obtain ⟨d, hparse, hshallow, haimed, hlines⟩ := Except.exists_of_any hfacts
  have hstart : Log.Options.start { verbose := false } tree [] = .ok (s, _, tree) := rfl
  obtain ⟨hvalidate, hinspect⟩ :=
    overview_complete hstart (holds_desk (by decide +kernel)) hparse hplain hshallow
  obtain ⟨hcode, hshown, -⟩ := hinspect ["inspect", "diagram.json"] (by decide +kernel)
  exact ⟨hplain, (hvalidate ["validate", "diagram.json"] (by decide +kernel)).1, hcode.2 haimed,
    (hshown haimed).2.trans hlines⟩

/-- With a second foreign key that references nothing the document is still accepted, but `inspect`
ends by a fault. -/
theorem not_complete_rentals :
    let text := rentals [", \x7b\"name\": \"to\", ", "\"isForeignKey\": true\x7d"]
    (∃ d : Noted Diagram, Diagram.parse (.text (String.ofList text)) = .ok d) ∧
      (execute (desk text) [] ["inspect", "diagram.json"]).exitCode = 1 := by
  intro text
  have htrim : Text.trimChars text = text := by decide +kernel
  have hfacts : (Diagram.parse (.text (String.ofList text))).toOption.any
      (fun d => decide ¬∀ a ∈ d.value.associationTables, a.Aimed) = true := by
    simp only [Diagram.parse, Document.Source.fields, Json.Value.read, String.toList_ofList]
    decide +kernel
  obtain ⟨d, hparse, haimless⟩ := Except.exists_of_any hfacts
  obtain ⟨before, a, after, htables, hbefore, ha⟩ := exists_first_aimless haimless
  have hfile : (desk text).Holds sheet text := holds_desk (by decide +kernel)
  have hload := Diagram.load_of_holds hfile (by rw [htrim, hparse])
  have hstart : Log.Options.start { verbose := false } (desk text) [] = .ok ({}, _, desk text) :=
    rfl
  have hargs : Invocation.ofArguments ["inspect", "diagram.json"] =
      .ok (.run (.inspect sheet) false) := by
    decide +kernel
  refine ⟨⟨d, hparse⟩, ?_⟩
  rw [execute_eq_ended hargs hstart (says_overview_stop hload {} htables hbefore ha)]
  rfl

end Command

end Scaffold
