import Scaffold.Proofs.Containment
import Scaffold.Proofs.Stages

/-!
# Files that collide

Two artifacts have one path exactly if two classes or association tables have one name: a path tells
its group and the name of its class (`Place.path_injective`), and in a group no suffix ends another,
so that the file of one class never takes the path of another's (`Diagram.nodup_places`).

Lint warns of classes that have one name. It does not look at the names of association tables, whose
join entities are among the entities. So every warning is about files that collide, and files
collide without a warning exactly if all classes are told apart by their names and a table is not
(`Diagram.TablesApart`).

Main statement: `collisions_announced_iff`.
-/

namespace Scaffold

open Text Files

/-! ## Paths -/

theorem Group.name_injective : Function.Injective Group.name := by
  intro g g' h
  cases g <;> cases g' <;> first | rfl | exact absurd h (by decide)

/-- A path tells its group and the name of its class. -/
theorem Place.path_injective : Function.Injective Place.path := by
  intro p p' h
  have hlists := congrArg String.toList h
  rw [p.toList_path, p'.toList_path] at hlists
  have hsplit := congrArg (splitOn '/') hlists
  rw [splitOn_cons p.group.name_sound.1, splitOn_cons p'.group.name_sound.1] at hsplit
  have hgroup : p.group = p'.group :=
    Group.name_injective (String.toList_inj.1 (List.cons.inj hsplit).1)
  rw [hgroup, List.append_cancel_left_eq] at hlists
  have hname : p.name = p'.name :=
    String.toList_inj.1 ((List.append_left_inj _).1 (List.cons.inj hlists).2)
  cases p
  cases p'
  rw [Place.mk.injEq]
  exact ⟨hgroup, hname⟩

/-- In a group, no suffix ends another. -/
theorem Group.suffixes_apart (g : Group) :
    ∀ s ∈ g.suffixes, ∀ s' ∈ g.suffixes, s.toList <:+ s'.toList → s = s' := by
  cases g <;> decide

theorem Group.nodup_suffixes (g : Group) : g.suffixes.Nodup := by
  cases g <;> decide

/-- The names of the files in a group tell the names of their classes. -/
theorem Group.append_suffix_inj {g : Group} {name name' s s' : String} (hs : s ∈ g.suffixes)
    (hs' : s' ∈ g.suffixes) (h : name ++ s = name' ++ s') : name = name' ∧ s = s' := by
  have hlists := congrArg String.toList h
  rw [String.toList_append, String.toList_append] at hlists
  have hsame : s = s' := by
    rcases List.suffix_or_suffix_of_suffix (List.suffix_append name.toList s.toList)
      (hlists ▸ List.suffix_append name'.toList s'.toList) with hends | hends
    · exact g.suffixes_apart s hs s' hs' hends
    · exact (g.suffixes_apart s' hs' s hs hends).symm
  subst hsame
  exact ⟨String.toList_inj.1 ((List.append_left_inj _).1 hlists), rfl⟩

namespace Diagram

/-- No two artifacts go to one place exactly if no two classes or tables have one name. -/
theorem nodup_places {d : Diagram} : d.places.Nodup ↔ d.typeNames.Nodup := by
  have hentities : (d.typeNames.map (Place.mk .entities)).Nodup ↔ d.typeNames.Nodup :=
    List.nodup_map_iff fun name name' h => congrArg Place.name h
  refine ⟨fun h => hentities.1 (h.sublist (List.sublist_append_left _ _)), fun hnames => ?_⟩
  have hclasses : (d.classes.map (·.name)).Nodup := hnames.sublist (List.sublist_append_left _ _)
  have hgroup : ∀ g, ∀ p ∈ d.classes.flatMap (placesIn g), p.group = g := by
    intro g p hp
    obtain ⟨c, -, hp⟩ := List.mem_flatMap.1 hp
    obtain ⟨s, -, rfl⟩ := List.mem_map.1 hp
    rfl
  have hfiles : ∀ g, (d.classes.flatMap (placesIn g)).Nodup := by
    intro g
    refine List.nodup_flatMap.2 ⟨fun c _ => ?_, ?_⟩
    · refine List.Nodup.map_on (fun s hs s' hs' h => ?_) g.nodup_suffixes
      exact (Group.append_suffix_inj hs hs' (congrArg Place.name h)).2
    · refine (List.pairwise_map.1 hclasses).imp fun {c c'} hne p hp hp' => hne ?_
      obtain ⟨s, hs, rfl⟩ := List.mem_map.1 hp
      obtain ⟨s', hs', h⟩ := List.mem_map.1 hp'
      exact (Group.append_suffix_inj hs hs' (congrArg Place.name h).symm).1
  refine List.nodup_append.2
    ⟨hentities.2 hnames, List.nodup_flatMap.2 ⟨fun g _ => hfiles g, ?_⟩, ?_⟩
  · have hgroups : Context.laterGroups.Nodup := by decide
    exact hgroups.imp fun {g g'} hne p hp hp' => hne ((hgroup g p hp).symm.trans (hgroup g' p hp'))
  · have hentity : Group.entities ∉ Context.laterGroups := by decide
    rintro p hp q hq rfl
    obtain ⟨name, -, rfl⟩ := List.mem_map.1 hp
    obtain ⟨g, hg, hq⟩ := List.mem_flatMap.1 hq
    obtain rfl : Group.entities = g := hgroup g _ hq
    exact hentity hg

end Diagram

/-! ## Warnings -/

/-- The words that a warning of files that collide ends with. -/
def collisionWords : String := "generated files will collide"

/-- Whether a diagnostic is a warning about the diagram that files collide. -/
def Diagnostic.AnnouncesCollision (n : Diagnostic) : Prop :=
  n.code = .validation ∧ collisionWords.toList <:+ n.message.toList

instance (n : Diagnostic) : Decidable n.AnnouncesCollision :=
  inferInstanceAs (Decidable (n.code = .validation ∧ collisionWords.toList <:+ n.message.toList))

/-- A text ends with some words if and only if its last part does, if the words do not end with that
part. -/
theorem suffix_append_iff {words last : String} (hlast : ¬last.toList <:+ words.toList)
    (front : String) :
    words.toList <:+ (front ++ last).toList ↔ words.toList <:+ last.toList := by
  rw [String.toList_append]
  refine ⟨fun h => ?_, fun h => h.trans (List.suffix_append _ _)⟩
  exact (List.suffix_or_suffix_of_suffix h (List.suffix_append _ _)).resolve_right hlast

/-- Whether a diagnostic is about a class that has the name of another. -/
def Diagnostic.RepeatsName (n : Diagnostic) : Prop :=
  ∃ name first, n.finding = .repeatedName name first

/-- A message that does not end with the words announces nothing. -/
theorem not_announcesCollision {n : Diagnostic} {front : String} (last : String)
    (hmessage : n.message = front ++ last) (hlast : ¬last.toList <:+ collisionWords.toList)
    (hwords : ¬collisionWords.toList <:+ last.toList) : ¬n.AnnouncesCollision := by
  rintro ⟨-, hends⟩
  rw [hmessage, suffix_append_iff hlast] at hends
  exact hwords hends

/-- Of the findings of stages, those of names that repeat are warnings of files that collide. The
others are told apart by their codes, or by the words that their messages end with. -/
theorem announcesCollision_iff {n : Diagnostic} (hstage : n.finding.stage?.isSome) :
    n.AnnouncesCollision ↔ n.RepeatsName := by
  obtain ⟨finding, classId, field⟩ := n
  cases finding with
  | repeatedName name first =>
    refine iff_of_true ⟨rfl, ?_⟩ ⟨name, first, rfl⟩
    have hmessage : (Finding.repeatedName name first).message =
        s!"class name '{name}' is also used by '{first}" ++ "'; generated files will collide" := rfl
    rw [Diagnostic.message, hmessage, String.toList_append]
    exact List.IsSuffix.trans (by decide) (List.suffix_append _ _)
  | remark => cases hstage
  | namelessAttribute =>
    refine iff_of_false (not_announcesCollision " has no name and was ignored" rfl ?_ ?_) nofun
    · decide
    · decide
  | missingKey =>
    refine iff_of_false (not_announcesCollision
      ": missing primary key; a generated 'id: Long' is used" rfl ?_ ?_) nofun
    · decide
    · decide
  | aimlessForeignKey =>
    refine iff_of_false (not_announcesCollision
      ": foreign key without referencedEntity is treated as a plain column" rfl ?_ ?_) nofun
    · decide
    · decide
  | unknownReference =>
    refine iff_of_false (not_announcesCollision "'" rfl ?_ ?_) nofun
    · decide
    · decide
  | looseEnd =>
    refine iff_of_false (not_announcesCollision "' does not exist" rfl ?_ ?_) nofun
    · decide
    · decide
  | fewForeignKeys =>
    refine iff_of_false (not_announcesCollision
      " foreign key(s); a join entity needs one per side" rfl ?_ ?_) nofun
    · decide
    · decide
  | misfitDefault =>
    refine iff_of_false (not_announcesCollision ", ignored" rfl ?_ ?_) nofun
    · decide
    · decide
  | _ => exact iff_of_false (fun h => Code.noConfusion h.1) nofun

namespace Diagram

/-- The names of the classes. -/
def classNames (d : Diagram) : List String := d.classes.map (·.name)

/-- The names of the association tables tell the tables from each other and from the classes. -/
def TablesApart (d : Diagram) : Prop :=
  (d.associationTables.map (·.name)).Nodup ∧
    ∀ name ∈ d.classNames, ∀ t ∈ d.associationTables, name ≠ t.name

instance (d : Diagram) : Decidable d.TablesApart :=
  inferInstanceAs (Decidable ((d.associationTables.map (·.name)).Nodup ∧
    ∀ name ∈ d.classNames, ∀ t ∈ d.associationTables, name ≠ t.name))

theorem nodup_typeNames {d : Diagram} :
    d.typeNames.Nodup ↔ d.classNames.Nodup ∧ d.TablesApart := by
  rw [typeNames, List.nodup_append, TablesApart, classNames]
  simp only [List.forall_mem_map]

/-! ## Lint -/

theorem not_repeats_nameNotes_iff {earlier : List ClassNode} {c : ClassNode} :
    (∀ n ∈ nameNotes earlier c, ¬n.RepeatsName) ↔ ∀ e ∈ earlier, e.name ≠ c.name := by
  unfold nameNotes
  cases hfind : earlier.find? (·.name = c.name) with
  | none =>
    refine iff_of_true (fun n hn => absurd hn List.not_mem_nil) fun e he hname => ?_
    exact List.find?_eq_none.1 hfind e he (decide_eq_true hname)
  | some first =>
    refine iff_of_false (fun h => h _ (List.mem_singleton_self _) ⟨_, _, rfl⟩) fun h => ?_
    exact h first (List.mem_of_find?_eq_some hfind) (by simpa using List.find?_some hfind)

theorem not_repeats_keyNotes {childIds : List String} {c : ClassNode} :
    ∀ n ∈ keyNotes childIds c, ¬n.RepeatsName := by
  rintro n hn ⟨name, first, hrepeats⟩
  unfold keyNotes at hn
  grind

theorem not_repeats_foreignKeyNotes {d : Diagram} {c : ClassNode} :
    ∀ n ∈ c.attributes.filterMap (d.foreignKeyNote? c), ¬n.RepeatsName := by
  rintro n hn ⟨name, first, hrepeats⟩
  obtain ⟨a, -, hn⟩ := List.mem_filterMap.1 hn
  unfold foreignKeyNote? at hn
  grind

/-- Lint of classes that come after others finds no name that repeats if and only if no class has
the name of one in front of it. -/
theorem not_repeats_classNotes_iff {d : Diagram} {childIds : List String}
    {earlier classes : List ClassNode} :
    (∀ n ∈ d.classNotes childIds earlier classes, ¬n.RepeatsName) ↔
      (classes.map (·.name)).Nodup ∧ ∀ c ∈ classes, ∀ e ∈ earlier, e.name ≠ c.name := by
  induction classes generalizing earlier with
  | nil => simp [classNotes]
  | cons c rest ih =>
    rw [classNotes, List.forall_mem_append, List.forall_mem_append, List.forall_mem_append, ih,
      not_repeats_nameNotes_iff, List.map_cons, List.nodup_cons, List.forall_mem_cons]
    constructor
    · rintro ⟨⟨⟨hfirst, -⟩, -⟩, hnodup, hrest⟩
      refine ⟨⟨fun hmem => ?_, hnodup⟩, hfirst, fun c' hc' e he => ?_⟩
      · obtain ⟨c', hc', hname⟩ := List.mem_map.1 hmem
        exact hrest c' hc' c (List.mem_append_right _ (List.mem_singleton_self c)) hname.symm
      · exact hrest c' hc' e (List.mem_append_left _ he)
    · rintro ⟨⟨hfresh, hnodup⟩, hfirst, hrest⟩
      refine ⟨⟨⟨hfirst, not_repeats_keyNotes⟩, not_repeats_foreignKeyNotes⟩, hnodup,
        fun c' hc' e he => ?_⟩
      rcases List.mem_append.1 he with he | he
      · exact hrest c' hc' e he
      · obtain rfl := List.mem_singleton.1 he
        exact fun hname => hfresh (hname ▸ List.mem_map_of_mem hc')

/-- Lint finds no name that repeats if and only if the names of the classes are pairwise distinct.
-/
theorem not_repeats_lint_iff (d : Diagram) (childIds : List String) :
    (∀ n ∈ d.lint childIds, ¬n.RepeatsName) ↔ d.classNames.Nodup := by
  have hends : ∀ n ∈ d.relationships.flatMap fun r =>
      [r.source, r.target].filterMap (d.endNote? r), ¬n.RepeatsName := by
    rintro n hn ⟨name, first, hrepeats⟩
    obtain ⟨r, -, hn⟩ := List.mem_flatMap.1 hn
    obtain ⟨place, -, hn⟩ := List.mem_filterMap.1 hn
    unfold endNote? at hn
    grind
  have htables : ∀ n ∈ d.associationTables.filterMap tableNote?, ¬n.RepeatsName := by
    rintro n hn ⟨name, first, hrepeats⟩
    obtain ⟨t, -, hn⟩ := List.mem_filterMap.1 hn
    unfold tableNote? at hn
    grind
  rw [lint, List.forall_mem_append, List.forall_mem_append, not_repeats_classNotes_iff]
  refine ⟨fun h => h.1.1.1, fun h => ⟨⟨⟨h, ?_⟩, hends⟩, htables⟩⟩
  exact fun _ _ e he => absurd he List.not_mem_nil

end Diagram

/-! ## Files -/

/-- A name without a slash is the name of the file in the directory of the group. -/
theorem Place.names_path {p : Place} (hp : '/' ∉ p.name.toList) :
    (Path.ofText p.path).names = [p.group.name, p.name ++ ".java"] := by
  obtain ⟨hslash, -, hgroup⟩ := p.group.name_sound
  have hfile : '/' ∉ p.name.toList ++ ".java".toList := by
    rw [List.mem_append, not_or]
    exact ⟨hp, by decide⟩
  have hlong : 1 < (p.name.toList ++ ".java".toList).length := by
    have hjava : ".java".toList.length = 5 := rfl
    rw [List.length_append, hjava]
    omega
  rw [Path.ofText, p.toList_path, splitOn_cons hslash, splitOn_of_notMem hfile,
    List.filter_cons_of_pos hgroup, List.filter_cons_of_pos (isName_of_length hlong)]
  simp

/-- Artifacts whose names have no slash go to one file only if they are at one place. -/
theorem Artifact.place_eq_of_target_eq {a b : Artifact} {out : Path} (ha : '/' ∉ a.name.toList)
    (hb : '/' ∉ b.name.toList) (h : a.target out = b.target out) : a.place = b.place := by
  have hnames := congrArg Path.names h
  rw [a.names_target, b.names_target, List.append_cancel_left_eq, ← a.path_place, ← b.path_place,
    Place.names_path ha, Place.names_path hb] at hnames
  obtain ⟨hgroup, hfile⟩ := List.cons.inj hnames
  have hname : a.name = b.name := by
    have hlists := congrArg String.toList (List.cons.inj hfile).1
    rw [String.toList_append, String.toList_append] at hlists
    exact String.toList_inj.1 ((List.append_left_inj _).1 hlists)
  rw [Artifact.place, Artifact.place, Place.mk.injEq]
  exact ⟨Group.name_injective hgroup, hname⟩

/-- If no name of a class or table has a slash, artifacts at different places are written to
different files. -/
theorem nodup_targets {d : Diagram} {artifacts : List Artifact}
    (hplaces : artifacts.map Artifact.place = d.places)
    (hplain : ∀ name ∈ d.typeNames, '/' ∉ name.toList)
    (hnodup : (artifacts.map Artifact.place).Nodup) (out : Path) :
    (artifacts.map fun a => a.target out).Nodup := by
  have hnames : ∀ a ∈ artifacts, '/' ∉ a.name.toList := by
    intro a ha
    have hplace : a.place ∈ d.places := hplaces ▸ List.mem_map_of_mem ha
    obtain ⟨name, hname, s, hs, heq⟩ := Diagram.exists_of_mem_places hplace
    have hsplit : a.name = name ++ s := heq
    rw [hsplit, String.toList_append, List.mem_append, not_or]
    exact ⟨hplain name hname, Group.suffixes_sound _ s hs⟩
  refine hnodup.of_map.map_on fun a ha b hb h => ?_
  exact List.inj_on_of_nodup_map hnodup ha hb
    (Artifact.place_eq_of_target_eq (hnames a ha) (hnames b hb) h)

/-- Of all stages, only lint warns of files that collide. -/
theorem announces_iff {notes : List Diagnostic} {d : Noted Diagram} {basePackage : String}
    {queryLimit : Int}
    (hnotes : ∀ n, n ∈ notes ↔ ∃ stage, n.finding.stage? = some stage ∧
      n ∈ Stage.notes d basePackage queryLimit stage) :
    (∃ n ∈ notes, n.AnnouncesCollision) ↔ ¬d.value.classNames.Nodup := by
  rw [← Diagram.not_repeats_lint_iff d.value (Hierarchy.ofDiagram d.value).value.forest.childIds]
  constructor
  · rintro ⟨n, hn, hannounces⟩ hnone
    obtain ⟨stage, hstage, hn⟩ := (hnotes n).1 hn
    obtain ⟨name, first, hfinding⟩ :=
      (announcesCollision_iff (Option.isSome_iff_exists.2 ⟨stage, hstage⟩)).1 hannounces
    rw [hfinding] at hstage
    cases hstage
    exact hnone n hn ⟨name, first, hfinding⟩
  · intro hsome
    obtain ⟨n, hn, hrepeats⟩ : ∃ n ∈ d.value.lint _, n.RepeatsName := by
      simpa only [not_forall, not_not, exists_prop] using hsome
    have hstage : n.finding.stage? = some .lint := Diagram.onlyFrom_lint _ _ n hn
    refine ⟨n, (hnotes n).2 ⟨.lint, hstage, hn⟩, ?_⟩
    exact (announcesCollision_iff (Option.isSome_iff_exists.2 ⟨_, hstage⟩)).2 hrepeats

/-- Two artifacts of a document have one path exactly if two classes or association tables have one
name, and lint announces it exactly if two classes have one. So an announcement is always right, and
there is one whenever two artifacts have one path, unless the names tell the classes from each other
and not the association tables. If no name has a slash, artifacts with different paths are written
to different files. -/
theorem collisions_announced_iff (source : Document.Source) (r : Request) (s : Settings)
    (generated : Noted (List Artifact)) (hcompile : compile source r s = .ok generated) :
    ∃ d, Diagram.parse source = .ok d ∧
      let collide := ¬(generated.value.map Artifact.path).Nodup
      let announced := ∃ n ∈ generated.notes, n.AnnouncesCollision
      (collide ↔ ¬(d.value.classNames.Nodup ∧ d.value.TablesApart)) ∧
      (announced ↔ ¬d.value.classNames.Nodup) ∧
      ((collide ↔ announced) ↔ (d.value.classNames.Nodup → d.value.TablesApart)) ∧
      ((∀ name ∈ d.value.typeNames, '/' ∉ name.toList) → ¬collide → ∀ out,
        (generated.value.map fun a => a.target out).Nodup) := by
  obtain ⟨d, hparse, hplaces, hnotes⟩ := mem_notes_of_compile hcompile
  have hpaths : (generated.value.map Artifact.path).Nodup ↔
      (generated.value.map Artifact.place).Nodup := by
    rw [← List.nodup_map_iff Place.path_injective, List.map_map]
    rfl
  have hcollide : (generated.value.map Artifact.path).Nodup ↔
      d.value.classNames.Nodup ∧ d.value.TablesApart := by
    rw [hpaths, hplaces, Diagram.nodup_places, Diagram.nodup_typeNames]
  have hannounced := announces_iff hnotes
  refine ⟨d, hparse, not_congr hcollide, hannounced, ?_, fun hplain hdistinct => ?_⟩
  · rw [hcollide, hannounced, not_iff_not]
    exact ⟨fun h hclasses => (h.2 hclasses).2,
      fun h => ⟨And.left, fun hclasses => ⟨hclasses, h hclasses⟩⟩⟩
  · exact nodup_targets hplaces hplain (hpaths.1 (not_not.1 hdistinct))

/-- Two classes of one name, and an association table of another. -/
def theatre : Json.Fields :=
  [("elements", .arr
    [.obj [("id", .str "t"), ("name", .str "Ticket")],
      .obj [("id", .str "v"), ("name", .str "Ticket")],
      .obj [("id", .str "s"), ("name", .str "Seating"), ("stereotype", .str "association_table")]])]

theorem collisions_announced_theatre :
    ∃ generated, compile (.object theatre) {} = .ok generated ∧
      ¬(generated.value.map Artifact.path).Nodup ∧
      (∃ n ∈ generated.notes, n.AnnouncesCollision) ∧
      ∃ d : Noted Diagram, Diagram.parse (.object theatre) = .ok d ∧
        d.value.typeNames = ["Ticket", "Ticket", "Seating"] := by
  have hfacts : (Diagram.parse (.object theatre)).toOption.any (fun d => decide
      ((∀ c ∈ d.value.classes, ∀ a ∈ c.attributes, a.Declarable) ∧
        d.value.typeNames = ["Ticket", "Ticket", "Seating"] ∧ ¬d.value.classNames.Nodup)) =
        true := by
    decide +kernel
  obtain ⟨d, hparse, hread, hnames, hrepeats⟩ := Except.exists_of_any hfacts
  obtain ⟨generated, hcompile⟩ := exists_compile_of_declarable hparse hread {} {}
  obtain ⟨d', hparse', hcollide, hannounced, -⟩ :=
    collisions_announced_iff (.object theatre) {} {} generated hcompile
  obtain rfl : d = d' := Except.ok.inj (hparse.symm.trans hparse')
  exact ⟨generated, hcompile, hcollide.2 fun h => hrepeats h.1, hannounced.2 hrepeats, d, hparse,
    hnames⟩

/-- A class and an association table of one name. -/
def lending : Json.Fields :=
  [("elements", .arr
    [.obj [("id", .str "b"), ("name", .str "Loan")],
      .obj [("id", .str "l"), ("name", .str "Loan"), ("stereotype", .str "association_table")]])]

/-- The entity of the class and the join entity have one path, and no diagnostic announces it. -/
theorem not_announced_lending :
    ∃ generated, compile (.object lending) {} = .ok generated ∧
      (generated.value.map Artifact.path).take 2 = ["entities/Loan.java", "entities/Loan.java"] ∧
      ¬(generated.value.map Artifact.path).Nodup ∧
      ¬∃ n ∈ generated.notes, n.AnnouncesCollision := by
  have hfacts : (compile (.object lending) {}).toOption.any (fun generated => decide (
      (generated.value.map Artifact.path).take 2 = ["entities/Loan.java", "entities/Loan.java"] ∧
      ¬(generated.value.map Artifact.path).Nodup ∧
      ¬∃ n ∈ generated.notes, n.AnnouncesCollision)) = true := by
    decide +kernel
  exact Except.exists_of_any hfacts

end Scaffold
