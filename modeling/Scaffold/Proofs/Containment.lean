import Mathlib.Data.Fintype.EquivFin
import Scaffold.Backend.Output
import Scaffold.Proofs.Definedness
import Scaffold.Proofs.Places
import Scaffold.Proofs.RoundTrip
import Scaffold.Proofs.Text

/-!
# Files below the output directory

A path is followed name by name, and two dots lead back to the directory above. The names of classes
become parts of paths as they are, and a slash in one of them starts a new directory. So a name
`climbs` if the directories in it lead out of the directory of the group and out of the output
directory above it. Its files are then written elsewhere, unless the way leads back by chance; below
every output directory all files are exactly if no name climbs.

The rest of the tree is left alone then: what writes a file makes directories where there is nothing
(`SameOutside.ensureDirectories`), and changes the file itself (`SameOutside.write`).

Main statement: `artifacts_contained_iff`.
-/

namespace Scaffold

open Text

namespace Files

namespace Path

/-! ## Names that lead out -/

/-- The location that one more name leads to. -/
def followName (l : List String) (name : String) : List String :=
  if name = ".." then l.dropLast else l ++ [name]

/-- The location that some names lead to. -/
def follow (l : List String) (names : List String) : List String := names.foldl followName l

/-- Whether some names lead out of a directory, starting from one that is `depth` names below it. -/
def leaves : Nat → List String → Bool
  | _, [] => false
  | depth, name :: rest =>
    if name = ".." then depth = 0 || leaves (depth - 1) rest else leaves (depth + 1) rest

theorem follow_cons (l : List String) (name : String) (rest : List String) :
    follow l (name :: rest) = follow (followName l name) rest := rfl

theorem follow_append (l names names' : List String) :
    follow l (names ++ names') = follow (follow l names) names' := List.foldl_append

theorem resolve_eq (names : List String) : resolve names = follow [] names := rfl

/-- Names that lead up and down without two dots add to a location. -/
theorem follow_of_notMem {names : List String} (hnames : ".." ∉ names) (l : List String) :
    follow l names = l ++ names := by
  induction names generalizing l with
  | nil => exact (List.append_nil l).symm
  | cons name rest ih =>
    rw [List.mem_cons, not_or] at hnames
    rw [follow_cons, followName, if_neg (Ne.symm hnames.1), ih hnames.2, List.append_assoc]
    rfl

/-- Where names lead, nothing is called otherwise than before or in the names. -/
theorem mem_follow {l names : List String} {name : String} (hname : name ∈ follow l names) :
    name ∈ l ∨ name ∈ names := by
  induction names generalizing l with
  | nil => exact .inl hname
  | cons first rest ih =>
    rcases ih hname with hname | hname
    · unfold followName at hname
      split at hname
      · exact .inl (List.dropLast_subset l hname)
      · rcases List.mem_append.1 hname with hname | hname
        · exact .inl hname
        · exact .inr (List.mem_cons.2 (.inl (List.mem_singleton.1 hname)))
    · exact .inr (List.mem_cons_of_mem first hname)

/-- Names that do not lead out of a directory lead to a location in it. -/
theorem prefix_follow {base below names : List String}
    (hstay : leaves below.length names = false) : base <+: follow (base ++ below) names := by
  induction names generalizing below with
  | nil => exact List.prefix_append base below
  | cons name rest ih =>
    rw [leaves] at hstay
    rw [follow_cons, followName]
    split at hstay
    · next hdots =>
      obtain ⟨hlength, hstay⟩ := Bool.or_eq_false_iff.1 hstay
      have hbelow : below ≠ [] := by
        rintro rfl
        cases hlength
      rw [if_pos hdots, List.dropLast_append_of_ne_nil hbelow]
      exact ih (by rwa [List.length_dropLast])
    · next hdots =>
      rw [if_neg hdots, List.append_assoc]
      exact ih (by rwa [List.length_append])

/-- Names that lead out of a directory do not come back if they do not know its name. -/
theorem notMem_follow {base : String} {below names : List String}
    (hleave : leaves below.length names = true) (hbase : base ∉ names) (hbelow : base ∉ below) :
    base ∉ follow (base :: below) names := by
  induction names generalizing below with
  | nil => cases hleave
  | cons name rest ih =>
    rw [List.mem_cons, not_or] at hbase
    rw [leaves] at hleave
    rw [follow_cons, followName]
    split at hleave
    · next hdots =>
      rw [if_pos hdots]
      by_cases hempty : below = []
      · subst hempty
        intro hmem
        rcases mem_follow hmem with hmem | hmem
        · cases hmem
        · exact hbase.2 hmem
      · have hlength : ¬below.length = 0 := by simpa using hempty
        rw [List.dropLast_cons_of_ne_nil hempty]
        refine ih ?_ hbase.2 fun hmem => hbelow (List.dropLast_subset _ hmem)
        rw [List.length_dropLast]
        simpa [hlength] using hleave
    · next hdots =>
      rw [if_neg hdots, List.cons_append]
      refine ih (by rwa [List.length_append]) hbase.2 ?_
      rw [List.mem_append, List.mem_singleton, not_or]
      exact ⟨hbelow, hbase.1⟩

theorem leaves_concat {last : String} (hlast : last ≠ "..") (depth : Nat) (names : List String) :
    leaves depth (names ++ [last]) = leaves depth names := by
  induction names generalizing depth with
  | nil => simp [leaves, hlast]
  | cons name rest ih =>
    rw [List.cons_append, leaves, leaves, ih, ih]

end Path

end Files

/-! ## Names of classes in paths -/

open Files

/-- The directories in the name of a class. -/
def directories (name : String) : List String :=
  ((splitOn '/' name.toList).dropLast.filter Path.isName).map String.ofList

/-- Whether the directories in the name of a class lead out of the directory above that of the
group. -/
def climbs (name : String) : Bool := Path.leaves 1 (directories name)

theorem Group.name_sound (g : Group) : '/' ∉ g.name.toList ∧ g.name ≠ ".." ∧
    Path.isName g.name.toList = true := by
  cases g <;> decide

theorem Group.suffixes_sound (g : Group) : ∀ s ∈ g.suffixes, '/' ∉ s.toList := by
  cases g <;> decide

theorem isName_of_length {piece : List Char} (hpiece : 1 < piece.length) :
    Path.isName piece = true := by
  simp only [Path.isName, Bool.and_eq_true, decide_eq_true_iff]
  constructor <;> rintro rfl <;> simp at hpiece

/-- A path leads through the directory of the group and those in the name of the class. -/
theorem names_path {p : Place} {name suffix : String} (hname : p.name = name ++ suffix)
    (hsuffix : '/' ∉ suffix.toList) :
    ∃ last, last ≠ ".." ∧
      (Path.ofText p.path).names = p.group.name :: (directories name ++ [last]) := by
  obtain ⟨hslash, -, hgroup⟩ := p.group.name_sound
  have htail : '/' ∉ suffix.toList ++ ".java".toList := by
    rw [List.mem_append, not_or]
    exact ⟨hsuffix, by decide⟩
  have hpath : p.path.toList =
      p.group.name.toList ++ '/' :: (name.toList ++ (suffix.toList ++ ".java".toList)) := by
    rw [p.toList_path, hname, String.toList_append, List.append_assoc]
  obtain ⟨front, last, hsplit, happend⟩ := splitOn_append htail name.toList
  have hlong : 4 < (last ++ (suffix.toList ++ ".java".toList)).length := by
    have hjava : ".java".toList.length = 5 := rfl
    simp only [List.length_append, hjava]
    omega
  generalize last ++ (suffix.toList ++ ".java".toList) = file at happend hlong
  have hfile : Path.isName file = true := isName_of_length (by omega)
  refine ⟨String.ofList file, fun hdots => ?_, ?_⟩
  · have hdots := congrArg (fun s : String => s.toList.length) hdots
    simp only [String.toList_ofList] at hdots
    rw [hdots] at hlong
    simp at hlong
  · rw [Path.ofText, hpath, splitOn_cons hslash, happend, directories, hsplit,
      List.dropLast_concat, List.filter_cons_of_pos hgroup, List.filter_append,
      List.filter_cons_of_pos hfile]
    simp

/-- The path of a file leads out of the output directory exactly if the name of its class does. -/
theorem leaves_path {p : Place} {name suffix : String} (hname : p.name = name ++ suffix)
    (hsuffix : '/' ∉ suffix.toList) :
    Path.leaves 0 (Path.ofText p.path).names = climbs name := by
  obtain ⟨last, hlast, hnames⟩ := names_path hname hsuffix
  rw [hnames, Path.leaves, if_neg p.group.name_sound.2.1, Path.leaves_concat hlast]
  rfl

/-! ## Files that stay -/

namespace Files.Tree

variable {t t' t'' : Tree} {base l l' : Location} {p : Path}

theorem walk_sound {names : List String} (hwalk : t.walk l names = .ok l') :
    l' = Path.follow l names := by
  induction names generalizing l with
  | nil => exact (Except.ok.inj hwalk).symm
  | cons name rest ih =>
    rw [walk] at hwalk
    rw [Path.follow_cons, Path.followName]
    split at hwalk
    · cases hwalk
    · cases hwalk
    · split at hwalk
      · next hdots =>
        rw [if_pos hdots]
        exact ih hwalk
      · next hdots =>
        split at hwalk
        · cases hwalk
        · rw [if_neg hdots]
          exact ih hwalk

/-- A path leads where it leads without looking at directories. -/
theorem locate_sound (hhome : ".." ∉ t.home) (hlocate : t.locate p = .ok l) :
    l = (t.absolute p).names := by
  have horigin : Path.follow [] (t.origin p.start) = t.origin p.start := by
    cases p.start with
    | here => exact Path.follow_of_notMem hhome []
    | _ => rfl
  unfold locate at hlocate
  split at hlocate
  · cases hlocate
  · split at hlocate
    · cases hlocate
    · rw [walk_sound hlocate, absolute, Path.resolve_eq, Path.follow_append, horigin]

theorem absolute_of_home (hhome : t'.home = t.home) (p : Path) : t'.absolute p = t.absolute p := by
  have horigin : t'.origin p.start = t.origin p.start := by
    cases p.start with
    | here => exact hhome
    | _ => rfl
  rw [absolute, absolute, horigin]

/-- Files that are not below a location are the same in two trees. -/
structure SameOutside (base : Location) (t t' : Tree) : Prop where
  /-- The working directory is the same. -/
  home : t'.home = t.home
  /-- The files elsewhere are the same. -/
  files : ∀ l, ¬base <+: l → ∀ content,
    t'.get? l = some (.file content) ↔ t.get? l = some (.file content)

theorem SameOutside.refl (base : Location) (t : Tree) : t.SameOutside base t :=
  ⟨rfl, fun _ _ _ => Iff.rfl⟩

theorem SameOutside.trans (h : SameOutside base t t') (h' : SameOutside base t' t'') :
    SameOutside base t t'' :=
  ⟨h'.home.trans h.home, fun l hl content => (h'.files l hl content).trans (h.files l hl content)⟩

/-- A directory is made where there is no file. -/
theorem SameOutside.makeDirectory (hmake : t.makeDirectory p = .ok t') :
    SameOutside base t t' := by
  obtain ⟨l, -, hmake⟩ := Except.bind_eq_ok.1 hmake
  split at hmake
  · next hnone =>
    cases hmake
    refine ⟨rfl, fun k _ content => ?_⟩
    by_cases hk : k = l
    · subst hk
      have hroot : k ≠ [] := by
        rintro rfl
        cases hnone
      rw [get?_put_self hroot, hnone]
      simp
    · rw [get?_put_of_ne hk]
  · cases hmake

theorem SameOutside.ensureDirectory (hensure : t.ensureDirectory p = .ok t') :
    SameOutside base t t' := by
  unfold Tree.ensureDirectory at hensure
  split at hensure
  · split at hensure
    · cases hensure
      exact .refl base t
    · cases hensure
  · exact .makeDirectory hensure

theorem SameOutside.ensureUpward {start : Start} {names : List String}
    (hensure : t.ensureUpward start names = .ok t') : SameOutside base t t' := by
  induction names generalizing t' with
  | nil => exact .ensureDirectory hensure
  | cons name up ih =>
    unfold Tree.ensureUpward at hensure
    dsimp only at hensure
    split at hensure
    · obtain ⟨above, habove, hensure⟩ := Except.bind_eq_ok.1 hensure
      exact (ih habove).trans (.ensureDirectory hensure)
    · exact .ensureDirectory hensure

/-- The directories that lead to a place are made without a change to any file. -/
theorem SameOutside.ensureDirectories (hensure : t.ensureDirectories p = .ok t') :
    SameOutside base t t' :=
  .ensureUpward hensure

/-- A file is written where its path leads. -/
theorem SameOutside.write (hhome : ".." ∉ t.home) (hbase : base <+: (t.absolute p).names)
    {content : Content} (hwrite : t.write p content = .ok t') : SameOutside base t t' := by
  obtain ⟨l, hlocate, hwrite⟩ := Except.bind_eq_ok.1 hwrite
  split at hwrite
  · cases hwrite
  · cases hwrite
    refine ⟨rfl, fun k hk content' => ?_⟩
    have hne : k ≠ l := by
      rintro rfl
      exact hk (locate_sound hhome hlocate ▸ hbase)
    rw [get?_put_of_ne hne]

theorem SameOutside.place (hhome : ".." ∉ t.home) (hbase : base <+: (t.absolute p).names)
    {content : Content} (hplace : t.place p content = .ok t') : SameOutside base t t' := by
  obtain ⟨made, hensure, hwrite⟩ := Except.bind_eq_ok.1 hplace
  have hmade : SameOutside base t made := .ensureDirectories hensure
  rw [← absolute_of_home hmade.home] at hbase
  exact hmade.trans (.write (hmade.home ▸ hhome) hbase hwrite)

end Files.Tree

/-! ## The writer -/

namespace Filing

variable {α β : Type}

/-- The second stage starts from the tree that the first leaves, unless the first fails. -/
theorem run_bind (x : Filing α) (f : α → Filing β) (t : Files.Tree) :
    (x >>= f).run.run t =
      match x.run.run t with
      | (.ok a, t') => (f a).run.run t'
      | (.error e, t') => (.error e, t') := by
  rw [ExceptT.run_bind]
  change (StateT.run (x.run >>= _) t) = _
  rw [StateT.run_bind]
  rcases x.run.run t with ⟨_ | a, t'⟩ <;> rfl

theorem run_change (f : Files.Tree → Except Files.Failure Files.Tree) (t : Files.Tree) :
    (change f).run.run t =
      match f t with
      | .ok t' => (.ok (), t')
      | .error e => (.error e, t) := by
  rw [change, run_bind]
  change (match f t with
    | .ok t => set t
    | .error e => throw e : Filing Unit).run.run t = _
  cases f t <;> rfl

end Filing

/-- What is written first, and then the others. -/
theorem run_writeArtifacts_cons (out : Files.Path) (a : Artifact) (rest : List Artifact)
    (t : Files.Tree) :
    (writeArtifacts out (a :: rest)).run.run t =
      match t.place (a.target out) (.text a.content) with
      | .ok t' =>
        let r := (writeArtifacts out rest).run.run t'
        (r.1.map (a.target out :: ·), r.2)
      | .error e => (.error e, t) := by
  rw [writeArtifacts, List.mapM_cons, Filing.run_bind, Filing.run_bind, Filing.run_change]
  cases t.place (a.target out) (.text a.content) with
  | error e => rfl
  | ok t' =>
    dsimp only
    change ((writeArtifacts out rest >>= fun paths => pure (a.target out :: paths)) :
      Filing _).run.run t' = _
    rw [Filing.run_bind]
    rcases (writeArtifacts out rest).run.run t' with ⟨_ | paths, t''⟩ <;> rfl

/-- The path of an artifact leads on from the output directory. -/
theorem Artifact.absolute_target (a : Artifact) (t : Files.Tree) (out : Files.Path) :
    (t.absolute (a.target out)).names =
      Path.follow (t.absolute out).names (Path.ofText a.path).names := by
  have hstart : (a.target out).start = out.start := by
    simp only [Artifact.target, Path.join, a.start_path]
  rw [Tree.absolute, Tree.absolute, Path.resolve_eq, Path.resolve_eq, hstart, a.names_target,
    ← List.append_assoc, Path.follow_append]

/-- Writing changes no file that is not below a location, if the paths of all files lead below it.
-/
theorem sameOutside_writeArtifacts {base : Files.Location} {out : Files.Path}
    {artifacts : List Artifact} {t : Files.Tree} (hhome : ".." ∉ t.home)
    (hbase : ∀ a ∈ artifacts, base <+: (t.absolute (a.target out)).names) :
    t.SameOutside base ((writeArtifacts out artifacts).run.run t).2 := by
  induction artifacts generalizing t with
  | nil => exact .refl base t
  | cons a rest ih =>
    obtain ⟨hfirst, hrest⟩ := List.forall_mem_cons.1 hbase
    rw [run_writeArtifacts_cons]
    cases hplace : t.place (a.target out) (.text a.content) with
    | error e => exact .refl base t
    | ok t' =>
      have hsame : t.SameOutside base t' := .place hhome hfirst hplace
      refine hsame.trans (ih (hsame.home ▸ hhome) fun b hb => ?_)
      rw [Tree.absolute_of_home hsame.home]
      exact hrest b hb

/-- The files that are written are those of the artifacts, in order. -/
theorem paths_writeArtifacts {out : Files.Path} {artifacts : List Artifact} {t : Files.Tree}
    {paths : List Files.Path} (hwrite : ((writeArtifacts out artifacts).run.run t).1 = .ok paths) :
    paths = artifacts.map fun a => a.target out := by
  induction artifacts generalizing t paths with
  | nil => exact (Except.ok.inj hwrite).symm
  | cons a rest ih =>
    rw [run_writeArtifacts_cons] at hwrite
    cases hplace : t.place (a.target out) (.text a.content) with
    | error e =>
      rw [hplace] at hwrite
      cases hwrite
    | ok t' =>
      rw [hplace] at hwrite
      obtain ⟨others, hothers, rfl⟩ := Except.map_eq_ok.1 hwrite
      rw [ih hothers, List.map_cons]

/-! ## Diagrams -/

/-- No class or association table is called by a name that climbs. -/
def Diagram.StaysBelow (d : Diagram) : Prop := ∀ name ∈ d.typeNames, climbs name = false

instance (d : Diagram) : Decidable d.StaysBelow :=
  inferInstanceAs (Decidable (∀ name ∈ d.typeNames, climbs name = false))

/-- A file is below the output directory if the name of its class does not climb. -/
theorem Diagram.StaysBelow.target {d : Diagram} (hd : d.StaysBelow) {a : Artifact}
    (ha : a.place ∈ d.places) (t : Files.Tree) (out : Files.Path) :
    (t.absolute out).names <+: (t.absolute (a.target out)).names := by
  obtain ⟨name, hname, suffix, hsuffix, hplace⟩ := exists_of_mem_places ha
  have hleaves := leaves_path hplace (Group.suffixes_sound _ suffix hsuffix)
  rw [hd name hname, a.path_place] at hleaves
  rw [a.absolute_target]
  have hbelow : (t.absolute out).names <+:
      Path.follow ((t.absolute out).names ++ []) (Path.ofText a.path).names :=
    Path.prefix_follow hleaves
  rwa [List.append_nil] at hbelow

/-- There is an output directory with a name that is not in a list. -/
theorem exists_fresh (names : List String) :
    ∃ dir base : String, base ∉ names ∧ Path.ofText dir = ⟨.root, [base]⟩ := by
  obtain ⟨count, hcount⟩ := Infinite.exists_notMem_finset
    (names.map fun name => name.toList.length - 1).toFinset
  let letters := 'a' :: List.replicate count 'a'
  refine ⟨"/" ++ String.ofList letters, String.ofList letters, fun hmem => hcount ?_, ?_⟩
  · rw [List.mem_toFinset]
    exact List.mem_map.2 ⟨_, hmem, by simp [letters]⟩
  · have hslash : '/' ∉ letters := by simp [letters]
    have hname : Path.isName letters = true := by simp [Path.isName, letters]
    have htext : ("/" ++ String.ofList letters).toList = [] ++ '/' :: letters := by simp
    rw [Path.ofText, htext, splitOn_cons List.not_mem_nil, splitOn_of_notMem hslash,
      List.filter_cons_of_neg (by decide), List.filter_cons_of_pos hname]
    rfl

/-- A file leads out of some output directory if the name of its class climbs. -/
theorem exists_not_below {a : Artifact} (hleaves : Path.leaves 0 (Path.ofText a.path).names = true)
    (t : Files.Tree) : ∃ dir : String, ¬(t.absolute (Path.ofText dir)).names <+:
      (t.absolute (a.target (Path.ofText dir))).names := by
  obtain ⟨dir, base, hbase, hdir⟩ := exists_fresh (".." :: (Path.ofText a.path).names)
  rw [List.mem_cons, not_or] at hbase
  have hnames : (t.absolute (Path.ofText dir)).names = [base] := by
    have hclean : ".." ∉ [base] := by simpa using Ne.symm hbase.1
    rw [hdir]
    exact Path.follow_of_notMem hclean []
  have hgone : base ∉ Path.follow [base] (Path.ofText a.path).names :=
    Path.notMem_follow hleaves hbase.2 List.not_mem_nil
  refine ⟨dir, fun hbelow => hgone ?_⟩
  rw [a.absolute_target, hnames] at hbelow
  exact hbelow.subset (List.mem_singleton_self base)

/-- The files that are generated from a document are all below the output directory, whichever it
is, exactly if no class or association table is called by a name that climbs. Then writing them
changes no other file. -/
theorem artifacts_contained_iff (source : Document.Source) (r : Request) (s : Settings)
    (generated : Noted (List Artifact)) (hcompile : compile source r s = .ok generated)
    (t : Files.Tree) :
    ∃ d, Diagram.parse source = .ok d ∧
      ((∀ a ∈ generated.value, ∀ dir : String,
        (t.absolute (Path.ofText dir)).names <+:
          (t.absolute (a.target (Path.ofText dir))).names) ↔ d.value.StaysBelow) ∧
      (d.value.StaysBelow → ".." ∉ t.home → ∀ out : Files.Path,
        t.SameOutside (t.absolute out).names
          ((writeArtifacts out generated.value).run.run t).2) ∧
      ∀ (out : Files.Path) paths,
        ((writeArtifacts out generated.value).run.run t).1 = .ok paths →
          paths = generated.value.map fun a => a.target out := by
  obtain ⟨d, hparse, -, -, hplaces⟩ := places_of_compile hcompile
  have hplace : ∀ a ∈ generated.value, a.place ∈ d.value.places :=
    fun a ha => hplaces ▸ List.mem_map_of_mem ha
  refine ⟨d, hparse, ⟨fun hinside name hname => ?_, fun hd a ha dir => ?_⟩,
    fun hd hhome out => ?_, fun out paths hwrite => paths_writeArtifacts hwrite⟩
  · refine Bool.eq_false_iff.2 fun hclimbs => ?_
    have hentity := Diagram.entity_mem_places hname
    rw [← hplaces] at hentity
    obtain ⟨a, ha, haplace⟩ := List.mem_map.1 hentity
    have hleaves := leaves_path (p := ⟨.entities, name⟩) String.append_empty.symm (by decide)
    rw [hclimbs, ← haplace, a.path_place] at hleaves
    obtain ⟨dir, hdir⟩ := exists_not_below hleaves t
    exact hdir (hinside a ha dir)
  · exact hd.target (hplace a ha) t _
  · exact sameOutside_writeArtifacts hhome fun a ha => hd.target (hplace a ha) t out

/-- A class that is called by a name in a directory, and an association table whose name leads back
to the directory of its group. -/
def storage : Json.Fields :=
  [("elements", .arr
    [.obj [("id", .str "i"), ("name", .str "parts/Item")],
      .obj [("id", .str "s"), ("name", .str "../entities/Stock"),
        ("stereotype", .str "association_table")]])]

theorem artifacts_contained_storage :
    ∃ generated, compile (.object storage) {} = .ok generated ∧
      ∃ d : Noted Diagram, Diagram.parse (.object storage) = .ok d ∧
        d.value.typeNames = ["parts/Item", "../entities/Stock"] ∧ d.value.StaysBelow ∧
        let t := Files.Tree.empty ["home"]
        let out := Path.ofText "out"
        (∀ a ∈ generated.value, (t.absolute out).names <+: (t.absolute (a.target out)).names) ∧
          t.SameOutside ["home", "out"] ((writeArtifacts out generated.value).run.run t).2 := by
  have hfacts : (Diagram.parse (.object storage)).toOption.any (fun d => decide
      ((∀ c ∈ d.value.classes, ∀ a ∈ c.attributes, a.Declarable) ∧
        d.value.typeNames = ["parts/Item", "../entities/Stock"] ∧ d.value.StaysBelow)) = true := by
    decide +kernel
  obtain ⟨d, hparse, hread, hnames, hd⟩ := Except.exists_of_any hfacts
  obtain ⟨generated, hcompile⟩ := exists_compile_of_declarable hparse hread {} {}
  obtain ⟨d', hparse', hiff, hsame, -⟩ := artifacts_contained_iff (.object storage) {} {}
    generated hcompile (Files.Tree.empty ["home"])
  obtain rfl : d = d' := Except.ok.inj (hparse.symm.trans hparse')
  exact ⟨generated, hcompile, d, hparse, hnames, hd, fun a ha => hiff.2 hd a ha "out",
    hsame hd (by decide) (Path.ofText "out")⟩

/-- A class whose name leads out of the output directory. -/
def intruder : Json.Fields :=
  [("elements", .arr [.obj [("id", .str "e"), ("name", .str "../../Escaped")]])]

/-- The entity of the class is written beside the output directory. -/
theorem not_contained_intruder :
    let t := Files.Tree.empty ["home"]
    let out := Path.ofText "out"
    ∃ generated, compile (.object intruder) {} = .ok generated ∧
      (∃ a ∈ generated.value, a.path = "entities/../../Escaped.java" ∧
        (t.absolute (a.target out)).names = ["home", "Escaped.java"] ∧
        ¬(t.absolute out).names <+: (t.absolute (a.target out)).names) ∧
      (((writeArtifacts out generated.value).run.run t).2.get? ["home", "Escaped.java"]).isSome := by
  have hfacts : (compile (.object intruder) {}).toOption.any (fun generated => decide (
      (∃ a ∈ generated.value, a.path = "entities/../../Escaped.java" ∧
        ((Files.Tree.empty ["home"]).absolute (a.target (Path.ofText "out"))).names =
          ["home", "Escaped.java"] ∧
        ¬((Files.Tree.empty ["home"]).absolute (Path.ofText "out")).names <+:
          ((Files.Tree.empty ["home"]).absolute (a.target (Path.ofText "out"))).names) ∧
      (((writeArtifacts (Path.ofText "out") generated.value).run.run
        (Files.Tree.empty ["home"])).2.get? ["home", "Escaped.java"]).isSome = true)) = true := by
    decide +kernel
  exact Except.exists_of_any hfacts

end Scaffold
