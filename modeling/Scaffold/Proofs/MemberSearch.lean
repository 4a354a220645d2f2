import Scaffold.Proofs.Prediction

/-!
# The search for members

The members of a class are found by a recursion that goes on to its ancestors, remembers the members
of every class on its way, and reports what clashes when it meets a class for the first time
(`Resolve.visits_membersAlong`). So what a question reports depends on the questions that were asked
before, and from which class the recursion started.

A question visits the class that it is about and its ancestors, and reports what clashes in those
that are new (`Resolution.Explores`). Questions that are asked one after the other visit what one of
them visits (`visits_mapM`), and as nothing was known in the beginning, each class that is visited
is new exactly once.

Main statement: `members_searched`, for any questions in any order.
-/

namespace Scaffold

/-! ## Many questions -/

namespace Resolve

variable {h : Hierarchy} {α β : Type}

theorem Visits.map {x : Resolve α} {a : α} {visited : List ClassNode} (hx : Visits h x a visited)
    (f : α → β) : Visits h (f <$> x) (f a) visited := fun s₀ =>
  (hx s₀).map f fun _ _ hb => ⟨congrArg f hb.1, hb.2⟩

/-- What is visited may be named by other lists of the same classes. -/
theorem Visits.congr {x : Resolve α} {a : α} {visited visited' : List ClassNode}
    (hx : Visits h x a visited) (hsame : ∀ c, c ∈ visited ↔ c ∈ visited') :
    Visits h x a visited' := fun s₀ =>
  (hx s₀).mono fun _ _ _ hb => ⟨hb.1, hb.2.congr hsame⟩

theorem visits_pure (a : α) : Visits h (pure a) a [] := fun _ =>
  meets_pure fun _ _ hs => ⟨rfl, hs ▸ Resolution.explores_of_known (by simp)⟩

/-- Two computations one after the other visit what one of them visits. -/
theorem Visits.bind (hd : h.diagram.DistinctIds) {x : Resolve α} {a : α} {f : α → Resolve β}
    {b : β} {visited visited' : List ClassNode} (hx : Visits h x a visited)
    (hf : Visits h (f a) b visited') : Visits h (x >>= f) b (visited ++ visited') := by
  intro s₀
  refine (hx s₀).bind fun a' => meets_of_imp fun ha => meets_of_state fun s₁ _ hfirst => ?_
  rw [ha]
  exact ((hf s₁).pre fun _ hs => hs.1).mono fun _ _ _ hb => ⟨hb.1, hfirst.trans hd hb.2⟩

/-- Any number of computations one after the other give what each of them gives, and visit what one
of them visits. -/
theorem visits_mapM (hd : h.diagram.DistinctIds) {f : α → Resolve β} {g : α → β}
    {visited : α → List ClassNode} {l : List α}
    (hf : ∀ a ∈ l, Visits h (f a) (g a) (visited a)) :
    Visits h (l.mapM f) (l.map g) (l.flatMap visited) := by
  induction l with
  | nil => exact visits_pure []
  | cons a rest ih =>
    obtain ⟨hfirst, hrest⟩ := List.forall_mem_cons.1 hf
    rw [List.mapM_cons]
    have hmore := (ih hrest).map (g a :: ·)
    rw [← bind_pure_comp] at hmore
    exact hfirst.bind hd hmore

/-- The members along the chain of a class are found by visiting the class and its ancestors. -/
theorem visits_chain (hd : h.diagram.DistinctIds) (hh : h.WellFormed) {c : ClassNode}
    (hc : c ∈ h.diagram.classes) :
    Visits h ((h.chain c).mapM (membersOf h)) ((h.chain c).map h.membersOf)
      (c :: h.ancestors c) := by
  have hloop := visits_mapM hd fun a (ha : a ∈ h.chain c) =>
    visits_membersOf hd hh (hh.mem_classes_of_mem_chain hc ha)
  refine hloop.congr fun b => ?_
  simp only [List.mem_flatMap, List.mem_cons, Hierarchy.mem_chain]
  constructor
  · rintro ⟨a, ha | rfl, rfl | hb⟩
    · exact .inr ha
    · exact .inr (hh.ancestors_subset ha hb)
    · exact .inl rfl
    · exact .inr hb
  · rintro (rfl | hb)
    · exact ⟨b, .inr rfl, .inl rfl⟩
    · exact ⟨b, .inl hb, .inl rfl⟩

end Resolve

/-! ## Questions -/

/-- A question about the members of a class. -/
inductive MemberQuestion where
  /-- Which columns it has. -/
  | scalars (c : ClassNode)
  /-- Which references it has. -/
  | references (c : ClassNode)
  /-- Which of its columns have derived queries. -/
  | queried (c : ClassNode)
  /-- Which columns there are along its chain. -/
  | chainScalars (c : ClassNode)
  /-- Which references there are along its chain. -/
  | chainReferences (c : ClassNode)
  deriving DecidableEq

namespace MemberQuestion

/-- Questions are answered by columns or by references. -/
abbrev Answer : Type := List ScalarMember ⊕ List ReferenceMember

/-- The class that a question is about. -/
def subject : MemberQuestion → ClassNode
  | .scalars c | .references c | .queried c | .chainScalars c | .chainReferences c => c

/-- A question looks at a class: at the one that it is about, or at one of its ancestors. -/
def LooksAt (h : Hierarchy) (q : MemberQuestion) (c : ClassNode) : Prop :=
  c ∈ q.subject :: h.ancestors q.subject

instance (h : Hierarchy) (q : MemberQuestion) (c : ClassNode) : Decidable (q.LooksAt h c) :=
  inferInstanceAs (Decidable (c ∈ q.subject :: h.ancestors q.subject))

/-- The columns of some classes, of those with one field the first. -/
def columns (found : List Members) : List ScalarMember :=
  distinctBy (·.fieldName) (found.flatMap (·.scalars))

/-- The references of some classes, of those with one field the first. -/
def links (found : List Members) : List ReferenceMember :=
  distinctBy (·.fieldName) (found.flatMap (·.references))

/-- Answers a question from what is remembered, and remembers what is found. -/
def ask (h : Hierarchy) (limit : Int) : MemberQuestion → Resolve Answer
  | .scalars c => (fun m => .inl m.scalars) <$> Resolve.membersOf h c
  | .references c => (fun m => .inr m.references) <$> Resolve.membersOf h c
  | .queried c => (fun m => .inl (m.queried limit)) <$> Resolve.membersOf h c
  | .chainScalars c =>
    (fun found => .inl (columns found)) <$> (h.chain c).mapM (Resolve.membersOf h)
  | .chainReferences c =>
    (fun found => .inr (links found)) <$> (h.chain c).mapM (Resolve.membersOf h)

/-- The answer to a question without a memory. -/
def answer (h : Hierarchy) (limit : Int) : MemberQuestion → Answer
  | .scalars c => .inl (h.membersOf c).scalars
  | .references c => .inr (h.membersOf c).references
  | .queried c => .inl ((h.membersOf c).queried limit)
  | .chainScalars c => .inl (columns ((h.chain c).map h.membersOf))
  | .chainReferences c => .inr (links ((h.chain c).map h.membersOf))

/-- What a context says to a question. -/
def read (ctx : Context) : MemberQuestion → Answer
  | .scalars c => .inl (ctx.membersOf c).scalars
  | .references c => .inr (ctx.membersOf c).references
  | .queried c => .inl (ctx.queried c)
  | .chainScalars c => .inl (ctx.chainScalars c)
  | .chainReferences c => .inr (ctx.chainReferences c)

/-- A question is answered as it is without a memory. -/
theorem visits_ask {h : Hierarchy} (hd : h.diagram.DistinctIds) (hh : h.WellFormed) (limit : Int)
    {q : MemberQuestion} (hq : q.subject ∈ h.diagram.classes) :
    Resolve.Visits h (q.ask h limit) (q.answer h limit) (q.subject :: h.ancestors q.subject) := by
  cases q with
  | scalars c | references c | queried c => exact (Resolve.visits_membersOf hd hh hq).map _
  | chainScalars c | chainReferences c => exact (Resolve.visits_chain hd hh hq).map _

/-- A built context says what is answered without a memory. -/
theorem read_build {d : Diagram} (hd : d.DistinctIds) (basePackage : String) (limit : Int)
    {q : MemberQuestion} (hq : q.subject ∈ d.classes) :
    q.read (Context.build d basePackage limit).value =
      q.answer (Hierarchy.ofDiagram d).value limit := by
  have hh := Hierarchy.wellFormed_ofDiagram d
  have hmembers := fun c (hc : c ∈ d.classes) => Context.membersOf_build hd basePackage limit hc
  have hchain : ∀ c ∈ d.classes,
      ((Hierarchy.ofDiagram d).value.chain c).map
        (Context.build d basePackage limit).value.membersOf =
      ((Hierarchy.ofDiagram d).value.chain c).map (Hierarchy.ofDiagram d).value.membersOf :=
    fun c hc => List.map_congr_left fun a ha => hmembers a (hh.mem_classes_of_mem_chain hc ha)
  cases q with
  | scalars c => exact congrArg (fun m => (.inl m.scalars : Answer)) (hmembers c hq)
  | references c => exact congrArg (fun m => (.inr m.references : Answer)) (hmembers c hq)
  | queried c => exact congrArg (fun m => (.inl (m.queried limit) : Answer)) (hmembers c hq)
  | chainScalars c =>
    rw [answer, ← hchain c hq, columns, List.flatMap_map]
    rfl
  | chainReferences c =>
    rw [answer, ← hchain c hq, links, List.flatMap_map]
    rfl

end MemberQuestion

/-- In a diagram without repeated ids, any questions about members that are asked one after the
other are answered as each of them is when it is the first, and as the built context answers it.
What is reported on the way is what clashes in the classes that one of the questions looks at, once
for each of these classes, whatever the order and however often they are looked at. -/
theorem members_searched (d : Diagram) (hd : d.DistinctIds) (basePackage : String) (limit : Int)
    (questions : List MemberQuestion) (hquestions : ∀ q ∈ questions, q.subject ∈ d.classes) :
    let h := (Hierarchy.ofDiagram d).value
    let ctx := (Context.build d basePackage limit).value
    let asked := (questions.mapM (MemberQuestion.ask h limit)).run {}
    asked.1 = (questions.map fun q => ((q.ask h limit).run {}).1) ∧
      asked.1 = questions.map (MemberQuestion.read ctx) ∧
      asked.2.notes.Perm
        ((d.classes.filter fun c => ∃ q ∈ questions, q.LooksAt h c).flatMap h.clashes) := by
  intro h ctx asked
  have hh : h.WellFormed := Hierarchy.wellFormed_ofDiagram d
  have hask := fun q hq => MemberQuestion.visits_ask hd hh limit (hquestions q hq)
  obtain ⟨-, -, hanswers, hexplores⟩ :=
    Resolve.visits_mapM hd hask {} {} (Resolution.sound_empty h) rfl
  refine ⟨hanswers.trans (List.map_congr_left fun q hq => ?_),
    hanswers.trans (List.map_congr_left fun q hq => ?_), ?_⟩
  · exact (hask q hq {} {} (Resolution.sound_empty h) rfl).2.2.1.symm
  · exact (MemberQuestion.read_build hd basePackage limit (hquestions q hq)).symm
  · -- Nothing is known in the beginning, so all that is visited is new.
    have hnews : Resolution.news h {} asked.2 =
        d.classes.filter fun c => ∃ q ∈ questions, q.LooksAt h c := by
      refine List.filter_congr fun c hc => decide_eq_decide.2 ?_
      rw [hexplores.known c hc, List.mem_flatMap]
      simp [Resolution.KnowsMembers, MemberQuestion.LooksAt]
    rw [← hnews]
    exact hexplores.notes

/-- Works have two attributes with one field. -/
def work : ClassNode where
  id := "1"
  name := "Work"
  attributes := [{ name := "title" }, { name := "Title" }]

/-- Artists have two attributes with one field, too. -/
def artist : ClassNode where
  id := "2"
  name := "Artist"
  attributes := [{ name := "name" }, { name := "Name" }]

/-- Paintings are works with an artist, and with a column that takes the artist's id field. -/
def painting : ClassNode where
  id := "3"
  name := "Painting"
  attributes :=
    [{ name := "artist", isForeignKey := true, referencedEntity := some "Artist" },
      { name := "artist_id", type := "Long" }]

/-- Frescos are paintings. -/
def fresco : ClassNode where
  id := "4"
  name := "Fresco"
  attributes := [{ name := "wall" }, { name := "Wall" }]

/-- Works, paintings and frescos, and artists. -/
def gallery : Diagram where
  classes := [work, artist, painting, fresco]
  relationships := [parentEdge "1" "3", parentEdge "3" "4"]

theorem members_searched_gallery :
    let h := (Hierarchy.ofDiagram gallery).value
    let questions : List MemberQuestion :=
      [.references fresco, .chainScalars painting, .queried work, .references fresco]
    let asked := (questions.mapM (MemberQuestion.ask h 3)).run {}
    gallery.DistinctIds ∧ (∀ q ∈ questions, q.subject ∈ gallery.classes) ∧
      asked.1 = (questions.map fun q => ((q.ask h 3).run {}).1) ∧
      asked.2.notes.Perm
        ((gallery.classes.filter fun c => ∃ q ∈ questions, q.LooksAt h c).flatMap h.clashes) ∧
      (asked.2.notes.map fun n => (n.classId, n.field)) =
        [(some "4", some "Wall"), (some "1", some "Title"), (some "3", some "artist"),
          (some "3", some "artist")] := by
  intro h questions asked
  have hd : gallery.DistinctIds := by
    unfold Diagram.DistinctIds
    decide
  have hquestions : ∀ q ∈ questions, q.subject ∈ gallery.classes := by decide
  obtain ⟨hanswers, -, hnotes⟩ := members_searched gallery hd "com.example" 3 questions hquestions
  exact ⟨hd, hquestions, hanswers, hnotes, by decide +kernel⟩

end Scaffold
