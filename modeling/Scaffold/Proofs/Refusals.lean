import Scaffold.Proofs.Decoded
import Scaffold.Proofs.Reach

/-!
# How documents are refused

A document that cannot be read is to be refused for its form, whatever kinds of values stand in its
fields. An error that says something else escapes (`Escapes`). The rules for computations that are
put together say where an escaping error comes from, and leave three places: the reader of the text,
at what is beyond its reach (`Source.Overreaches`), the methods of a class, which are iterated
whatever they are, and the values that are shown though they hold an integer with too many digits.
`Stuck` describes the last two, with one predicate for each part of a document. Values that cannot
be shown are found in objects only that no text is decoded to.

Main statement: `refused_iff`, about plain documents. With a surrogate that is not paired the making
of an id ends with an error of its own, and the model has no such characters (`Source.Plain`).
-/

namespace Scaffold

open Json

/-- A computation ends with an error that is not about the form of a document. -/
def Escapes {α : Type} (x : Except DocumentError α) (e : DocumentError) : Prop :=
  x = .error e ∧ e.isMalformed = false

section Escapes

variable {α β : Type} {e : DocumentError}

/-! ## Rules -/

theorem not_escapes_ok (a : α) : ¬Escapes (.ok a : Except DocumentError α) e := fun h => nomatch h.1

theorem not_escapes_error {e' : DocumentError} (he' : e'.isMalformed = true) :
    ¬Escapes (.error e' : Except DocumentError α) e := by
  rintro ⟨he, hform⟩
  cases he
  rw [he'] at hform
  cases hform

/-- No error escapes from a computation if it has a result or ends with an error of form. -/
theorem forall_not_escapes_iff {x : Except DocumentError α} :
    (∀ e, ¬Escapes x e) ↔ (∃ a, x = .ok a) ∨ ∃ e, x = .error e ∧ e.isMalformed = true := by
  cases x <;> simp [Escapes]

/-- An error escapes from the first of two computations, or from the second if the first has a
result. -/
theorem escapes_bind_iff {x : Except DocumentError α} {f : α → Except DocumentError β} :
    Escapes (x >>= f) e ↔ Escapes x e ∨ ∃ a, x = .ok a ∧ Escapes (f a) e := by
  cases x <;> simp [Escapes, bind, Except.bind]

theorem escapes_bind_pure_iff {x : Except DocumentError α} {f : α → β} :
    Escapes (x >>= fun a => pure (f a)) e ↔ Escapes x e := by
  cases x <;> simp [Escapes, bind, Except.bind, pure, Except.pure]

theorem escapes_map_iff {x : Except DocumentError α} {f : α → β} :
    Escapes (x.map f) e ↔ Escapes x e := by
  cases x <;> simp [Escapes, Except.map]

/-- An error escapes from a loop at the first member of the list that has no result. -/
theorem escapes_mapM_iff {f : α → Except DocumentError β} {l : List α} :
    Escapes (l.mapM f) e ↔ ∃ before a after, l = before ++ a :: after ∧
      (∀ b ∈ before, ∃ c, f b = .ok c) ∧ Escapes (f a) e := by
  induction l with
  | nil => simp [Escapes, pure, Except.pure]
  | cons a rest ih =>
    -- the loop ends at the first member, or that one is read and joins those in front
    rw [List.mapM_cons, escapes_bind_iff]
    constructor
    · rintro (hfirst | ⟨c, hc, hrest⟩)
      · exact ⟨[], a, rest, rfl, by simp, hfirst⟩
      · obtain ⟨before, b, after, rfl, hbefore, hb⟩ := ih.1 (escapes_bind_pure_iff.1 hrest)
        exact ⟨a :: before, b, after, rfl, List.forall_mem_cons.2 ⟨⟨c, hc⟩, hbefore⟩, hb⟩
    · rintro ⟨before, b, after, hl, hbefore, hb⟩
      cases before with
      | nil =>
        obtain ⟨rfl, rfl⟩ := List.cons.inj hl
        exact .inl hb
      | cons b' before =>
        obtain ⟨rfl, rfl⟩ := List.cons.inj hl
        obtain ⟨⟨c, hc⟩, hbefore⟩ := List.forall_mem_cons.1 hbefore
        refine .inr ⟨c, hc, escapes_bind_pure_iff.2 (ih.2 ?_)⟩
        exact ⟨before, b, after, rfl, hbefore, hb⟩

end Escapes

/-! ## Records -/

namespace Checked

variable {α β : Type} {kind : String}

/-- Reading a part does not end with something that had to be iterated. -/
def Settles (x : Checked α) : Prop := ∀ kind, x ≠ .notIterable kind

theorem settles_valid (a : α) : (valid a).Settles := nofun

theorem settles_issue (kind : IssueKind) : (issue kind : Checked α).Settles := nofun

theorem settles_ite {p : Prop} [Decidable p] {x y : Checked α} (hx : x.Settles)
    (hy : y.Settles) : (if p then x else y).Settles := by
  split
  · exact hx
  · exact hy

theorem Settles.under {x : Checked α} (hx : x.Settles) (step : PathStep) :
    (x.under step).Settles := by
  cases x with
  | valid | invalid => nofun
  | notIterable kind => exact absurd rfl (hx kind)

theorem map_eq_notIterable {f : α → β} {x : Checked α} :
    f <$> x = .notIterable kind ↔ x = .notIterable kind := by
  change x.map f = .notIterable kind ↔ _
  cases x <;> simp [map]

theorem under_eq_notIterable {x : Checked α} {step : PathStep} :
    x.under step = .notIterable kind ↔ x = .notIterable kind := by
  cases x <;> simp [under]

/-- If the second of two parts settles, the first decides. -/
theorem seq_eq_notIterable {f : Checked (α → β)} {x : Checked α} (hx : x.Settles) :
    f <*> x = .notIterable kind ↔ f = .notIterable kind := by
  change f.both x = .notIterable kind ↔ _
  cases x with
  | notIterable kind => exact absurd rfl (hx kind)
  | valid | invalid => cases f <;> simp [both]

theorem Settles.map {x : Checked α} (hx : x.Settles) (f : α → β) : (f <$> x).Settles :=
  fun kind h => hx kind (map_eq_notIterable.1 h)

theorem Settles.seq {f : Checked (α → β)} {x : Checked α} (hf : f.Settles) (hx : x.Settles) :
    (f <*> x).Settles :=
  fun kind h => hf kind ((seq_eq_notIterable hx).1 h)

/-- Issues are about the form of a document, and something that had to be iterated is not. -/
theorem escapes_orError_iff {x : Checked α} {error : List Issue → DocumentError}
    (herror : ∀ issues, (error issues).isMalformed = true) {e : DocumentError} :
    Escapes (x.orError error) e ↔ ∃ kind, x = .notIterable kind ∧ e = .notIterable kind := by
  cases x with
  | valid a => simp [orError, not_escapes_ok]
  | invalid issues => simp [orError, not_escapes_error (herror issues)]
  | notIterable kind =>
    simp only [orError, Escapes, Except.error.injEq, notIterable.injEq, exists_eq_left']
    constructor
    · exact fun h => h.1.symm
    · rintro rfl
      exact ⟨rfl, rfl⟩

theorem Settles.not_escapes {x : Checked α} (hx : x.Settles)
    {error : List Issue → DocumentError} (herror : ∀ issues, (error issues).isMalformed = true)
    {e : DocumentError} : ¬Escapes (x.orError error) e := by
  rw [escapes_orError_iff herror]
  rintro ⟨kind, hkind, -⟩
  exact hx kind hkind

end Checked

namespace Record

open Checked

variable {α : Type} {f : Fields} {name : FieldName} {read : Value → Checked α}

theorem settles_fieldOr {default : α} (hread : ∀ v, (read v).Settles) :
    (fieldOr f name default read).Settles := by
  unfold fieldOr
  split
  · exact (hread _).under _
  · exact settles_valid default

theorem settles_requiredField (hread : ∀ v, (read v).Settles) :
    (requiredField f name read).Settles := by
  unfold requiredField
  split
  · exact (hread _).under _
  · exact (settles_issue _).under _

theorem settles_text (v : Value) : (text v).Settles := by cases v <;> nofun

theorem settles_textOrNull (v : Value) : (textOrNull v).Settles := by cases v <;> nofun

theorem settles_textOrBlank (v : Value) : (textOrBlank v).Settles := by cases v <;> nofun

theorem settles_textOr (default : String) (v : Value) : (textOr default v).Settles := by
  unfold textOr
  exact settles_ite (settles_text v) (settles_valid default)

theorem settles_shownText (v : Value) : (shownText v).Settles := by
  unfold shownText
  split
  · exact settles_valid _
  · exact settles_ite (settles_valid _) (settles_issue _)

theorem settles_anyValue (v : Value) : (anyValue v).Settles := by cases v <;> nofun

theorem settles_truthOfInt (i : Int) : (truthOfInt i).Settles := by
  unfold truthOfInt
  exact settles_ite (settles_valid _) <| settles_ite (settles_valid _) <|
    settles_ite (settles_issue _) (settles_issue _)

theorem settles_flag (v : Value) : (flag v).Settles := by
  cases v with
  | null | bool | arr | obj => nofun
  | int i => exact settles_truthOfInt i
  | float x =>
    rw [flag]
    split
    · exact settles_ite (settles_issue _) (settles_truthOfInt _)
    · exact settles_issue _
  | str s =>
    rw [flag]
    exact settles_ite (settles_valid _) <| settles_ite (settles_valid _) (settles_issue _)

/-- Truth values and numbers cannot be iterated. -/
theorem methodTexts_eq_notIterable {v : Value} {kind : String} :
    methodTexts v = .notIterable kind ↔
      v.kind ∈ [Kind.bool, .int, .float] ∧ kind = v.kind.word := by
  cases v with
  | arr items =>
    have hsettles : (methodTexts (.arr items)).Settles := by
      rw [methodTexts]
      exact settles_ite (settles_valid _) (settles_issue _)
    simp [hsettles kind, Value.kind]
  | _ => simp [methodTexts, Value.kind, eq_comm]

end Record

section

open Record

/-- No value in the fields of an attribute has to be iterated. -/
theorem Attribute.settles_ofFields (f : Fields) : (Attribute.ofFields f).Settles :=
  (settles_requiredField settles_text).map _
    |>.seq (settles_fieldOr (settles_textOr _))
    |>.seq (settles_fieldOr settles_textOrBlank)
    |>.seq (settles_fieldOr (settles_textOr _))
    |>.seq (settles_fieldOr settles_flag)
    |>.seq (settles_fieldOr settles_flag)
    |>.seq (settles_fieldOr settles_flag)
    |>.seq (settles_fieldOr settles_textOrBlank)
    |>.seq (settles_fieldOr settles_textOrBlank)
    |>.seq (settles_fieldOr settles_textOrBlank)
    |>.seq (settles_fieldOr settles_flag)
    |>.seq (settles_fieldOr settles_anyValue)

/-- No value in the fields of an edge has to be iterated. -/
theorem Relationship.settles_ofFields (f : Fields) : (Relationship.ofFields f).Settles :=
  (settles_requiredField settles_text).map _
    |>.seq (settles_requiredField settles_text)
    |>.seq (settles_requiredField settles_text)
    |>.seq (settles_fieldOr settles_text)
    |>.seq (settles_fieldOr settles_shownText)
    |>.seq (settles_fieldOr settles_shownText)
    |>.seq (settles_fieldOr settles_shownText)
    |>.seq (settles_fieldOr settles_textOrNull)
    |>.seq (settles_fieldOr settles_textOrNull)

end

/-! ## Documents -/

namespace Document

/-- Reading a class gets to its name being shown: its id can be shown, id and name are there, and
its attributes are read. -/
structure ReachesName (fields : Fields) : Prop where
  /-- The id can be shown. -/
  showable : (valueOf fields "id").isShowable = true
  /-- The id is there. -/
  id : isMissing (valueOf fields "id") = false
  /-- The name is there. -/
  name : (valueOf fields "name").isGiven = true
  /-- The attributes are read. -/
  attributes : ∃ attributes,
    readAttributes (valueOf fields "id").shown (valueOf fields "attributes") = .ok attributes

/-- Reading a class gets stuck: its id or its name cannot be shown, or its methods are `true` or a
number that is not zero. -/
inductive ClassStuck (fields : Fields) : DocumentError → Prop where
  /-- The id cannot be shown. -/
  | id (hid : (valueOf fields "id").isShowable = false) : ClassStuck fields .unshowable
  /-- The name cannot be shown. -/
  | name (hreached : ReachesName fields) (hname : (valueOf fields "name").isShowable = false) :
    ClassStuck fields .unshowable
  /-- The methods cannot be iterated. -/
  | methods (hreached : ReachesName fields) (hname : (valueOf fields "name").isShowable = true)
    (hgiven : (valueOf fields "methods").isGiven = true)
    (hscalar : (valueOf fields "methods").kind ∈ [Kind.bool, .int, .float]) :
    ClassStuck fields (.notIterable (valueOf fields "methods").kind.word)

/-- Reading an element gets stuck: it is a class that does, or it is no class and its id or its type
cannot be shown. -/
inductive ElementStuck : Value → DocumentError → Prop where
  /-- A class. -/
  | node {fields : Fields} {e : DocumentError}
    (htype : fields.get? "type" = none ∨ fields.get? "type" = some (.str "class"))
    (hstuck : ClassStuck fields e) : ElementStuck (.obj fields) e
  /-- An element of another type. -/
  | other {fields : Fields} {type : Value} (htype : fields.get? "type" = some type)
    (hother : type ≠ .str "class")
    (hshown : (valueOf fields "id").isShowable = false ∨ type.isShowable = false) :
    ElementStuck (.obj fields) .unshowable

/-- Reading a connection gets stuck: one of the values that are shown cannot be. -/
def ConnectionStuck (v : Value) : Prop :=
  ∃ fields : Fields, v = .obj fields ∧ ∃ w ∈ shownValues fields, w.isShowable = false

/-- Reading a document gets stuck, at an element or at a connection: both containers are there, and
everything in front of it is read. -/
inductive Stuck (fields : Fields) : DocumentError → Prop where
  /-- At an element. -/
  | element {elements connections : List Value} {before after : List (Value × Nat)}
    {p : Value × Nat} {e : DocumentError} (helements : container fields "elements" = .ok elements)
    (hconnections : container fields "connections" = .ok connections)
    (hsplit : elements.zipIdx = before ++ p :: after)
    (hbefore : ∀ q ∈ before, ∃ n, readElement q.2 q.1 = .ok n) (hstuck : ElementStuck p.1 e) :
    Stuck fields e
  /-- At a connection. -/
  | connection {elements connections before after : List Value} {v : Value}
    (helements : container fields "elements" = .ok elements)
    (hconnections : container fields "connections" = .ok connections)
    (hread : ∀ p ∈ elements.zipIdx, ∃ n, readElement p.2 p.1 = .ok n)
    (hsplit : connections = before ++ v :: after)
    (hbefore : ∃ read, readConnections 0 [] before = .ok read) (hstuck : ConnectionStuck v) :
    Stuck fields .unshowable

/-! ## Documents that can be shown -/

theorem not_showable_of_valueOf {fields : Fields} {key : String}
    (hvalue : (valueOf fields key).isShowable = false) : ¬Showable (.obj fields) := by
  intro hfields
  rw [showable_valueOf hfields key] at hvalue
  cases hvalue

theorem exists_of_mem_shownValues {fields : Fields} {v : Value} (hv : v ∈ shownValues fields) :
    ∃ key, v = valueOf fields key := by
  unfold shownValues at hv
  dsimp only at hv
  split at hv
  · rcases List.mem_pair.1 hv with rfl | rfl
    · exact ⟨_, rfl⟩
    · exact ⟨_, rfl⟩
  · split at hv
    · simp only [List.mem_cons, List.not_mem_nil, or_false] at hv
      rcases hv with rfl | rfl | rfl | rfl
      all_goals exact ⟨_, rfl⟩
    · simp only [List.mem_cons, List.not_mem_nil, or_false] at hv
      rcases hv with rfl | rfl | rfl
      all_goals exact ⟨_, rfl⟩

theorem ElementStuck.not_showable {v : Value} (hstuck : ElementStuck v .unshowable) :
    ¬Showable v := by
  cases hstuck with
  | node htype hstuck =>
    cases hstuck with
    | id hid => exact not_showable_of_valueOf hid
    | name hreached hname => exact not_showable_of_valueOf hname
  | @other fields type htype hother hshown =>
    have hvalue : valueOf fields "type" = type := by rw [valueOf, htype, Option.getD_some]
    rcases hshown with hid | htype
    · exact not_showable_of_valueOf hid
    · exact not_showable_of_valueOf (hvalue ▸ htype)

theorem ConnectionStuck.not_showable {v : Value} (hstuck : ConnectionStuck v) : ¬Showable v := by
  obtain ⟨fields, rfl, w, hw, hfalse⟩ := hstuck
  obtain ⟨key, rfl⟩ := exists_of_mem_shownValues hw
  exact not_showable_of_valueOf hfalse

/-- If all of a document can be shown, reading it does not get stuck at a value that cannot be. -/
theorem Stuck.not_showable {fields : Fields} (hstuck : Stuck fields .unshowable) :
    ¬Showable (.obj fields) := by
  intro hfields
  cases hstuck with
  | element helements hconnections hsplit hbefore hstuck =>
    have hmem := List.fst_mem_of_mem_zipIdx (hsplit ▸ List.mem_append_right _ List.mem_cons_self)
    exact hstuck.not_showable (showable_of_container hfields helements _ hmem)
  | connection helements hconnections hread hsplit hbefore hstuck =>
    have hmem := hsplit ▸ List.mem_append_right _ List.mem_cons_self
    exact hstuck.not_showable (showable_of_container hfields hconnections _ hmem)

/-! ## Reading -/

variable {e : DocumentError}

theorem not_escapes_container (fields : Fields) (key : String) :
    ¬Escapes (container fields key) e := by
  unfold container
  split
  · exact not_escapes_ok _
  · exact not_escapes_ok _
  · exact not_escapes_ok _
  · exact not_escapes_error rfl

theorem not_escapes_readAttribute (label : String) (index : Nat) (v : Value) :
    ¬Escapes (readAttribute label index v) e := by
  cases v with
  | str s => exact not_escapes_ok _
  | obj fields =>
    rw [readAttribute]
    split
    · rw [escapes_map_iff]
      exact (Attribute.settles_ofFields fields).not_escapes fun _ => rfl
    · exact not_escapes_ok _
  | _ => exact not_escapes_error rfl

theorem not_escapes_readAttributes (label : String) (v : Value) :
    ¬Escapes (readAttributes label v) e := by
  cases v with
  | null => exact not_escapes_ok _
  | arr items =>
    rw [readAttributes, escapes_mapM_iff]
    rintro ⟨before, p, after, -, -, hp⟩
    exact not_escapes_readAttribute _ _ _ hp
  | _ => exact not_escapes_error rfl

theorem escapes_ensureShowable_iff {values : List Value} :
    Escapes (ensureShowable values) e ↔
      e = .unshowable ∧ ∃ v ∈ values, v.isShowable = false := by
  unfold ensureShowable
  split
  · next hall =>
    rw [List.all_eq_true] at hall
    simp only [not_escapes_ok, false_iff]
    rintro ⟨-, v, hv, hfalse⟩
    rw [hall v hv] at hfalse
    cases hfalse
  · next hall =>
    have hexists : ∃ v ∈ values, v.isShowable = false := by simpa using hall
    simp only [hexists, and_true]
    constructor
    · exact fun h => (Except.error.inj h.1).symm
    · rintro rfl
      exact ⟨rfl, rfl⟩

/-- An error escapes from what is read after some values are shown, or where they are shown. -/
theorem escapes_ensureShowable_bind_iff {α : Type} {values : List Value}
    {f : Unit → Except DocumentError α} :
    Escapes (ensureShowable values >>= f) e ↔
      (e = .unshowable ∧ ∃ v ∈ values, v.isShowable = false) ∨
        (∀ v ∈ values, v.isShowable = true) ∧ Escapes (f ()) e := by
  rw [escapes_bind_iff, escapes_ensureShowable_iff, ← ensureShowable_eq_ok]
  exact or_congr_right ⟨fun ⟨(), h⟩ => h, fun h => ⟨(), h⟩⟩

/-- When the parts of a class are put together, an error escapes at the methods only. -/
theorem escapes_makeClass_iff {fields : Fields} {attributes : List (Option Attribute)}
    {label : String} :
    Escapes ((makeClass fields attributes).orError (.invalidClass label)) e ↔
      (valueOf fields "methods").isGiven = true ∧
        (valueOf fields "methods").kind ∈ [Kind.bool, .int, .float] ∧
          e = .notIterable (valueOf fields "methods").kind.word := by
  rw [Checked.escapes_orError_iff fun _ => rfl]
  unfold makeClass
  simp only [Checked.seq_eq_notIterable ((Record.settles_textOr _ _).under _),
    Checked.seq_eq_notIterable ((Record.settles_textOrNull _).under _),
    Checked.map_eq_notIterable, Checked.under_eq_notIterable]
  split
  · next hgiven => simp [hgiven, Record.methodTexts_eq_notIterable, and_assoc]
  · next hgiven => simp [hgiven]

/-- What is left of the reading of a class when its name is shown. -/
theorem ReachesName.exists_rest {fields : Fields} (hreached : ReachesName fields) (index : Nat) :
    ∃ attributes, readClass fields index = (do
      ensureShowable [valueOf fields "name"]
      let node ← (makeClass fields attributes).orError
        (.invalidClass (valueOf fields "id").shown)
      return ⟨node, attributeNotes (valueOf fields "id").shown attributes⟩) := by
  obtain ⟨attributes, hattributes⟩ := hreached.attributes
  have hshown : ensureShowable [valueOf fields "id"] = .ok () :=
    ensureShowable_eq_ok.2 (by simpa using hreached.showable)
  have hnamed : ¬(isMissing (valueOf fields "id") || !(valueOf fields "name").isGiven) = true := by
    simp [hreached.id, hreached.name]
  refine ⟨attributes, ?_⟩
  unfold readClass
  dsimp only
  rw [hshown, if_neg hnamed, hattributes]
  rfl

/-- From the reading of a class an error escapes where its id or its name is shown, or at its
methods. -/
theorem escapes_readClass_iff {fields : Fields} {index : Nat} :
    Escapes (readClass fields index) e ↔ ClassStuck fields e := by
  constructor
  · intro hescapes
    obtain ⟨rfl, hid⟩ | ⟨hid, hrest⟩ := escapes_ensureShowable_bind_iff.1 hescapes
    · exact .id (by simpa using hid)
    dsimp only at hrest
    split at hrest
    · exact absurd hrest (not_escapes_error rfl)
    next hnamed =>
    rw [Bool.or_eq_true, Bool.not_eq_true', not_or, Bool.not_eq_true, Bool.not_eq_false]
      at hnamed
    obtain hattributes | ⟨attributes, hattributes, hrest⟩ := escapes_bind_iff.1 hrest
    · exact absurd hattributes (not_escapes_readAttributes _ _)
    have hreached : ReachesName fields :=
      ⟨by simpa using hid, hnamed.1, hnamed.2, attributes, hattributes⟩
    obtain ⟨rfl, hname⟩ | ⟨hname, hrest⟩ := escapes_ensureShowable_bind_iff.1 hrest
    · exact .name hreached (by simpa using hname)
    obtain ⟨hgiven, hscalar, rfl⟩ := escapes_makeClass_iff.1 (escapes_bind_pure_iff.1 hrest)
    exact .methods hreached (by simpa using hname) hgiven hscalar
  · intro hstuck
    cases hstuck with
    | id hid => exact escapes_ensureShowable_bind_iff.2 (.inl ⟨rfl, by simpa using hid⟩)
    | name hreached hname =>
      obtain ⟨attributes, hrest⟩ := hreached.exists_rest index
      rw [hrest, escapes_ensureShowable_bind_iff]
      exact .inl ⟨rfl, by simpa using hname⟩
    | methods hreached hname hgiven hscalar =>
      obtain ⟨attributes, hrest⟩ := hreached.exists_rest index
      rw [hrest, escapes_ensureShowable_bind_iff, escapes_bind_pure_iff, escapes_makeClass_iff]
      exact .inr ⟨by simpa using hname, hgiven, hscalar, rfl⟩

/-- An element that is a class gets stuck where the class does. -/
theorem elementStuck_iff_of_class {fields : Fields}
    (htype : fields.get? "type" = none ∨ fields.get? "type" = some (.str "class")) :
    ElementStuck (.obj fields) e ↔ ClassStuck fields e := by
  constructor
  · rintro (⟨-, hstuck⟩ | ⟨hother, hclass, -⟩)
    · exact hstuck
    · rcases htype with hnone | hnode
      · rw [hnone] at hother
        cases hother
      · rw [hnode] at hother
        exact absurd (Option.some.inj hother).symm hclass
  · exact .node htype

/-- An element of another type gets stuck where its id and its type are shown. -/
theorem elementStuck_iff_of_other {fields : Fields} {type : Value}
    (htype : fields.get? "type" = some type) (hother : type ≠ .str "class") :
    ElementStuck (.obj fields) e ↔ e = .unshowable ∧
      ((valueOf fields "id").isShowable = false ∨ type.isShowable = false) := by
  constructor
  · rintro (⟨hnone | hnode, -⟩ | ⟨htype', -, hfalse⟩)
    · rw [htype] at hnone
      cases hnone
    · rw [htype] at hnode
      exact absurd (Option.some.inj hnode) hother
    · rw [htype] at htype'
      obtain rfl := Option.some.inj htype'
      exact ⟨rfl, hfalse⟩
  · rintro ⟨rfl, hfalse⟩
    exact .other htype hother hfalse

theorem escapes_readElement_iff {v : Value} {index : Nat} :
    Escapes (readElement index v) e ↔ ElementStuck v e := by
  cases v with
  | obj fields =>
    rw [readElement]
    split
    · next htype =>
      rw [escapes_map_iff, escapes_readClass_iff, elementStuck_iff_of_class (.inl htype)]
    · next htype =>
      rw [escapes_map_iff, escapes_readClass_iff, elementStuck_iff_of_class (.inr htype)]
    · next type hclass htype =>
      rw [escapes_bind_pure_iff, escapes_ensureShowable_iff, elementStuck_iff_of_other htype hclass]
      simp
  | _ =>
    refine iff_of_false (not_escapes_error rfl) fun hstuck => ?_
    cases hstuck

theorem not_escapes_connect (index : Nat) (bases : List String) (fields : Fields) :
    ¬Escapes (connect index bases fields) e := by
  unfold connect
  dsimp only
  split
  · exact not_escapes_ok _
  · rw [escapes_bind_pure_iff]
    exact (Relationship.settles_ofFields _).not_escapes fun _ => rfl

theorem escapes_readConnection_iff {index : Nat} {bases : List String} {v : Value} :
    Escapes (readConnection index bases v) e ↔ e = .unshowable ∧ ConnectionStuck v := by
  cases v with
  | obj fields =>
    rw [readConnection, escapes_ensureShowable_bind_iff]
    simp [not_escapes_connect, ConnectionStuck]
  | _ =>
    refine iff_of_false (not_escapes_error rfl) ?_
    rintro ⟨-, fields, hfields, -⟩
    cases hfields

/-- An error escapes from the connections at the first that is not read. -/
theorem escapes_readConnections_iff {index : Nat} {bases : List String} {l : List Value} :
    Escapes (readConnections index bases l) e ↔ e = .unshowable ∧
      ∃ before v after, l = before ++ v :: after ∧
        (∃ read, readConnections index bases before = .ok read) ∧ ConnectionStuck v := by
  induction l generalizing index bases with
  | nil => simp [readConnections, not_escapes_ok]
  | cons v rest ih =>
    rw [readConnections, escapes_bind_iff, escapes_readConnection_iff]
    constructor
    · rintro (⟨rfl, hstuck⟩ | ⟨r, hfirst, hrest⟩)
      · exact ⟨rfl, [], v, rest, rfl, ⟨[], rfl⟩, hstuck⟩
      · obtain ⟨rfl, before, w, after, rfl, ⟨read, hbefore⟩, hstuck⟩ :=
          ih.1 (escapes_bind_pure_iff.1 hrest)
        refine ⟨rfl, v :: before, w, after, rfl, ⟨r.1 :: read, ?_⟩, hstuck⟩
        exact Except.bind_eq_ok.2 ⟨r, hfirst, Except.bind_eq_ok.2 ⟨read, hbefore, rfl⟩⟩
    · rintro ⟨rfl, before, w, after, hl, ⟨read, hbefore⟩, hstuck⟩
      cases before with
      | nil =>
        obtain ⟨rfl, rfl⟩ := List.cons.inj hl
        exact .inl ⟨rfl, hstuck⟩
      | cons b before =>
        obtain ⟨rfl, rfl⟩ := List.cons.inj hl
        obtain ⟨connection, base, others, hfirst, hothers, -⟩ := readConnections_cons hbefore
        refine .inr ⟨_, hfirst, escapes_bind_pure_iff.2 (ih.2 ?_)⟩
        exact ⟨rfl, before, w, after, rfl, ⟨others, hothers⟩, hstuck⟩

/-- From the reading of a diagram an error escapes where it gets stuck. -/
theorem escapes_readDiagram_iff {fields : Fields} :
    Escapes (readDiagram fields) e ↔ Stuck fields e := by
  unfold readDiagram
  rw [escapes_bind_iff]
  constructor
  · rintro (hcontainer | ⟨elements, helements, hrest⟩)
    · exact absurd hcontainer (not_escapes_container _ _)
    obtain hcontainer | ⟨connections, hconnections, hrest⟩ := escapes_bind_iff.1 hrest
    · exact absurd hcontainer (not_escapes_container _ _)
    obtain hfailed | ⟨read, hread, hrest⟩ := escapes_bind_iff.1 hrest
    · obtain ⟨before, p, after, hl, hbefore, hp⟩ := escapes_mapM_iff.1 hfailed
      exact .element helements hconnections hl hbefore (escapes_readElement_iff.1 hp)
    · obtain ⟨rfl, before, v, after, hl, hbefore, hstuck⟩ :=
        escapes_readConnections_iff.1 (escapes_bind_pure_iff.1 hrest)
      exact .connection helements hconnections (exists_mapM_eq_ok.1 ⟨read, hread⟩) hl hbefore hstuck
  · intro hstuck
    cases hstuck with
    | element helements hconnections hl hbefore hstuck =>
      refine .inr ⟨_, helements, escapes_bind_iff.2 (.inr ⟨_, hconnections, ?_⟩)⟩
      refine escapes_bind_iff.2 (.inl (escapes_mapM_iff.2 ⟨_, _, _, hl, hbefore, ?_⟩))
      exact escapes_readElement_iff.2 hstuck
    | connection helements hconnections hread hl hbefore hstuck =>
      obtain ⟨read, hread⟩ := exists_mapM_eq_ok.2 hread
      refine .inr ⟨_, helements, escapes_bind_iff.2 (.inr ⟨_, hconnections, ?_⟩)⟩
      refine escapes_bind_iff.2 (.inr ⟨read, hread, escapes_bind_pure_iff.2 ?_⟩)
      exact escapes_readConnections_iff.2 ⟨rfl, _, _, _, hl, hbefore, hstuck⟩

/-! ## Sources -/

/-- The characters that are read: those of a text without a byte order mark in front, or those that
bytes are decoded to. -/
def Source.Spells : Source → List Char → Prop
  | .text s, chars => s.toList.head? ≠ some '\ufeff' ∧ chars = s.toList
  | .bytes b, chars =>
    let (encoding, mark, pos) := detectEncoding b
    encoding.decode pos (b.drop mark) = .ok chars
  | .object _, _ => False

/-- The reader gives up, because the characters are beyond its reach. -/
def Source.Overreaches (source : Source) (r : ReadError) : Prop :=
  ∃ chars, source.Spells chars ∧ Value.readChars chars = .error r ∧ Exceeds chars r

theorem isOfForm_of_exceeds {chars : List Char} {r : ReadError} (hr : Exceeds chars r) :
    r.isOfForm = false := by
  cases r with
  | hugeInteger | tooDeep => rfl
  | malformed | undecodable => exact hr.elim

/-- The reader gives up exactly if it ends with an error that is not about the form. -/
theorem Source.overreaches_iff {source : Source} {r : ReadError} :
    source.Overreaches r ↔
      r.isOfForm = false ∧ ∃ chars, source.Spells chars ∧ Value.readChars chars = .error r := by
  constructor
  · rintro ⟨chars, hspells, hread, hexceeds⟩
    exact ⟨isOfForm_of_exceeds hexceeds, chars, hspells, hread⟩
  · rintro ⟨hform, chars, hspells, hread⟩
    exact ⟨chars, hspells, hread, exceeds_of_readChars hread hform⟩

theorem read_eq_error_iff {s : String} {r : ReadError} (hform : r.isOfForm = false) :
    Value.read s = .error r ↔
      ∃ chars, (Source.text s).Spells chars ∧ Value.readChars chars = .error r := by
  unfold Value.read
  split
  · next hmark =>
    constructor
    · rintro ⟨⟩
      cases hform
    · rintro ⟨chars, hspells, -⟩
      exact absurd hmark hspells.1
  · next hmark => simp [Source.Spells, hmark]

theorem readBytes_eq_error_iff {b : Text.Bytes} {r : ReadError} (hform : r.isOfForm = false) :
    Value.readBytes b = .error r ↔
      ∃ chars, (Source.bytes b).Spells chars ∧ Value.readChars chars = .error r := by
  unfold Value.readBytes Source.Spells
  dsimp only
  cases (detectEncoding b).1.decode (detectEncoding b).2.2 (b.drop (detectEncoding b).2.1) with
  | ok chars => simp
  | error e =>
    simp only [reduceCtorEq, false_and, exists_false, iff_false]
    rintro ⟨⟩
    cases hform

theorem escapes_ofRead_iff {x : Except ReadError Value} :
    Escapes (Source.fields.ofRead x) e ↔
      ∃ r, e = .notJson r ∧ r.isOfForm = false ∧ x = .error r := by
  cases x with
  | ok v =>
    simp only [reduceCtorEq, and_false, exists_false, iff_false]
    cases v with
    | obj fields => exact not_escapes_ok _
    | _ => exact not_escapes_error rfl
  | error r =>
    simp only [Source.fields.ofRead, Escapes, Except.error.injEq]
    constructor
    · rintro ⟨rfl, hform⟩
      exact ⟨r, rfl, hform, rfl⟩
    · rintro ⟨r, rfl, hform, rfl⟩
      exact ⟨rfl, hform⟩

/-- An error escapes from reading if the text or the bytes are beyond the reader's reach. -/
theorem escapes_fields_iff {source : Source} :
    Escapes source.fields e ↔ ∃ r, e = .notJson r ∧ source.Overreaches r := by
  simp only [Source.overreaches_iff]
  cases source with
  | object fields => simp [Source.fields, Source.Spells, not_escapes_ok]
  | text s =>
    rw [Source.fields, escapes_ofRead_iff]
    exact exists_congr fun r => and_congr_right fun _ => and_congr_right read_eq_error_iff
  | bytes b =>
    rw [Source.fields, escapes_ofRead_iff]
    exact exists_congr fun r => and_congr_right fun _ => and_congr_right readBytes_eq_error_iff

end Document

/-- Every plain document is read or refused for its form, with three exceptions. A text or bytes
with an integer of too many digits, or with containers that are nested too deeply, are refused by
the reader with an error of its own. So is a document with a class whose methods are `true` or a
number that is not zero, and an object that holds an integer of too many digits in a value that is
shown, if everything that is read in front of them is in order. No other value in any field makes an
error escape, and a decoded document has no value that cannot be shown.

That the document is plain is used nowhere in the proof. It is what makes the model speak for the
document: it rules out surrogates that are not paired, for which the model has the replacement
character, and containers beyond the depth to which values are shown. -/
theorem refused_iff (source : Document.Source) (_hplain : source.Plain) :
    (((∃ d, Diagram.parse source = .ok d) ∨
        ∃ e, Diagram.parse source = .error e ∧ e.isMalformed = true) ↔
      (∀ r, ¬source.Overreaches r) ∧
        ∀ fields, source.fields = .ok fields → ∀ e, ¬Document.Stuck fields e) ∧
    (∀ e, Escapes (Diagram.parse source) e ↔
      (∃ r, e = .notJson r ∧ source.Overreaches r) ∨
        ∃ fields, source.fields = .ok fields ∧ Document.Stuck fields e) ∧
    (source.Decoded → ¬Escapes (Diagram.parse source) .unshowable) := by
  have hescapes : ∀ e, Escapes (Diagram.parse source) e ↔
      (∃ r, e = .notJson r ∧ source.Overreaches r) ∨
        ∃ fields, source.fields = .ok fields ∧ Document.Stuck fields e := by
    intro e
    rw [Diagram.parse, escapes_bind_iff, Document.escapes_fields_iff]
    simp only [Document.escapes_readDiagram_iff]
  refine ⟨?_, hescapes, fun hdecoded hunshowable => ?_⟩
  · rw [← forall_not_escapes_iff]
    constructor
    · intro hnone
      exact ⟨fun r hr => hnone _ ((hescapes _).2 (.inl ⟨r, rfl, hr⟩)),
        fun fields hfields e hstuck => hnone e ((hescapes e).2 (.inr ⟨fields, hfields, hstuck⟩))⟩
    · rintro ⟨hreach, hstuck⟩ e he
      obtain ⟨r, -, hr⟩ | ⟨fields, hfields, he⟩ := (hescapes e).1 he
      · exact hreach r hr
      · exact hstuck fields hfields e he
  · obtain ⟨r, hr, -⟩ | ⟨fields, hfields, hstuck⟩ := (hescapes _).1 hunshowable
    · cases hr
    · exact hstuck.not_showable (hdecoded.showable hfields)

/-- A class with an integer for its id. -/
def numbered (i : Int) : Json.Fields :=
  [("elements", .arr [.obj [("id", .int i), ("name", .str "A")]])]

theorem stuck_numbered {i : Int} (hi : (Json.Value.int i).isShowable = false) :
    Document.Stuck (numbered i) .unshowable := by
  have hnone : ∀ q ∈ ([] : List (Json.Value × Nat)), ∃ n, Document.readElement q.2 q.1 = .ok n :=
    nofun
  have hclass : Document.ClassStuck [("id", .int i), ("name", .str "A")] .unshowable := .id hi
  exact .element rfl rfl rfl hnone (.node (.inl rfl) hclass)

/-- An id with one digit too many is found where it is shown, and no text is decoded to the
document. -/
theorem refused_iff_numbered :
    (Document.Source.object (numbered overlong)).Plain ∧
      Escapes (Diagram.parse (.object (numbered overlong))) .unshowable ∧
      ¬(Document.Source.object (numbered overlong)).Decoded := by
  have hplain : (Document.Source.object (numbered overlong)).Plain := by
    unfold Document.Source.Plain
    decide +kernel
  have hstuck := stuck_numbered Json.Value.isShowable_overlong
  obtain ⟨-, hescapes, hdecoded⟩ := refused_iff (.object (numbered overlong)) hplain
  have hunshowable := (hescapes .unshowable).2 (.inr ⟨_, rfl, hstuck⟩)
  exact ⟨hplain, hunshowable, fun h => hdecoded h hunshowable⟩

/-- A class with a number for methods. -/
def tally : Json.Fields :=
  [("elements", .arr [.obj [("id", .str "a"), ("name", .str "A"), ("methods", .int 5)]])]

/-- The document of a class with a number for methods is neither read nor refused for its form. -/
theorem not_refused_tally :
    ¬((∃ d, Diagram.parse (.object tally) = .ok d) ∨
      ∃ e, Diagram.parse (.object tally) = .error e ∧ e.isMalformed = true) := by
  have hescapes : Escapes (Diagram.parse (.object tally)) (.notIterable "int") := ⟨rfl, rfl⟩
  exact fun hsettled => forall_not_escapes_iff.2 hsettled _ hescapes

end Scaffold
