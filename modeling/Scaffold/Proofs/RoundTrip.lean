import Scaffold.Proofs.Record
import Scaffold.Proofs.Shorthand

/-!
# Diagrams that are written and read

Reading a document settles its diagram: names and types are there, no id is blank, and an
association table has the keys that its attributes make. Such a diagram is `Normal`. The two halves
meet there. What is read is normal (`Diagram.normal_of_read`), and a normal diagram that is written
is read as it was, with nothing to report (`Diagram.read_written`).

Main statement: `Diagram.parse_written`.
-/

namespace Scaffold

open Json

/-! ## Lists -/

section Lists

variable {ε α β γ : Type}

theorem Except.bind_eq_ok {x : Except ε α} {f : α → Except ε β} {b : β} :
    (x >>= f) = .ok b ↔ ∃ a, x = .ok a ∧ f a = .ok b := by
  cases x <;> simp [bind, Except.bind]

theorem Except.map_eq_ok {x : Except ε α} {f : α → β} {b : β} :
    x.map f = .ok b ↔ ∃ a, x = .ok a ∧ f a = b := by
  cases x <;> simp [Except.map]

theorem Except.toOption_eq_some {x : Except ε α} {a : α} : x.toOption = some a ↔ x = .ok a := by
  cases x <;> simp [Except.toOption]

/-- A check of a result that is made where there is one finds a result. -/
theorem Except.exists_of_any {x : Except ε α} {P : α → Prop} [DecidablePred P]
    (h : x.toOption.any (fun a => decide (P a)) = true) : ∃ a, x = .ok a ∧ P a := by
  obtain ⟨a, ha, hP⟩ := (Option.any_eq_true _ _).1 h
  exact ⟨a, Except.toOption_eq_some.1 ha, of_decide_eq_true hP⟩

/-- Everything that is read from a list is read from one of its members. -/
theorem exists_of_mem_mapM {f : α → Except ε β} {l : List α} {bs : List β}
    (hl : l.mapM f = .ok bs) {b : β} (hb : b ∈ bs) : ∃ a ∈ l, f a = .ok b := by
  induction l generalizing bs with
  | nil =>
    cases hl
    cases hb
  | cons a rest ih =>
    rw [List.mapM_cons] at hl
    obtain ⟨b', hfirst, hl⟩ := Except.bind_eq_ok.1 hl
    obtain ⟨bs', hrest, hl⟩ := Except.bind_eq_ok.1 hl
    cases hl
    rcases List.mem_cons.1 hb with rfl | hb
    · exact ⟨a, List.mem_cons_self, hfirst⟩
    · obtain ⟨a', ha', hread⟩ := ih hrest hb
      exact ⟨a', List.mem_cons_of_mem _ ha', hread⟩

/-- A list that is written item by item is read item by item. -/
theorem mapM_zipIdx_written (read : Nat → α → Except ε β) {write : γ → α} {result : γ → β}
    {l : List γ} (hread : ∀ c ∈ l, ∀ index, read index (write c) = .ok (result c)) (start : Nat) :
    ((l.map write).zipIdx start).mapM (fun p => read p.2 p.1) = .ok (l.map result) := by
  induction l generalizing start with
  | nil => rfl
  | cons c rest ih =>
    obtain ⟨hfirst, hrest⟩ := List.forall_mem_cons.1 hread
    rw [List.map_cons, List.zipIdx_cons, List.mapM_cons, hfirst, ih hrest]
    rfl

end Lists

/-! ## Attributes of classes -/

/-- The parts of a shorthand are not empty. -/
theorem Shorthand.ne_empty_of_parse {s : String} {p : String × String} (hs : parse s = some p) :
    p.1 ≠ "" ∧ p.2 ≠ "" := by
  obtain ⟨hsuits, -⟩ := parse_eq_some_iff.1 hs
  exact ⟨by simpa using hsuits.name_ne, by simpa using hsuits.type_ne⟩

namespace Document

theorem normal_of_readAttribute {label : String} {index : Nat} {v : Value} {a : Attribute}
    (hread : readAttribute label index v = .ok (some a)) : a.Normal := by
  cases v with
  | str s =>
    obtain ⟨p, hp, rfl⟩ := Option.map_eq_some_iff.1 (Except.ok.inj hread)
    obtain ⟨hname, htype⟩ := Shorthand.ne_empty_of_parse hp
    exact
      { name := hname
        type := htype
        sqlType := by simp [Record.Inked]
        visibility := by simp
        referencedEntity := by simp [Record.Inked]
        referencedField := by simp [Record.Inked]
        referencedType := by simp [Record.Inked]
        defaultValue := by simp }
  | obj fields =>
    rw [readAttribute] at hread
    split at hread
    · next hname =>
      obtain ⟨a', hread, ha'⟩ := Except.map_eq_ok.1 hread
      cases ha'
      exact Attribute.normal_of_read hname (Checked.orError_eq_ok.1 hread)
    · cases hread
  | _ => cases hread

theorem normal_of_readAttributes {label : String} {v : Value} {l : List (Option Attribute)}
    (hread : readAttributes label v = .ok l) : ∀ a ∈ l.filterMap (fun a => a), a.Normal := by
  intro a ha
  obtain ⟨o, ho, rfl⟩ := List.mem_filterMap.1 ha
  cases v with
  | null =>
    cases hread
    cases ho
  | arr items =>
    obtain ⟨p, -, hp⟩ := exists_of_mem_mapM hread ho
    exact normal_of_readAttribute hp
  | _ => cases hread

theorem readAttributes_written {attributes : List Attribute}
    (hnormal : ∀ a ∈ attributes, a.Normal) (label : String) :
    readAttributes label (Export.attributeList attributes) = .ok (attributes.map some) := by
  refine mapM_zipIdx_written (readAttribute label) (fun a ha index => ?_) 0
  have hname : (valueOf (Export.attributeFields a) "name").isGiven = true := by
    simpa [valueOf, Export.attributeFields, Value.isGiven] using (hnormal a ha).name
  rw [readAttribute, if_pos hname, Attribute.read_written (hnormal a ha)]
  rfl

end Document

/-! ## Classes -/

/-- A class as reading leaves it. -/
structure ClassNode.Normal (c : ClassNode) : Prop where
  /-- Its id is not blank. -/
  id : Text.isBlankText c.id = false
  /-- It has a name. -/
  name : c.name ≠ ""
  /-- Its attributes are normal. -/
  attributes : ∀ a ∈ c.attributes, a.Normal

namespace Document

/-- A class that is read has an id, a name and attributes, and is what these and its other fields
make up. -/
theorem readClass_inv {fields : Fields} {index : Nat} {n : Noted ClassNode}
    (hread : readClass fields index = .ok n) :
    isMissing (valueOf fields "id") = false ∧ (valueOf fields "name").isGiven = true ∧
      ∃ attributes,
        readAttributes (valueOf fields "id").shown (valueOf fields "attributes") =
          .ok attributes ∧
        makeClass fields attributes = .valid n.value ∧
        n.notes = attributeNotes (valueOf fields "id").shown attributes := by
  obtain ⟨-, -, hread⟩ := Except.bind_eq_ok.1 hread
  split at hread
  · cases hread
  · next hgiven =>
    obtain ⟨attributes, hattributes, hread⟩ := Except.bind_eq_ok.1 hread
    obtain ⟨-, -, hread⟩ := Except.bind_eq_ok.1 hread
    obtain ⟨c, hchecked, hread⟩ := Except.bind_eq_ok.1 hread
    cases hread
    rw [Bool.or_eq_true, Bool.not_eq_true', not_or, Bool.not_eq_true, Bool.not_eq_false]
      at hgiven
    exact ⟨hgiven.1, hgiven.2, attributes, hattributes, Checked.orError_eq_ok.1 hchecked, rfl⟩

theorem normal_of_readClass {fields : Fields} {index : Nat} {n : Noted ClassNode}
    (hread : readClass fields index = .ok n) : n.value.Normal := by
  obtain ⟨hid, hname, attributes, hattributes, hchecked, -⟩ := readClass_inv hread
  obtain ⟨_, _, hchecked₃, -, hn⟩ := Checked.seq_eq_valid.1 hchecked
  obtain ⟨_, _, hchecked₂, -, rfl⟩ := Checked.seq_eq_valid.1 hchecked₃
  obtain ⟨_, _, hchecked₁, -, rfl⟩ := Checked.seq_eq_valid.1 hchecked₂
  obtain ⟨_, -, rfl⟩ := Checked.map_eq_valid.1 hchecked₁
  rw [← hn]
  exact
    { id := shown_not_blank hid
      name := shown_ne_empty hname
      attributes := normal_of_readAttributes hattributes }

/-- Methods that are written are read as they were. -/
theorem methodTexts_written (methods : List String) :
    (if (Value.arr (methods.map .str)).isGiven then Record.methodTexts (.arr (methods.map .str))
      else .valid []) = .valid methods := by
  cases methods with
  | nil => rfl
  | cons m rest =>
    have hshown : (m :: rest).map (Value.shown ∘ Value.str) = m :: rest := List.map_id _
    have hall : ((m :: rest).map Value.str).all Value.isShowable = true := by simp
    have hgiven : (Value.arr ((m :: rest).map .str)).isGiven = true := rfl
    rw [if_pos hgiven, Record.methodTexts, if_pos hall, List.map_map, hshown]

theorem attributeNotes_some (label : String) (attributes : List Attribute) :
    attributeNotes label (attributes.map some) = [] := by
  simp only [attributeNotes, List.filterMap_eq_nil_iff]
  intro p hp
  obtain ⟨a, -, ha⟩ := List.mem_map.1 (List.fst_mem_of_mem_zipIdx hp)
  simp [← ha]

/-- What is read from fields whose values are known. The values are those that classes and tables
are written with. -/
theorem readClass_eq {fields : Fields} {c : ClassNode} (hc : c.Normal) (index : Nat)
    (hid : valueOf fields "id" = .str c.id) (hname : valueOf fields "name" = .str c.name)
    (hattributes : valueOf fields "attributes" = Export.attributeList c.attributes)
    (hmethods : (if (valueOf fields "methods").isGiven then
      Record.methodTexts (valueOf fields "methods") else .valid []) = .valid c.methods)
    (hstereotype : Record.textOrNull (valueOf fields "stereotype") = .valid c.stereotype)
    (hvisibility : Record.textOrNull (valueOf fields "visibility") = .valid c.visibility)
    (hdescription : Record.textOr "" (valueOf fields "description") = .valid c.description) :
    readClass fields index = .ok ⟨c, []⟩ := by
  have hgiven : (isMissing (.str c.id) || !(Value.str c.name).isGiven) = false := by
    simp [isMissing, Value.isGiven, hc.id, hc.name]
  unfold readClass makeClass
  dsimp only
  rw [hid, hname, hgiven, hattributes, readAttributes_written hc.attributes, hmethods, hstereotype,
    hvisibility, hdescription]
  change Except.ok (Noted.mk { c with attributes := (c.attributes.map some).filterMap fun a => a }
    (attributeNotes c.id (c.attributes.map some))) = _
  have hsome : ((c.attributes.map some).filterMap fun a => a) = c.attributes := by
    simp [List.filterMap_map]
  rw [hsome, attributeNotes_some]

theorem readElement_of_readClass {fields : Fields} {index : Nat} {n : Noted ClassNode}
    (htype : fields.get? "type" = some (.str "class")) (hread : readClass fields index = .ok n) :
    readElement index (.obj fields) = .ok (some n) := by
  rw [readElement, htype]
  change (readClass fields index).map some = _
  rw [hread]
  rfl

/-- A class that is written is read as it was. -/
theorem readElement_class {c : ClassNode} (hc : c.Normal) (index : Nat) :
    readElement index (.obj (Export.classFields c)) = .ok (some ⟨c, []⟩) := by
  have htype : Fields.get? (Export.classFields c) "type" = some (.str "class") := by
    simp [Export.classFields]
  have htext : ∀ o : Option String,
      Record.textOrNull ((o.map .str).getD .null) = .valid o := by
    intro o
    cases o <;> rfl
  have hread : readClass (Export.classFields c) index = .ok ⟨c, []⟩ := by
    refine readClass_eq hc index ?_ ?_ ?_ ?_ ?_ ?_ ?_
    · simp [valueOf, Export.classFields]
    · simp [valueOf, Export.classFields]
    · simp [valueOf, Export.classFields]
    · have hmethods : valueOf (Export.classFields c) "methods" = .arr (c.methods.map .str) := by
        simp [valueOf, Export.classFields]
      rw [hmethods]
      exact methodTexts_written c.methods
    · simpa [valueOf, Export.classFields] using htext c.stereotype
    · simpa [valueOf, Export.classFields] using htext c.visibility
    · have hdescription : valueOf (Export.classFields c) "description" = .str c.description := by
        simp [valueOf, Export.classFields]
      rw [hdescription, Record.textOr]
      split
      · rfl
      · next hgiven =>
        have hempty : c.description = "" := by simpa [Value.isGiven] using hgiven
        rw [hempty]
  exact readElement_of_readClass htype hread

/-- The class that an association table is written as. -/
def tableClass (t : AssociationTable) : ClassNode where
  id := t.id
  name := t.name
  attributes := t.attributes
  stereotype := some tableStereotype

/-- An association table that is written is read as its class. -/
theorem readElement_table {t : AssociationTable} (ht : (tableClass t).Normal) (index : Nat) :
    readElement index (.obj (Export.tableFields t)) = .ok (some ⟨tableClass t, []⟩) := by
  have htype : Fields.get? (Export.tableFields t) "type" = some (.str "class") := by
    simp [Export.tableFields]
  have hread : readClass (Export.tableFields t) index = .ok ⟨tableClass t, []⟩ := by
    refine readClass_eq ht index ?_ ?_ ?_ ?_ ?_ ?_ ?_
    · simp [valueOf, Export.tableFields, tableClass]
    · simp [valueOf, Export.tableFields, tableClass]
    · simp [valueOf, Export.tableFields, tableClass]
    · simp [valueOf, Export.tableFields, tableClass, Value.isGiven]
    · simp [valueOf, Export.tableFields, tableClass, Record.textOrNull]
    · simp [valueOf, Export.tableFields, tableClass, Record.textOrNull]
    · simp [valueOf, Export.tableFields, tableClass, Record.textOr, Value.isGiven]
  exact readElement_of_readClass htype hread

/-- An element that is a class is read as one. -/
theorem readClass_of_readElement {index : Nat} {v : Value} {n : Noted ClassNode}
    (hread : readElement index v = .ok (some n)) :
    ∃ fields, v = .obj fields ∧ readClass fields index = .ok n := by
  cases v with
  | obj fields =>
    rw [readElement] at hread
    have hclass : (readClass fields index).map some = .ok (some n) := by
      split at hread
      · exact hread
      · exact hread
      · obtain ⟨-, -, hread⟩ := Except.bind_eq_ok.1 hread
        cases hread
    obtain ⟨n', hread, hn⟩ := Except.map_eq_ok.1 hclass
    cases hn
    exact ⟨fields, rfl, hread⟩
  | _ => cases hread

theorem normal_of_readElement {index : Nat} {v : Value} {n : Noted ClassNode}
    (hread : readElement index v = .ok (some n)) : n.value.Normal := by
  obtain ⟨fields, -, hclass⟩ := readClass_of_readElement hread
  exact normal_of_readClass hclass

end Document

/-! ## Connections -/

theorem Json.Fields.get?_put_of_ne {key other : String} (hne : key ≠ other) (v : Value)
    (fields : Fields) : (Fields.put key v fields).get? other = fields.get? other := by
  have hne' : (other == key) = false := by simp [Ne.symm hne]
  induction fields with
  | nil => simp [Fields.put, Fields.get?, List.lookup_cons, hne']
  | cons p rest ih =>
    obtain ⟨k, w⟩ := p
    rw [Fields.put]
    split
    · next hk => simp [hk, Fields.get?, List.lookup_cons, hne']
    · simp only [Fields.get?, List.lookup_cons] at ih ⊢
      rw [ih]

/-- Giving a key the value that it has changes nothing. -/
theorem Json.Fields.put_eq_self {key : String} {v : Value} {fields : Fields}
    (hget : fields.get? key = some v) : Fields.put key v fields = fields := by
  induction fields with
  | nil => cases hget
  | cons p rest ih =>
    obtain ⟨k, w⟩ := p
    rw [Fields.put]
    by_cases hk : k = key
    · subst hk
      have hw : some w = some v := by simpa [Fields.get?] using hget
      rw [if_pos rfl, Option.some.inj hw]
    · have hne : (key == k) = false := by simp [Ne.symm hk]
      rw [if_neg hk, ih (by simpa [Fields.get?, List.lookup_cons, hne] using hget)]

namespace Document

theorem settleFields_sound (fields : Fields) (source target : String) :
    (settleFields fields source target).get? "source" = some (.str source) ∧
      (settleFields fields source target).get? "target" = some (.str target) ∧
      (valueOf (settleFields fields source target) "type").isGiven = true := by
  have hsource : ∀ v, (Fields.put "target" v (Fields.put "source" (.str source) fields)).get?
      "source" = some (.str source) := by
    intro v
    rw [Fields.get?_put_of_ne (by decide), Fields.get?_put_self]
  unfold settleFields
  dsimp only
  split
  · next htype => exact ⟨hsource _, Fields.get?_put_self _ _ _, htype⟩
  · refine ⟨?_, ?_, ?_⟩
    · rw [Fields.get?_put_of_ne (by decide), hsource]
    · rw [Fields.get?_put_of_ne (by decide), Fields.get?_put_self]
    · rw [valueOf, Fields.get?_put_self]
      decide

theorem numberedId_not_blank (source target type label : String) (count : Nat) :
    Text.isBlankText (numberedId (baseId source target type label) count) = false := by
  have hbase : Text.isBlankText (baseId source target type label) = false := by
    unfold baseId Digest.stableId
    rw [Text.isBlankText_append, Bool.and_eq_false_iff]
    exact .inl (by decide)
  unfold numberedId
  split
  · exact hbase
  · rw [show s!"{baseId source target type label}_{count}" =
      baseId source target type label ++ "_" ++ toString count from rfl]
    simp [Text.isBlankText_append, hbase]

theorem normal_of_readConnection {index : Nat} {bases : List String} {v : Value}
    {r : Relationship} {base : Option String}
    (hread : readConnection index bases v = .ok (.edge r, base)) : r.Normal := by
  cases v with
  | obj fields =>
    obtain ⟨-, -, hread⟩ := Except.bind_eq_ok.1 hread
    rw [connect] at hread
    dsimp only at hread
    split at hread
    · cases hread
    · next hends =>
      obtain ⟨hsource, htarget⟩ := Bool.or_eq_false_iff.1 (eq_false_of_ne_true hends)
      obtain ⟨hsettledSource, hsettledTarget, htype⟩ := settleFields_sound fields
        (valueOf fields "source").shown (valueOf fields "target").shown
      generalize settleFields fields (valueOf fields "source").shown
        (valueOf fields "target").shown = settled at hread hsettledSource hsettledTarget htype
      obtain ⟨edge, hedge, hread⟩ := Except.bind_eq_ok.1 hread
      cases hread
      refine Relationship.normal_of_read (fun s hs => ?_) (fun s hs => ?_) (fun s hs => ?_) ?_
        (Checked.orError_eq_ok.1 hedge)
      · rw [Fields.get?_put_self] at hs
        cases hs
        split
        · exact numberedId_not_blank _ _ _ _ _
        · next hid => exact shown_not_blank (eq_false_of_ne_true hid)
      · rw [Fields.get?_put_of_ne (by decide), hsettledSource] at hs
        cases hs
        exact shown_not_blank hsource
      · rw [Fields.get?_put_of_ne (by decide), hsettledTarget] at hs
        cases hs
        exact shown_not_blank htarget
      · rw [valueOf, Fields.get?_put_of_ne (by decide)]
        exact htype
  | _ => cases hread

/-- Connections are read one after the other. -/
theorem readConnections_cons {index : Nat} {bases : List String} {v : Value} {rest : List Value}
    {connections : List Connection}
    (hread : readConnections index bases (v :: rest) = .ok connections) :
    ∃ connection base others, readConnection index bases v = .ok (connection, base) ∧
      readConnections (index + 1) (bases ++ base.toList) rest = .ok others ∧
      connections = connection :: others := by
  obtain ⟨⟨connection, base⟩, hfirst, hread⟩ := Except.bind_eq_ok.1 hread
  obtain ⟨others, hrest, hread⟩ := Except.bind_eq_ok.1 hread
  cases hread
  exact ⟨connection, base, others, hfirst, hrest, rfl⟩

theorem normal_of_readConnections {index : Nat} {bases : List String} {l : List Value}
    {connections : List Connection} (hread : readConnections index bases l = .ok connections) :
    ∀ r ∈ edges connections, r.Normal := by
  induction l generalizing index bases connections with
  | nil =>
    cases hread
    simp [edges]
  | cons v rest ih =>
    obtain ⟨connection, base, others, hfirst, hrest, rfl⟩ := readConnections_cons hread
    intro r hr
    cases connection with
    | edge r' =>
      rcases List.mem_cons.1 hr with rfl | hr
      · exact normal_of_readConnection hfirst
      · exact ih hrest r hr
    | dropped present => exact ih hrest r hr

/-- An edge that is written is read as it was, and needs no id. -/
theorem readConnection_written {r : Relationship} (hr : r.Normal) (index : Nat)
    (bases : List String) :
    readConnection index bases (.obj (Export.relationshipFields r)) = .ok (.edge r, none) := by
  have hid : Fields.get? (Export.relationshipFields r) "id" = some (.str r.id) := by
    simp [Export.relationshipFields]
  have hsource : Fields.get? (Export.relationshipFields r) "source" = some (.str r.source) := by
    simp [Export.relationshipFields]
  have htarget : Fields.get? (Export.relationshipFields r) "target" = some (.str r.target) := by
    simp [Export.relationshipFields]
  have htype : Fields.get? (Export.relationshipFields r) "type" = some (.str r.type) := by
    simp [Export.relationshipFields]
  have hsettled : settleFields (Export.relationshipFields r) r.source r.target =
      Export.relationshipFields r := by
    unfold settleFields
    dsimp only
    rw [Fields.put_eq_self hsource, Fields.put_eq_self htarget, if_pos]
    simpa [valueOf, htype, Value.isGiven] using hr.type
  have hends : (isMissing (.str r.source) || isMissing (.str r.target)) = false := by
    simp [isMissing, hr.source, hr.target]
  have hgiven : isMissing (.str r.id) = false := hr.id
  have hshown : ∀ v ∈ shownValues (Export.relationshipFields r), v.isShowable = true := by
    simp [shownValues, valueOf, hsource, htarget, hid, hends, hgiven]
  rw [readConnection, ensureShowable_eq_ok.2 hshown]
  change connect _ _ _ = _
  rw [connect]
  simp only [valueOf, hsource, htarget, Option.getD_some, hends, Value.shown, hsettled, hid, hgiven,
    Bool.false_eq_true, if_false, Fields.put_eq_self hid, Relationship.read_written]
  rfl

theorem readConnections_written {l : List Relationship} (hl : ∀ r ∈ l, r.Normal) (index : Nat)
    (bases : List String) :
    readConnections index bases (l.map fun r => .obj (Export.relationshipFields r)) =
      .ok (l.map .edge) := by
  induction l generalizing index bases with
  | nil => rfl
  | cons r rest ih =>
    obtain ⟨hfirst, hrest⟩ := List.forall_mem_cons.1 hl
    rw [List.map_cons, readConnections, readConnection_written hfirst]
    change (readConnections _ _ _ >>= _) = _
    rw [ih hrest]
    rfl

theorem edges_map_edge (l : List Relationship) : edges (l.map .edge) = l := by
  simp [edges, List.filterMap_map]

theorem connectionNotes_edge (l : List Relationship) : connectionNotes (l.map .edge) = [] := by
  simp only [connectionNotes, List.filterMap_eq_nil_iff]
  intro p hp
  obtain ⟨r, -, hr⟩ := List.mem_map.1 (List.fst_mem_of_mem_zipIdx hp)
  simp [← hr]

end Document

/-! ## Diagrams -/

/-- A diagram as reading leaves it: no class is an association table, and every table is made from
a class. -/
structure Diagram.Normal (d : Diagram) : Prop where
  /-- The classes are normal. -/
  classes : ∀ c ∈ d.classes, c.Normal
  /-- No class has the stereotype of tables. -/
  stereotypes : ∀ c ∈ d.classes, c.stereotype ≠ some Document.tableStereotype
  /-- The edges are normal. -/
  relationships : ∀ r ∈ d.relationships, r.Normal
  /-- The classes that the tables are written as are normal. -/
  tables : ∀ t ∈ d.associationTables, (Document.tableClass t).Normal
  /-- Each table is the one that its class makes. -/
  keys : ∀ t ∈ d.associationTables, Document.toTable (Document.tableClass t) = t

namespace Diagram

open Document

/-- The diagram of a document is normal. -/
theorem normal_of_read {fields : Fields} {d : Noted Diagram}
    (hread : readDiagram fields = .ok d) : d.value.Normal := by
  unfold readDiagram at hread
  obtain ⟨elements, -, hread⟩ := Except.bind_eq_ok.1 hread
  obtain ⟨connections, -, hread⟩ := Except.bind_eq_ok.1 hread
  obtain ⟨read, helements, hread⟩ := Except.bind_eq_ok.1 hread
  obtain ⟨edges, hedges, hread⟩ := Except.bind_eq_ok.1 hread
  cases hread
  have hnodes : ∀ c ∈ (read.filterMap fun n => n).map (·.value), c.Normal := by
    intro c hc
    obtain ⟨n, hn, rfl⟩ := List.mem_map.1 hc
    obtain ⟨o, ho, rfl⟩ := List.mem_filterMap.1 hn
    obtain ⟨p, -, hp⟩ := exists_of_mem_mapM helements ho
    exact normal_of_readElement hp
  exact
    { classes := fun c hc => hnodes c (List.mem_filter.1 hc).1
      stereotypes := fun c hc => by simpa using (List.mem_filter.1 hc).2
      relationships := normal_of_readConnections hedges
      tables := by
        intro t ht
        obtain ⟨c, hc, rfl⟩ := List.mem_map.1 ht
        obtain ⟨hid, hname, hattributes⟩ := hnodes c (List.mem_filter.1 hc).1
        exact ⟨hid, hname, hattributes⟩
      keys := by
        intro t ht
        obtain ⟨c, -, rfl⟩ := List.mem_map.1 ht
        rfl }

theorem normal_of_parse {source : Source} {d : Noted Diagram} (hread : parse source = .ok d) :
    d.value.Normal := by
  obtain ⟨fields, -, hread⟩ := Except.bind_eq_ok.1 hread
  exact normal_of_read hread

/-- The attributes of a class that was read have names. -/
theorem named_of_parse {source : Source} {d : Noted Diagram} (hread : parse source = .ok d)
    {c : ClassNode} (hc : c ∈ d.value.classes) : ∀ a ∈ c.attributes, a.name ≠ "" :=
  fun a ha => (((normal_of_parse hread).classes c hc).attributes a ha).name

/-- The classes of a diagram that is written, each with what it is written as: those that are
tables come last. -/
def writtenClasses (d : Diagram) : List (Value × ClassNode) :=
  (d.classes.map fun c => (.obj (Export.classFields c), c)) ++
    d.associationTables.map fun t => (.obj (Export.tableFields t), tableClass t)

theorem Normal.readElements {d : Diagram} (hd : d.Normal) :
    (d.writtenClasses.map (·.1)).zipIdx.mapM (fun p => readElement p.2 p.1) =
      .ok (d.writtenClasses.map fun p => some ⟨p.2, []⟩) := by
  refine mapM_zipIdx_written readElement (fun p hp index => ?_) 0
  rcases List.mem_append.1 hp with hp | hp
  · obtain ⟨c, hc, rfl⟩ := List.mem_map.1 hp
    exact readElement_class (hd.classes c hc) index
  · obtain ⟨t, ht, rfl⟩ := List.mem_map.1 hp
    exact readElement_table (hd.tables t ht) index

/-- The written classes are told from the written tables by their stereotype. -/
theorem Normal.sorted {d : Diagram} (hd : d.Normal) :
    ((d.writtenClasses.map (·.2)).filter fun c => !decide (c.stereotype = some tableStereotype)) =
        d.classes ∧
      ((d.writtenClasses.map (·.2)).filter fun c =>
        decide (c.stereotype = some tableStereotype)).map toTable = d.associationTables := by
  have hwritten : d.writtenClasses.map (·.2) =
      d.classes ++ d.associationTables.map tableClass := by
    simp [writtenClasses, Function.comp_def]
  have htable : ∀ t ∈ d.associationTables.map tableClass,
      t.stereotype = some tableStereotype := by
    intro c hc
    obtain ⟨t, -, rfl⟩ := List.mem_map.1 hc
    rfl
  rw [hwritten, List.filter_append, List.filter_append]
  constructor
  · rw [List.filter_eq_self.2 fun c hc => by simp [hd.stereotypes c hc],
      List.filter_eq_nil_iff.2 fun c hc => by simp [htable c hc], List.append_nil]
  · rw [List.filter_eq_nil_iff.2 fun c hc => by simp [hd.stereotypes c hc],
      List.filter_eq_self.2 fun c hc => by simp [htable c hc], List.nil_append, List.map_map]
    exact (List.map_congr_left hd.keys).trans (List.map_id _)

/-- A normal diagram that is written is read as it was, and nothing is reported. -/
theorem read_written {d : Diagram} (hd : d.Normal) :
    readDiagram d.documentFields = .ok ⟨d, []⟩ := by
  have helements : container d.documentFields "elements" =
      .ok (d.writtenClasses.map (·.1)) := by
    simp [container, valueOf, Fields.get?, documentFields, writtenClasses, Function.comp_def]
  have hconnections : container d.documentFields "connections" =
      .ok (d.relationships.map fun r => .obj (Export.relationshipFields r)) := by
    simp [container, valueOf, Fields.get?, List.lookup_cons, documentFields]
  have hnodes : ((d.writtenClasses.map fun p => some (⟨p.2, []⟩ : Noted ClassNode)).filterMap
      fun n => n) = d.writtenClasses.map fun p => ⟨p.2, []⟩ := by
    simp [List.filterMap_map]
  have hvalues : (d.writtenClasses.map fun p => (⟨p.2, []⟩ : Noted ClassNode)).map (·.value) =
      d.writtenClasses.map (·.2) := by
    simp [Function.comp_def]
  have hnotes : (d.writtenClasses.map fun p => (⟨p.2, []⟩ : Noted ClassNode)).flatMap (·.notes) =
      [] := by
    simp [List.flatMap_map]
  simp only [readDiagram, helements, hconnections, bind, Except.bind, hd.readElements,
    readConnections_written hd.relationships, hnodes, hvalues, hnotes, hd.sorted, edges_map_edge,
    connectionNotes_edge]
  rfl

/-- Writing a diagram that was read from any document and reading it again gives the same diagram,
and nothing is reported. For its text this takes that the writer's text is read as the value that
was written. -/
theorem parse_written (source : Source) (d : Noted Diagram) (hread : parse source = .ok d) :
    parse (.object d.value.documentFields) = .ok ⟨d.value, []⟩ ∧
      (Value.read d.value.save = .ok d.value.document →
        parse (.text d.value.save) = .ok ⟨d.value, []⟩) := by
  have hwritten := read_written (normal_of_parse hread)
  refine ⟨hwritten, fun htext => ?_⟩
  have hfields : (Source.text d.value.save).fields = .ok d.value.documentFields := by
    rw [Source.fields, htext]
    rfl
  rw [parse, hfields]
  exact hwritten

/-- A document with a class under a number and a table. One attribute has no name, and one has a
blank type of its column and a default value that is no number. The connections have no ids, and
one has no target. -/
def exchange : Fields :=
  [("elements", .obj
      [("first", .obj
          [("id", .int 7), ("name", .str "Student"),
            ("attributes", .arr
              [.str "email", .str ": Long",
                .obj [("name", .str "score"), ("type", .str "Double"), ("sql_type", .str " "),
                  ("is_static", .int 1), ("defaultValue", .float ⟨0x7ff8000000000000⟩)]])]),
        ("second", .obj
          [("id", .str "t"), ("name", .str "Enrollment"), ("stereotype", .str "association_table"),
            ("attributes", .arr
              [.obj [("name", .str "student_id"), ("isForeignKey", .str "yes")],
                .str "since: Date"])])]),
    ("connections", .arr
      [.obj [("source", .int 7), ("target", .int 7), ("label", .null)],
        .obj [("source", .int 7)],
        .obj [("source", .int 7), ("target", .int 7), ("type", .str "association")]])]

/-- A diagram of one class. -/
def roster : Diagram where
  classes := [{ id := "7", name := "Student" }]

/-- The text of a diagram of one class, line by line. -/
theorem save_roster :
    roster.save = "\x7b\n  \"elements\": [\n    \x7b\n" ++ "      \"id\": \"7\",\n" ++
      "      \"name\": \"Student\",\n" ++ "      \"attributes\": [],\n" ++
      "      \"methods\": [],\n" ++ "      \"description\": \"\",\n" ++
      "      \"type\": \"class\"\n" ++ "    \x7d\n  ],\n" ++ "  \"connections\": []\n\x7d" := by
  decide +kernel

theorem read_save_roster : Value.read roster.save = .ok roster.document := by
  rw [save_roster, ← Except.toOption_eq_some]
  simp only [Value.read, String.toList_append]
  decide +kernel

theorem parse_written_exchange :
    (∃ d : Noted Diagram, parse (.object exchange) = .ok d ∧
      (d.notes.length = 2 ∧ d.value.classes.length = 1 ∧ d.value.associationTables.length = 1 ∧
        d.value.relationships.length = 2) ∧
      parse (.object d.value.documentFields) = .ok ⟨d.value, []⟩) ∧
    ∃ d : Noted Diagram,
      parse (.object [("elements", .arr [.obj [("id", .int 7), ("name", .str "Student")]])]) =
        .ok d ∧
      d.value = roster ∧ parse (.text roster.save) = .ok ⟨roster, []⟩ := by
  constructor
  · have hsizes : (parse (.object exchange)).toOption.any (fun d =>
        decide (d.notes.length = 2 ∧ d.value.classes.length = 1 ∧
          d.value.associationTables.length = 1 ∧ d.value.relationships.length = 2)) = true := by
      decide +kernel
    obtain ⟨d, hd, hsizes⟩ := (Option.any_eq_true _ _).1 hsizes
    rw [Except.toOption_eq_some] at hd
    exact ⟨d, hd, of_decide_eq_true hsizes, (parse_written (.object exchange) d hd).1⟩
  · have hroster : (parse (.object [("elements", .arr [.obj [("id", .int 7),
        ("name", .str "Student")]])])).toOption.any (fun d => decide (d.value = roster)) = true := by
      decide +kernel
    obtain ⟨d, hd, hroster⟩ := (Option.any_eq_true _ _).1 hroster
    rw [Except.toOption_eq_some] at hd
    have htext := (parse_written _ d hd).2
    rw [of_decide_eq_true hroster] at htext
    exact ⟨d, hd, of_decide_eq_true hroster, htext read_save_roster⟩

end Diagram

end Scaffold
