import Scaffold.Proofs.MadeIds
import Scaffold.Proofs.Ownership

/-!
# What becomes of a document

Reading a document goes through its elements, through the attributes of those that are classes, and
through its connections. An item on the way becomes one thing or is left out, and which of the two
follows from the item alone: an element is a class or not (`isClass`), an attribute has a name or
not (`isNamed`), a connection has both ends or not (`hasEnds`). What the items that are kept become
stands in their order, and every attribute and every connection that is left out is reported once,
with its place.

Main statement: `Diagram.parse_conserves`.
-/

namespace Scaffold

open Json

/-! ## Lists that are read item by item -/

section Lists

variable {α β γ : Type}

/-- What is read from the items of a list with their places is read from each of them. -/
theorem forall₂_of_mapM_zipIdx {ε : Type} {read : Nat → α → Except ε β} {l : List α} {bs : List β}
    {start : Nat} (hl : (l.zipIdx start).mapM (fun p => read p.2 p.1) = .ok bs) :
    List.Forall₂ (fun a b => ∃ index, read index a = .ok b) l bs := by
  have hpairs : List.Forall₂ (fun p b => ∃ index, read index p.1 = .ok b) (l.zipIdx start) bs :=
    (mapM_eq_ok_iff.1 hl).imp fun p b hread => ⟨p.2, hread⟩
  rw [← List.zipIdx_map_fst start l]
  exact List.forall₂_map_left_iff.2 hpairs

/-- If each item of a list that is kept becomes something, and no other item does, what is picked
is made of the items that are kept, in their order. -/
theorem forall₂_filter_filterMap {R : α → γ → Prop} {keep : α → Bool} {pick : β → Option γ}
    {l : List α} {l' : List β}
    (h : List.Forall₂ (fun a b => (keep a = true ∧ ∃ c, pick b = some c ∧ R a c) ∨
      (keep a = false ∧ pick b = none)) l l') :
    List.Forall₂ R (l.filter keep) (l'.filterMap pick) := by
  induction h with
  | nil => exact .nil
  | cons hab _ ih =>
    rcases hab with ⟨hkeep, c, hpick, hR⟩ | ⟨hkeep, hpick⟩
    · rw [List.filter_cons_of_pos hkeep, List.filterMap_cons_some hpick]
      exact .cons hR ih
    · rw [List.filter_cons_of_neg (by simp [hkeep]), List.filterMap_cons_none hpick]
      exact ih

/-- What is picked from items with their places depends on what is picked from each of them. -/
theorem filterMap_zipIdx_congr {f : α × Nat → Option γ} {g : β × Nat → Option γ} {l : List α}
    {l' : List β} (h : List.Forall₂ (fun a b => ∀ index, f (a, index) = g (b, index)) l l')
    (start : Nat) : (l.zipIdx start).filterMap f = (l'.zipIdx start).filterMap g := by
  induction h generalizing start with
  | nil => rfl
  | cons hab _ ih =>
    rw [List.zipIdx_cons, List.zipIdx_cons, List.filterMap_cons, List.filterMap_cons, hab, ih]

theorem flatMap_eq_of_forall₂ {f : α → List γ} {g : β → List γ} {l : List α} {l' : List β}
    (h : List.Forall₂ (fun a b => g b = f a) l l') : l'.flatMap g = l.flatMap f := by
  induction h with
  | nil => rfl
  | cons hab _ ih => rw [List.flatMap_cons, List.flatMap_cons, hab, ih]

end Lists

namespace Document

/-! ## Items that are left out -/

/-- The diagnostics for the items of a list that are not kept, each with its place. -/
def omissions (keep : Value → Bool) (note : Nat → Value → Diagnostic) (items : List Value) :
    List Diagnostic :=
  items.zipIdx.filterMap fun p => if keep p.1 then none else some (note p.2 p.1)

theorem length_omissions (keep : Value → Bool) (note : Nat → Value → Diagnostic)
    (items : List Value) :
    items.length = (items.filter keep).length + (omissions keep note items).length := by
  have hstart : ∀ start, items.length = (items.filter keep).length +
      ((items.zipIdx start).filterMap fun p =>
        if keep p.1 then none else some (note p.2 p.1)).length := by
    induction items with
    | nil => simp
    | cons v rest ih =>
      intro start
      have hrest := ih (start + 1)
      rw [List.zipIdx_cons, List.filterMap_cons, List.length_cons]
      dsimp only
      by_cases hkeep : keep v = true
      · rw [if_pos hkeep, List.filter_cons_of_pos hkeep, List.length_cons]
        dsimp only
        omega
      · rw [if_neg hkeep, List.filter_cons_of_neg hkeep]
        dsimp only
        rw [List.length_cons]
        omega
  exact hstart 0

theorem exists_of_mem_omissions {keep : Value → Bool} {note : Nat → Value → Diagnostic}
    {items : List Value} {n : Diagnostic} (hn : n ∈ omissions keep note items) :
    ∃ index v, n = note index v := by
  obtain ⟨p, -, hp⟩ := List.mem_filterMap.1 hn
  split at hp
  · cases hp
  · exact ⟨_, _, (Option.some.inj hp).symm⟩

/-! ## Attributes -/

/-- The fields of a value, none if it is no object. -/
def fieldsOf : Value → Fields
  | .obj fields => fields
  | _ => []

/-- The items in the attributes of an element. -/
def attributeItems (v : Value) : List Value :=
  match valueOf (fieldsOf v) "attributes" with
  | .arr items => items
  | _ => []

/-- Whether an item of attributes has a name. -/
def isNamed : Value → Bool
  | .str s => (Shorthand.parse s).isSome
  | .obj fields => (valueOf fields "name").isGiven
  | _ => false

/-- An attribute is the one that an item describes, in short or field by field. -/
inductive AttributeOf : Value → Attribute → Prop where
  | shorthand {s name type : String} (hparse : Shorthand.parse s = some (name, type)) :
    AttributeOf (.str s) { name := name, type := type }
  | record {fields : Fields} {a : Attribute} (hread : Attribute.ofFields fields = .valid a) :
    AttributeOf (.obj fields) a

/-- The diagnostics for the attributes of an element that have no name. -/
def namelessNotes (v : Value) : List Diagnostic :=
  omissions isNamed
    (fun index _ => ⟨.namelessAttribute index, some (valueOf (fieldsOf v) "id").shown, none⟩)
    (attributeItems v)

/-- An item with a name becomes the attribute that it describes, and no other item becomes one. -/
theorem readAttribute_eq_ok {label : String} {index : Nat} {item : Value} {o : Option Attribute}
    (hread : readAttribute label index item = .ok o) :
    (isNamed item = true ∧ ∃ a, o = some a ∧ AttributeOf item a) ∨
      (isNamed item = false ∧ o = none) := by
  cases item with
  | str s =>
    obtain rfl := Except.ok.inj hread
    rw [isNamed]
    cases hparse : Shorthand.parse s with
    | none => exact .inr ⟨rfl, rfl⟩
    | some p => exact .inl ⟨rfl, _, rfl, .shorthand hparse⟩
  | obj fields =>
    rw [readAttribute] at hread
    rw [isNamed]
    split at hread
    · next hname =>
      obtain ⟨a, ha, rfl⟩ := Except.map_eq_ok.1 hread
      exact .inl ⟨hname, a, rfl, .record (Checked.orError_eq_ok.1 ha)⟩
    · next hname =>
      cases hread
      exact .inr ⟨eq_false_of_ne_true hname, rfl⟩
  | _ => cases hread

/-- The attributes of an element are read item by item. -/
theorem readAttributes_eq_ok {label : String} {v : Value} {l : List (Option Attribute)}
    (hread : readAttributes label (valueOf (fieldsOf v) "attributes") = .ok l) :
    List.Forall₂ (fun item o => (isNamed item = true ∧ ∃ a, o = some a ∧ AttributeOf item a) ∨
      (isNamed item = false ∧ o = none)) (attributeItems v) l := by
  unfold attributeItems
  cases hitems : valueOf (fieldsOf v) "attributes" with
  | null =>
    rw [hitems] at hread
    cases hread
    exact .nil
  | arr items =>
    rw [hitems] at hread
    exact (forall₂_of_mapM_zipIdx hread).imp fun item o ⟨index, hitem⟩ => readAttribute_eq_ok hitem
  | _ =>
    rw [hitems] at hread
    cases hread

/-! ## Elements -/

/-- Whether an element is read as a class: it has no type, or this one. -/
def isClass : Value → Bool
  | .obj fields => (Fields.get? fields "type").all (· = .str "class")
  | _ => false

/-- A class is the one that an element describes. Its attributes are those of the items that have a
name, in order. -/
structure ClassOf (v : Value) (c : ClassNode) : Prop where
  /-- It has the id. -/
  id : c.id = (valueOf (fieldsOf v) "id").shown
  /-- It has the name. -/
  name : c.name = (valueOf (fieldsOf v) "name").shown
  /-- It has the attributes. -/
  attributes : List.Forall₂ AttributeOf ((attributeItems v).filter isNamed) c.attributes
  /-- It has the methods. -/
  methods : (if (valueOf (fieldsOf v) "methods").isGiven then
    Record.methodTexts (valueOf (fieldsOf v) "methods") else .valid []) = .valid c.methods
  /-- It has the stereotype. -/
  stereotype : Record.textOrNull (valueOf (fieldsOf v) "stereotype") = .valid c.stereotype
  /-- It has the visibility. -/
  visibility : Record.textOrNull (valueOf (fieldsOf v) "visibility") = .valid c.visibility
  /-- It has the description. -/
  description : Record.textOr "" (valueOf (fieldsOf v) "description") = .valid c.description

theorem readClass_eq_ok {fields : Fields} {index : Nat} {n : Noted ClassNode}
    (hread : readClass fields index = .ok n) :
    ClassOf (.obj fields) n.value ∧ n.notes = namelessNotes (.obj fields) := by
  obtain ⟨-, -, attributes, hattributes, hchecked, hnotes⟩ := readClass_inv hread
  obtain ⟨_, _, hchecked₃, hdescription, hn⟩ := Checked.seq_eq_valid.1 hchecked
  obtain ⟨_, _, hchecked₂, hvisibility, rfl⟩ := Checked.seq_eq_valid.1 hchecked₃
  obtain ⟨_, _, hchecked₁, hstereotype, rfl⟩ := Checked.seq_eq_valid.1 hchecked₂
  obtain ⟨_, hmethods, rfl⟩ := Checked.map_eq_valid.1 hchecked₁
  have hitems := readAttributes_eq_ok (v := .obj fields) hattributes
  rw [← hn, hnotes]
  constructor
  · exact
      { id := rfl
        name := rfl
        attributes := forall₂_filter_filterMap hitems
        methods := Checked.under_eq_valid.1 hmethods
        stereotype := Checked.under_eq_valid.1 hstereotype
        visibility := Checked.under_eq_valid.1 hvisibility
        description := Checked.under_eq_valid.1 hdescription }
  · refine (filterMap_zipIdx_congr (hitems.imp ?_) 0).symm
    rintro item o (⟨hnamed, a, rfl, -⟩ | ⟨hnamed, rfl⟩) index
    · simp [hnamed]
    · simp [hnamed, fieldsOf]

/-- Every item of the attributes of classes becomes an attribute or is reported. -/
theorem length_attributeItems {classes : List Value} {nodes : List ClassNode}
    (h : List.Forall₂ ClassOf classes nodes) : (classes.flatMap attributeItems).length =
      (nodes.flatMap (·.attributes)).length + (classes.flatMap namelessNotes).length := by
  induction h with
  | nil => rfl
  | @cons v c _ _ hclass _ ih =>
    have hitems : (attributeItems v).length = c.attributes.length + (namelessNotes v).length := by
      rw [← hclass.attributes.length_eq]
      exact length_omissions isNamed _ _
    simp only [List.flatMap_cons, List.length_append]
    omega

/-- An element that is a class becomes the one that it describes, and no other element becomes
one. -/
theorem readElement_eq_ok {index : Nat} {v : Value} {o : Option (Noted ClassNode)}
    (hread : readElement index v = .ok o) :
    (isClass v = true ∧ ∃ n, o = some n ∧ ClassOf v n.value ∧ n.notes = namelessNotes v) ∨
      (isClass v = false ∧ o = none) := by
  cases v with
  | obj fields =>
    have hclass : (readClass fields index).map some = .ok o → ∃ n, o = some n ∧
        ClassOf (.obj fields) n.value ∧ n.notes = namelessNotes (.obj fields) := by
      intro hread
      obtain ⟨n, hn, rfl⟩ := Except.map_eq_ok.1 hread
      exact ⟨n, rfl, readClass_eq_ok hn⟩
    rw [readElement] at hread
    rw [isClass]
    split at hread
    · next htype => exact .inl ⟨by simp [htype], hclass hread⟩
    · next htype => exact .inl ⟨by simp [htype], hclass hread⟩
    · next other hother htype =>
      obtain ⟨-, -, hread⟩ := Except.bind_eq_ok.1 hread
      cases hread
      exact .inr ⟨by simpa [htype] using hother, rfl⟩
  | _ => cases hread

/-! ## Connections -/

/-- The diagnostics for the connections that lack an end. -/
def looseNotes (connections : List Value) : List Diagnostic :=
  omissions hasEnds (fun index v => ⟨.looseConnection index, presentEnd? v, none⟩) connections

/-- An edge is the one that a connection describes. Its id is the one that is given, or one that is
made. -/
def EdgeOf (v : Value) (r : Relationship) : Prop :=
  ∃ bases, edgeUnder? (idAfter bases v) v = some r

/-- Connections are read one by one. -/
theorem readConnections_eq_ok {index : Nat} {bases : List String} {l : List Value}
    {connections : List Connection} (hread : readConnections index bases l = .ok connections) :
    List.Forall₂ (fun v connection => (hasEnds v = true ∧ ∃ r, connection = .edge r ∧ EdgeOf v r) ∨
      (hasEnds v = false ∧ connection = .dropped (presentEnd? v))) l connections := by
  induction l generalizing index bases connections with
  | nil =>
    cases hread
    exact .nil
  | cons v rest ih =>
    obtain ⟨connection, base, others, hfirst, hrest, rfl⟩ := readConnections_cons hread
    refine .cons ?_ (ih hrest)
    rcases (readConnection_eq_ok hfirst).2 with ⟨hends, r, hr, hedge⟩ | hdropped
    · exact .inl ⟨hends, r, hr, bases, hedge⟩
    · exact .inr hdropped

theorem edges_of_readConnections {index : Nat} {bases : List String} {l : List Value}
    {connections : List Connection} (hread : readConnections index bases l = .ok connections) :
    List.Forall₂ EdgeOf (l.filter hasEnds) (edges connections) := by
  refine forall₂_filter_filterMap ((readConnections_eq_ok hread).imp ?_)
  rintro v connection (⟨hends, r, rfl, hedge⟩ | ⟨hends, rfl⟩)
  · exact .inl ⟨hends, r, rfl, hedge⟩
  · exact .inr ⟨hends, rfl⟩

theorem notes_of_readConnections {index : Nat} {bases : List String} {l : List Value}
    {connections : List Connection} (hread : readConnections index bases l = .ok connections) :
    connectionNotes connections = looseNotes l := by
  refine (filterMap_zipIdx_congr ((readConnections_eq_ok hread).imp ?_) 0).symm
  rintro v connection (⟨hends, r, rfl, -⟩ | ⟨hends, rfl⟩) index
  · simp [hends]
  · simp [hends]

/-! ## Documents -/

/-- The elements and connections of a document are all in a diagram and its diagnostics, once and in
order. `nodes` are the classes of the document, those that are tables included. -/
structure Conserved (elements connections : List Value) (nodes : List ClassNode)
    (d : Noted Diagram) : Prop where
  /-- The elements that are classes become classes, one for one. -/
  described : List.Forall₂ ClassOf (elements.filter isClass) nodes
  /-- The classes of the diagram are those without the stereotype of tables. -/
  classes : d.value.classes = nodes.filter (·.stereotype ≠ some tableStereotype)
  /-- The tables are made from the others. -/
  tables : d.value.associationTables =
    (nodes.filter (·.stereotype = some tableStereotype)).map toTable
  /-- The connections with both ends become edges, one for one. -/
  relationships : List.Forall₂ EdgeOf (connections.filter hasEnds) d.value.relationships
  /-- What is left out of the attributes is reported class by class, and then what is left out of
  the connections. Nothing else is. -/
  notes : d.notes = (elements.filter isClass).flatMap namelessNotes ++ looseNotes connections

theorem conserved_of_readDiagram {fields : Fields} {d : Noted Diagram}
    (hread : readDiagram fields = .ok d) :
    ∃ elements connections nodes, container fields "elements" = .ok elements ∧
      container fields "connections" = .ok connections ∧
      Conserved elements connections nodes d := by
  unfold readDiagram at hread
  obtain ⟨elements, helements, hread⟩ := Except.bind_eq_ok.1 hread
  obtain ⟨values, hvalues, hread⟩ := Except.bind_eq_ok.1 hread
  obtain ⟨read, hclasses, hread⟩ := Except.bind_eq_ok.1 hread
  obtain ⟨connections, hconnections, hread⟩ := Except.bind_eq_ok.1 hread
  cases hread
  have hnodes : List.Forall₂ (fun v n => ClassOf v n.value ∧ n.notes = namelessNotes v)
      (elements.filter isClass) (read.filterMap fun n => n) :=
    forall₂_filter_filterMap
      ((forall₂_of_mapM_zipIdx hclasses).imp fun v o ⟨index, hv⟩ => readElement_eq_ok hv)
  refine ⟨elements, values, (read.filterMap fun n => n).map (·.value), helements, hvalues, ?_⟩
  exact
    { described := List.forall₂_map_right_iff.2 (hnodes.imp fun v n hn => hn.1)
      classes := by simp only [decide_not]
      tables := rfl
      relationships := edges_of_readConnections hconnections
      notes := congrArg₂ (· ++ ·) (flatMap_eq_of_forall₂ (hnodes.imp fun v n hn => hn.2))
        (notes_of_readConnections hconnections) }

namespace Conserved

variable {elements connections : List Value} {nodes : List ClassNode} {d : Noted Diagram}

/-- The reports on attributes are those with the code of validation, the reports on connections
those with the code of classification, and there are no others. -/
theorem notes_of_code (h : Conserved elements connections nodes d) :
    d.notes.filter (·.code = .validation) = (elements.filter isClass).flatMap namelessNotes ∧
      d.notes.filter (·.code = .classification) = looseNotes connections ∧
      ∀ n ∈ d.notes, n.code = .validation ∨ n.code = .classification := by
  have hattributes : ∀ n ∈ (elements.filter isClass).flatMap namelessNotes,
      n.code = .validation := by
    intro n hn
    obtain ⟨v, -, hn⟩ := List.mem_flatMap.1 hn
    obtain ⟨_, _, rfl⟩ := exists_of_mem_omissions hn
    rfl
  have hconnections : ∀ n ∈ looseNotes connections, n.code = .classification := by
    intro n hn
    obtain ⟨_, _, rfl⟩ := exists_of_mem_omissions hn
    rfl
  rw [h.notes]
  generalize (elements.filter isClass).flatMap namelessNotes = attributes at hattributes ⊢
  refine ⟨?_, ?_, fun n hn => ?_⟩
  · rw [List.filter_append, List.filter_eq_self.2 fun n hn => by simp [hattributes n hn],
      List.filter_eq_nil_iff.2 fun n hn => by simp [hconnections n hn], List.append_nil]
  · rw [List.filter_append, List.filter_eq_nil_iff.2 fun n hn => by simp [hattributes n hn],
      List.filter_eq_self.2 fun n hn => by simp [hconnections n hn], List.nil_append]
  · exact (List.mem_append.1 hn).imp (hattributes n) (hconnections n)

theorem length_elements (h : Conserved elements connections nodes d) :
    (elements.filter isClass).length =
      d.value.classes.length + d.value.associationTables.length := by
  rw [h.described.length_eq, h.classes, h.tables, List.length_map, ← List.countP_eq_length_filter,
    ← List.countP_eq_length_filter, Nat.add_comm]
  simpa using
    List.length_eq_countP_add_countP (fun c : ClassNode => c.stereotype = some tableStereotype)

theorem length_attributes (h : Conserved elements connections nodes d) :
    ((elements.filter isClass).flatMap attributeItems).length =
      (nodes.flatMap (·.attributes)).length + (d.notes.filter (·.code = .validation)).length := by
  rw [h.notes_of_code.1]
  exact length_attributeItems h.described

theorem length_connections (h : Conserved elements connections nodes d) :
    connections.length =
      d.value.relationships.length + (d.notes.filter (·.code = .classification)).length := by
  rw [h.notes_of_code.2.1, ← h.relationships.length_eq]
  exact length_omissions hasEnds _ connections

end Conserved

end Document

open Document

/-- Reading a document loses nothing, takes nothing twice and keeps all orders.

Every element that is a class becomes a class or, by its stereotype, a table. Every item of its
attributes becomes an attribute or is reported, and every connection becomes an edge or is reported.
There are no other reports. -/
theorem Diagram.parse_conserves {source : Source} {d : Noted Diagram}
    (hparse : Diagram.parse source = .ok d) :
    ∃ fields elements connections nodes, source.fields = .ok fields ∧
      container fields "elements" = .ok elements ∧
      container fields "connections" = .ok connections ∧
      Conserved elements connections nodes d ∧
      (elements.filter isClass).length =
        d.value.classes.length + d.value.associationTables.length ∧
      ((elements.filter isClass).flatMap attributeItems).length =
        (nodes.flatMap (·.attributes)).length + (d.notes.filter (·.code = .validation)).length ∧
      connections.length =
        d.value.relationships.length + (d.notes.filter (·.code = .classification)).length ∧
      ∀ n ∈ d.notes, n.code = .validation ∨ n.code = .classification := by
  obtain ⟨fields, hfields, hread⟩ := Except.bind_eq_ok.1 hparse
  obtain ⟨elements, connections, nodes, helements, hconnections, h⟩ :=
    conserved_of_readDiagram hread
  exact ⟨fields, elements, connections, nodes, hfields, helements, hconnections, h,
    h.length_elements, h.length_attributes, h.length_connections, h.notes_of_code.2.2⟩

/-- A document with a remark between a class and a table. One attribute has no name, and one
connection has no target. -/
def intake : Fields :=
  [("elements", .arr
      [.obj [("id", .str "a"), ("name", .str "Author"),
          ("attributes", .arr [.str "name", .str ": Long", .obj [("name", .str "born")]])],
        .obj [("id", .str "r"), ("type", .str "remark")],
        .obj [("id", .str "t"), ("name", .str "Writes"), ("type", .str "class"),
          ("stereotype", .str "association_table")]]),
    ("connections", .obj
      [("first", .obj [("source", .str "a")]),
        ("second", .obj [("id", .int 4), ("source", .str "a"), ("target", .str "t")])])]

theorem Diagram.parse_conserves_intake :
    ∃ d elements connections nodes, Diagram.parse (.object intake) = .ok d ∧
      container intake "elements" = .ok elements ∧
      container intake "connections" = .ok connections ∧
      Conserved elements connections nodes d ∧
      d.notes = [⟨.namelessAttribute 1, some "a", none⟩, ⟨.looseConnection 0, some "a", none⟩] ∧
      connections.length = d.value.relationships.length + 1 := by
  obtain ⟨d, hparse, hnotes⟩ : ∃ d, Diagram.parse (.object intake) = .ok d ∧ d.notes =
      [⟨.namelessAttribute 1, some "a", none⟩, ⟨.looseConnection 0, some "a", none⟩] :=
    Except.exists_of_any (by decide +kernel)
  obtain ⟨fields, elements, connections, nodes, hfields, helements, hconnections, h, -, -, hloose,
    -⟩ := Diagram.parse_conserves hparse
  cases hfields
  rw [hnotes] at hloose
  exact ⟨d, elements, connections, nodes, hparse, helements, hconnections, h, hnotes, hloose⟩

end Scaffold
