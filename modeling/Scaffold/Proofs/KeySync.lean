import Scaffold.Proofs.KeyMarks
import Scaffold.Proofs.Prediction

/-!
# Keys that are set with a reference

When a reference of a join entity is set, its part of the key is set from the key of the entity that
it leads to. The part has the type that the foreign key gives: its referenced type, or else its
declared type unless that is text (`Attribute.partType?`). Only a foreign key that gives none takes
the type of the key that is referenced, which the target has from the top of its chain.

So the two types need not be one. The setter of the part is called with a value of the other type,
and `part_type_iff` says when that type is the same.

Main statement: `part_type_iff`.
-/

namespace Scaffold

open Naming Java

/-- The type that a foreign key gives to its part of a key: the referenced type, or else the
declared type unless that is text. -/
def Attribute.partType? (a : Attribute) : Option JavaType :=
  match a.referencedType.filter (· ≠ "") with
  | some declared => some (.ofDeclared declared)
  | none =>
    if JavaType.ofDeclared a.type = .string then none else some (.ofDeclared a.type)

/-! ## Lines in braces -/

namespace Java

theorem pad_add (a b : Nat) : pad (a + b) = pad a ++ pad b := by
  rw [pad, pad, pad, ← String.ofList_append, Nat.mul_add, List.replicate_add]

theorem indent_indent (a b : Nat) (line : String) :
    indent a (indent b line) = indent (a + b) line := by
  unfold indent
  by_cases hempty : line = ""
  · simp [hempty]
  · have hpadded : pad b ++ line ≠ "" := fun hnone => hempty (String.append_eq_empty_iff.1 hnone).2
    rw [if_neg hempty, if_neg hempty, if_neg hpadded, pad_add, String.append_assoc]

theorem indent_zero (line : String) : indent 0 line = line := by
  unfold indent
  split
  · next hempty => exact hempty.symm
  · exact String.empty_append

/-- A line at a level is one level deeper in braces. -/
theorem indent_mem_braced {head : String} {body : Lines} {level : Nat} {line : String}
    (hline : indent level line ∈ body) : indent (level + 1) line ∈ braced head body := by
  rw [Nat.add_comm, ← indent_indent]
  exact List.mem_cons_of_mem _ (List.mem_append_left _ (List.mem_map_of_mem hline))

theorem mem_braced {head line : String} {body : Lines} (hline : line ∈ body) :
    indent 1 line ∈ braced head body :=
  indent_mem_braced (by rwa [indent_zero])

end Java

namespace JoinEntity

variable {ctx : Context} {t : AssociationTable} {r : Relation}

/-! ## Types of parts of the key -/

/-- A part of the key has the type that the foreign key gives, or else that of the key that is
referenced. -/
theorem keyType_eq (ctx : Context) (a : Attribute) (target : ClassNode) :
    keyType ctx a (some target) = a.partType?.getD (ctx.entityKey target).javaType := by
  unfold keyType Attribute.partType?
  cases a.referencedType.filter (· ≠ "") with
  | some declared => rfl
  | none => by_cases htext : JavaType.ofDeclared a.type = .string <;> simp [htext]

theorem eq_keyColumn {used : List String} {l : List Attribute} {column : KeyColumn}
    (hcolumn : column ∈ keyColumnsFrom ctx used l) :
    ∃ used', column = keyColumn ctx used' column.attr := by
  induction l generalizing used with
  | nil => cases hcolumn
  | cons a rest ih =>
    rcases List.mem_cons.1 hcolumn with rfl | hcolumn
    · exact ⟨used, rfl⟩
    · exact ih hcolumn

/-- The part of the key that belongs to a reference is one of the table. -/
theorem column_of_relation (hr : r ∈ relations ctx t) :
    r.column ∈ keyColumns ctx t ∧ r.column.target = some r.target := by
  obtain ⟨column, hcolumn, hr⟩ := List.mem_filterMap.1 hr
  obtain ⟨target, htarget, rfl⟩ := Option.map_eq_some_iff.1 hr
  exact ⟨hcolumn, htarget⟩

theorem javaType_of_relation (hr : r ∈ relations ctx t) :
    r.column.javaType =
      r.column.attr.partType?.getD (ctx.entityKey r.target).javaType := by
  obtain ⟨hcolumn, htarget⟩ := column_of_relation hr
  obtain ⟨used, hkey⟩ := eq_keyColumn hcolumn
  have htype : r.column.javaType = keyType ctx r.column.attr r.column.target := by
    rw [hkey]
    rfl
  rw [htype, htarget, keyType_eq]

/-! ## The file -/

/-- The lines of the class of the key are in the file of the join entity. -/
theorem keyClass_in_file {level : Nat} {line : String}
    (hline : indent level line ∈ keyClassCode t (keyColumns ctx t)) :
    indent (level + 1) line ∈ (file ctx t).value.body :=
  List.mem_append_right _ (indent_mem_braced (List.mem_append_right _ hline))

/-- The file declares the part of the key that belongs to a column, and has its setter. -/
theorem part_in_file {column : KeyColumn} (hcolumn : column ∈ keyColumns ctx t) :
    indent 2 s!"private {column.javaType.name} {column.keyField};" ∈ (file ctx t).value.body ∧
      indent 2 (s!"public void {setter column.keyField}({column.javaType.name} {
        column.keyField})" ++ " \x7b") ∈ (file ctx t).value.body := by
  constructor
  · refine keyClass_in_file (List.mem_cons_of_mem _ (mem_braced ?_))
    iterate 5 refine List.mem_append_left _ ?_
    refine List.mem_append_right _ (List.mem_flatMap.2 ⟨column, hcolumn, ?_⟩)
    exact List.mem_cons_of_mem _ List.mem_cons_self
  · refine keyClass_in_file (List.mem_cons_of_mem _ (mem_braced ?_))
    refine List.mem_append_left _ (List.mem_append_right _ ?_)
    refine List.mem_flatMap.2 ⟨column, hcolumn, ?_⟩
    rw [Property.code, Java.accessors, indented_zero]
    refine List.mem_append_left _ (List.mem_append_right _ ?_)
    exact List.mem_cons_self

/-- The line that sets the part of the key that belongs to a reference. -/
def syncLine (r : Relation) : String :=
  s!"this.id.{setter r.column.keyField}({r.column.relationField}.{r.keyRead.method}());"

theorem written_syncKey (t : AssociationTable) (r : Relation) :
    (syncKey t r).written = braced s!"if ({r.column.relationField} != null)"
      (braced "if (this.id == null)" [s!"this.id = new {keyClass t}();"] ++ [syncLine r]) := by
  have hline : (Line.text s!"this.id.{setter r.column.keyField}(" ++
      r.keyRead.code r.column.relationField ++ Line.text ");").written = syncLine r := by
    simp only [syncLine, AccessorCall.code, AccessorCall.name, Line.written_append,
      Line.written_text, toString, String.append_assoc]
    rfl
  rw [syncKey, Statements.written_braced, Statements.written_append, Statements.written_braced]
  simp only [Statements.written_cons, Statements.written_nil, Line.written_text]
  rw [hline]

/-- If the setter of a reference sets the part of the key, the file has the line that does so. -/
theorem sync_in_file (hr : r ∈ relations ctx t) (hsync : syncCode ctx t r ≠ []) :
    indent 3 (syncLine r) ∈ (file ctx t).value.body := by
  have hcode : syncCode ctx t r = syncKey t r := by
    unfold syncCode at hsync ⊢
    split
    · rfl
    · next hobstacle => exact absurd (if_neg hobstacle) hsync
  have haccessors : indent 2 (syncLine r) ∈ relationAccessors ctx t r := by
    rw [relationAccessors, hcode, written_syncKey]
    refine List.mem_append_left _ (List.mem_append_right _ (indent_mem_braced ?_))
    refine List.mem_cons_of_mem _ (mem_braced (List.mem_append_right _ ?_))
    exact List.mem_singleton_self _
  refine List.mem_append_right _ (indent_mem_braced ?_)
  iterate 3 refine List.mem_append_left _ ?_
  exact List.mem_append_right _ (List.mem_flatMap.2 ⟨r, hr, haccessors⟩)

end JoinEntity

/-- In the join entities of a diagram without repeated ids, a reference whose setter sets the part
of the key calls the setter of the part with what the getter of the target's key returns. The file
declares the part with the type that the target's key has, which is that of the class at the top of
the target's chain, exactly if the foreign key gives no other type. -/
theorem JoinEntity.part_type_iff {d : Diagram} (hd : d.DistinctIds) (basePackage : String)
    (queryLimit : Int) {t : AssociationTable} {r : Relation}
    (hr : r ∈ relations (Context.build d basePackage queryLimit).value t)
    (hsync : syncCode (Context.build d basePackage queryLimit).value t r ≠ []) :
    let ctx := (Context.build d basePackage queryLimit).value
    let key := ctx.entityKey r.target
    let body := (file ctx t).value.body
    key = ctx.hierarchy.keyOf (ctx.hierarchy.root r.target) ∧
      r.keyRead = ⟨r.target, .entity, .read, key.fieldName⟩ ∧
      indent 3 (syncLine r) ∈ body ∧
      indent 2 s!"private {r.column.javaType.name} {r.column.keyField};" ∈ body ∧
      indent 2 (s!"public void {setter r.column.keyField}({r.column.javaType.name} {
        r.column.keyField})" ++ " \x7b") ∈ body ∧
      (r.column.javaType = key.javaType ↔
        ∀ type, r.column.attr.partType? = some type → type = key.javaType) := by
  intro ctx key body
  obtain ⟨htarget, hread⟩ := relation_sound hr
  obtain ⟨hdeclared, hsetter⟩ := part_in_file (column_of_relation hr).1
  refine ⟨Context.entityKey_build hd basePackage queryLimit htarget, hread,
    sync_in_file hr hsync, hdeclared, hsetter, ?_⟩
  rw [javaType_of_relation hr]
  cases r.column.attr.partType? with
  | none => simp [key, ctx]
  | some type => simp [key, ctx]

/-- Tickets have a text for a key. -/
def ticket : ClassNode where
  id := "t"
  name := "Ticket"
  attributes := [{ name := "code", type := "String", isPrimaryKey := true }]

/-- Season tickets are tickets, with a number of their own. -/
def seasonTicket : ClassNode where
  id := "s"
  name := "SeasonTicket"
  attributes := [{ name := "number", type := "Long", isPrimaryKey := true }]

/-- Visitors have a number for a key. -/
def visitor : ClassNode where
  id := "v"
  name := "Visitor"
  attributes := [{ name := "id", type := "Integer", isPrimaryKey := true }]

/-- A foreign key of a declared type. -/
def ticketKey (name target type : String) : Attribute where
  name := name
  type := type
  isForeignKey := true
  referencedEntity := some target

/-- A table with two foreign keys. -/
def ticketTable (id name : String) (first second : Attribute) : AssociationTable where
  id := id
  name := name
  tableName := snakeCase name
  attributes := [first, second]
  foreignKeys := [first, second]

/-- Admissions join season tickets with visitors, and declare both foreign keys as texts. -/
def admission : AssociationTable :=
  ticketTable "a" "Admission" (ticketKey "season_ticket_code" "SeasonTicket" "String")
    (ticketKey "visitor_id" "Visitor" "String")

/-- Refunds join tickets with visitors, and declare the foreign key to tickets as a number. -/
def refund : AssociationTable :=
  ticketTable "r" "Refund" (ticketKey "ticket_code" "Ticket" "Long")
    (ticketKey "visitor_id" "Visitor" "String")

/-- Tickets, visitors, admissions and refunds. -/
def tickets : Diagram where
  classes := [ticket, seasonTicket, visitor]
  relationships := [parentEdge "t" "s"]
  associationTables := [admission, refund]

/-- The reference of a foreign key to a kind of tickets. -/
def ticketReference (a : Attribute) (target : ClassNode) (type : JavaType) :
    JoinEntity.Relation where
  column :=
    { attr := a, target := some target, relationField := camelCase target.name
      keyField := camelCase target.name ++ "Id", javaType := type }
  target := target
  keyRead := ⟨target, .entity, .read, "code"⟩

/-- The part of the key of an admission that belongs to the season ticket is a text, as the key of
tickets is. -/
theorem JoinEntity.part_type_tickets :
    let ctx := (Context.build tickets "app" 3).value
    let r := ticketReference (ticketKey "season_ticket_code" "SeasonTicket" "String") seasonTicket
      .string
    tickets.DistinctIds ∧ admission ∈ tickets.associationTables ∧ r ∈ relations ctx admission ∧
      syncCode ctx admission r ≠ [] ∧ r.column.attr.partType? = none ∧
      ctx.hierarchy.root seasonTicket = ticket ∧
      (ctx.entityKey seasonTicket).javaType = .string ∧
      "            this.id.setSeasonTicketId(seasonTicket.getCode());" ∈
        (file ctx admission).value.body := by
  intro ctx r
  have hd : tickets.DistinctIds := by
    unfold Diagram.DistinctIds
    decide
  have hr : r ∈ relations ctx admission := by decide +kernel
  have hsync : syncCode ctx admission r ≠ [] := by decide +kernel
  have hnone : r.column.attr.partType? = none := by decide +kernel
  obtain ⟨-, -, hline, -, -, htype⟩ := part_type_iff hd "app" 3 hr hsync
  have hsame : r.column.javaType = (ctx.entityKey seasonTicket).javaType :=
    htype.2 fun type hgiven => nomatch hnone.symm.trans hgiven
  have hwritten : indent 3 (syncLine r) =
      "            this.id.setSeasonTicketId(seasonTicket.getCode());" := by decide +kernel
  exact ⟨hd, by decide, hr, hsync, hnone, by decide +kernel, hsame.symm, hwritten ▸ hline⟩

/-- The part of the key of a refund that belongs to the ticket is a number, and is set to the text
that is the key of the ticket. -/
theorem JoinEntity.not_typed_tickets :
    let ctx := (Context.build tickets "app" 3).value
    let r := ticketReference (ticketKey "ticket_code" "Ticket" "Long") ticket .long
    tickets.DistinctIds ∧ refund ∈ tickets.associationTables ∧ r ∈ relations ctx refund ∧
      syncCode ctx refund r ≠ [] ∧ r.column.javaType ≠ (ctx.entityKey r.target).javaType ∧
      "        private Long ticketId;" ∈ (file ctx refund).value.body ∧
      "            this.id.setTicketId(ticket.getCode());" ∈ (file ctx refund).value.body := by
  intro ctx r
  have hd : tickets.DistinctIds := by
    unfold Diagram.DistinctIds
    decide
  exact ⟨hd, by decide, by decide +kernel, by decide +kernel, by decide +kernel,
    by decide +kernel, by decide +kernel⟩

end Scaffold
