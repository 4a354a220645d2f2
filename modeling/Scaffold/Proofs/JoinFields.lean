import Mathlib.Data.List.Nodup
import Scaffold.Backend.JoinEntity
import Scaffold.Proofs.KeyMarks

/-!
# Fields of join entities

A join entity calls the reference of a foreign key after the class that is referenced. If that name
is used already, by a foreign key in front, it falls back to the name of the attribute, and does not
look whether this name is used too. So two references have one field exactly if some foreign key
falls back to a name that is used.

Which field a foreign key gets depends on those in front of it. The invariant is carried along the
list from its front: the fields that are used are those of the foreign keys so far
(`keyColumnsFrom_concat`).

Main statements: `filter_declares_file` (the fields that the file declares) and
`distinct_fields_iff` (when the fields of references, of parts of the key and of the join entity are
distinct).
-/

namespace Scaffold

open Naming Java

/-- A property of a list and each of its members holds at the members of a list, each after those in
front of it, exactly if it does so without the last member, and at the last. -/
theorem forall_splits_concat {α : Type} {P : List α → α → Prop} {l : List α} {a : α} :
    (∀ before b after, l ++ [a] = before ++ b :: after → P before b) ↔
      (∀ before b after, l = before ++ b :: after → P before b) ∧ P l a := by
  constructor
  · intro hall
    refine ⟨fun before b after hl => hall before b (after ++ [a]) ?_, hall l a [] rfl⟩
    rw [hl, List.append_assoc, List.cons_append]
  · rintro ⟨hall, hlast⟩ before b after hl
    rcases List.eq_nil_or_concat' after with rfl | ⟨after, c, rfl⟩
    · obtain ⟨rfl, hb⟩ := List.append_inj' hl rfl
      exact List.head_eq_of_cons_eq hb ▸ hlast
    · rw [← List.cons_append, ← List.append_assoc] at hl
      exact hall before b after (List.append_inj' hl rfl).1

namespace JoinEntity

/-! ## Fields of references -/

/-- The field of a reference that is called after the class. -/
def classField (a : Attribute) : String :=
  camelCase ((a.referencedEntity.filter (· ≠ "")).getD a.name)

/-- The fields of the references of some foreign keys, those that lead to no class included. -/
def usedFields (ctx : Context) (l : List Attribute) : List String :=
  (keyColumnsFrom ctx [] l).map (·.relationField)

/-- The fields of the references of some foreign keys that lead to classes. -/
def relatedFields (ctx : Context) (l : List Attribute) : List String :=
  ((keyColumnsFrom ctx [] l).filter (·.target.isSome)).map (·.relationField)

/-- Whether the name of a foreign key gives a field that an earlier one has, after its class or
after its own name. -/
def Echoes (earlier a : Attribute) : Prop :=
  camelCase a.name = classField earlier ∨ camelCase a.name = camelCase earlier.name

instance (earlier a : Attribute) : Decidable (Echoes earlier a) :=
  inferInstanceAs (Decidable (_ ∨ _))

variable {ctx : Context}

/-- What is used counts as a set. -/
theorem keyColumn_congr {used used' : List String} (hsame : ∀ field, field ∈ used ↔ field ∈ used')
    (a : Attribute) : keyColumn ctx used a = keyColumn ctx used' a := by
  simp only [keyColumn, hsame]

/-- The last of some foreign keys gets its field after those in front of it. -/
theorem keyColumnsFrom_concat (used : List String) (l : List Attribute) (a : Attribute) :
    keyColumnsFrom ctx used (l ++ [a]) = keyColumnsFrom ctx used l ++
      [keyColumn ctx ((keyColumnsFrom ctx used l).map (·.relationField) ++ used) a] := by
  induction l generalizing used with
  | nil => rfl
  | cons b rest ih =>
    rw [List.cons_append, keyColumnsFrom, ih, keyColumnsFrom, List.cons_append]
    congr 3
    refine keyColumn_congr (fun field => ?_) a
    simp only [List.map_cons, List.mem_append, List.mem_cons]
    tauto

theorem keyColumns_concat (l : List Attribute) (a : Attribute) :
    keyColumnsFrom ctx [] (l ++ [a]) =
      keyColumnsFrom ctx [] l ++ [keyColumn ctx (usedFields ctx l) a] := by
  rw [keyColumnsFrom_concat, List.append_nil]
  rfl

/-- A foreign key gets the field of its class if that is not used, or else that of its own name. -/
theorem relationField_keyColumn (used : List String) (a : Attribute) :
    (keyColumn ctx used a).relationField =
      if classField a ∈ used then camelCase a.name else classField a := rfl

theorem mem_usedFields {l : List Attribute} {field : String} (hfield : field ∈ usedFields ctx l) :
    ∃ a ∈ l, field = classField a ∨ field = camelCase a.name := by
  induction l using List.reverseRecOn with
  | nil => cases hfield
  | append_singleton l a ih =>
    rw [usedFields, keyColumns_concat, List.map_append, List.mem_append] at hfield
    rcases hfield with hfield | hfield
    · obtain ⟨b, hb, hname⟩ := ih hfield
      exact ⟨b, List.mem_append_left _ hb, hname⟩
    · refine ⟨a, List.mem_append_right _ (List.mem_singleton_self a), ?_⟩
      rw [List.mem_singleton.1 hfield]
      dsimp only
      rw [relationField_keyColumn]
      split
      · exact .inr rfl
      · exact .inl rfl

theorem filter_subset_usedFields (ctx : Context) (p : KeyColumn → Bool) (l : List Attribute) :
    ((keyColumnsFrom ctx [] l).filter p).map (·.relationField) ⊆ usedFields ctx l :=
  (List.filter_sublist.map _).subset

/-- The references that have a property have distinct fields exactly if none of them falls back to a
field that one of them has. -/
theorem nodup_relationFields_iff (ctx : Context) (p : KeyColumn → Bool) (l : List Attribute) :
    (((keyColumnsFrom ctx [] l).filter p).map (·.relationField)).Nodup ↔
      ∀ before a after, l = before ++ a :: after →
        p (keyColumn ctx (usedFields ctx before) a) = true →
          classField a ∈ usedFields ctx before →
            camelCase a.name ∉ ((keyColumnsFrom ctx [] before).filter p).map (·.relationField) := by
  induction l using List.reverseRecOn with
  | nil => simp [keyColumnsFrom]
  | append_singleton l a ih =>
    rw [forall_splits_concat, ← ih, keyColumns_concat, List.filter_append, List.map_append]
    cases hp : p (keyColumn ctx (usedFields ctx l) a) with
    | false => simp [hp]
    | true =>
      have hsub := filter_subset_usedFields ctx p l
      rw [List.filter_cons_of_pos hp, List.filter_nil, List.map_singleton, List.nodup_append_comm,
        List.singleton_append, List.nodup_cons, and_comm, relationField_keyColumn]
      refine and_congr_right fun _ => ?_
      split
      · next hused => exact ⟨fun hnew _ _ => hnew, fun hnew => hnew rfl hused⟩
      · next hfree => exact ⟨fun _ _ hused => absurd hused hfree, fun _ => mt (@hsub _) hfree⟩

end JoinEntity

/-! ## Declarations in a file -/

/-- The declaration of the field of a property. -/
def Property.declaration (p : Property) : String := s!"private {p.type} {p.field};"

namespace Java

/-- Whether a line at a level declares a private field. -/
def declaresAt (level : Nat) (line : String) : Bool :=
  (pad level ++ "private ").toList.isPrefixOf line.toList

theorem declaresAt_indent (line : String) : declaresAt 1 (indent 1 line) = declaresAt 0 line := by
  unfold indent
  split
  · next hempty =>
    rw [hempty]
    decide
  · have hpad : pad 0 = "" := rfl
    rw [Bool.eq_iff_iff, declaresAt, declaresAt, List.isPrefixOf_iff_prefix,
      List.isPrefixOf_iff_prefix, String.toList_append, String.toList_append,
      List.prefix_append_right_inj, hpad, String.empty_append]

/-- A text that starts in another way than the declaration of a field at a level. -/
def StartsApart (level : Nat) (start : String) : Prop :=
  ¬(pad level ++ "private ").toList <+: start.toList ∧
    ¬start.toList <+: (pad level ++ "private ").toList

instance (level : Nat) (start : String) : Decidable (StartsApart level start) :=
  inferInstanceAs (Decidable (_ ∧ _))

/-- A line declares nothing if it starts in another way. -/
theorem declaresAt_append {level : Nat} {start : String} (hstart : StartsApart level start)
    (rest : String) : declaresAt level (start ++ rest) = false := by
  refine Bool.eq_false_iff.2 fun hprefix => ?_
  rw [declaresAt, List.isPrefixOf_iff_prefix, String.toList_append (s := start)] at hprefix
  exact (List.prefix_or_prefix_of_prefix hprefix (List.prefix_append _ _)).elim hstart.1 hstart.2

theorem declaresAt_declaration (p : Property) : declaresAt 0 p.declaration = true := by
  have hstart : p.declaration = "private " ++ (p.type ++ (" " ++ (p.field ++ ";"))) := by
    simp only [Property.declaration, toString, String.append_assoc]
  rw [hstart, declaresAt, List.isPrefixOf_iff_prefix, String.toList_append, String.toList_append]
  exact List.prefix_append _ _

/-- Code in braces declares no field without blanks in front of it. -/
theorem filter_declares_braced {head : String} (body : Lines)
    (hhead : declaresAt 0 (head ++ " \x7b") = false) :
    (braced head body).filter (declaresAt 0) = [] := by
  refine List.filter_eq_nil_iff.2 fun line hline => Bool.eq_false_iff.1 ?_
  rcases List.mem_cons.1 hline with rfl | hline
  · exact hhead
  rcases List.mem_append.1 hline with hline | hline
  · obtain ⟨inner, -, rfl⟩ := List.mem_map.1 hline
    unfold indent
    split
    · decide
    · exact declaresAt_append (by decide) inner
  · rw [List.mem_singleton.1 hline]
    decide

/-- A method or a class declares no field outside of its braces. -/
theorem filter_declares_of_apart {start : String} (hstart : StartsApart 0 start) (rest : String)
    (body : Lines) : (braced (start ++ rest) body).filter (declaresAt 0) = [] := by
  refine filter_declares_braced body ?_
  rw [String.append_assoc]
  exact declaresAt_append hstart _

/-- A class declares in its braces what the code in it declares. -/
theorem filter_declares_class {head : String} (hhead : declaresAt 1 (head ++ " \x7b") = false)
    (body : Lines) :
    (braced head body).filter (declaresAt 1) = indented 1 (body.filter (declaresAt 0)) := by
  have hclose : (["\x7d"] : Lines).filter (declaresAt 1) = [] := by decide
  rw [braced, List.filter_cons_of_neg (by simp [hhead]), List.filter_append, hclose,
    List.append_nil, indented, List.filter_map]
  congr 2
  funext line
  exact declaresAt_indent line

theorem filter_declares_empty : ([""] : Lines).filter (declaresAt 0) = [] := by decide

theorem filter_declares_accessors (field type getter setter : String) :
    (accessors field type getter setter 0).filter (declaresAt 0) = [] := by
  simp (disch := decide) only [accessors, indented_zero, List.filter_append, toString,
    String.append_assoc, filter_declares_of_apart, filter_declares_empty, List.append_nil]

theorem filter_declares_equalsAndHash (name : String) (fields : List String) :
    (equalsAndHash name fields 0).filter (declaresAt 0) = [] := by
  have hequals : ∀ body,
      (braced "public boolean equals(Object o)" body).filter (declaresAt 0) = [] :=
    fun body => filter_declares_braced body (by decide)
  have hhash : ∀ body, (braced "public int hashCode()" body).filter (declaresAt 0) = [] :=
    fun body => filter_declares_braced body (by decide)
  have hbetween : (["", "@Override"] : Lines).filter (declaresAt 0) = [] := by decide
  have hfirst : (["@Override"] : Lines).filter (declaresAt 0) = [] := by decide
  simp only [equalsAndHash, indented_zero, List.filter_append, hequals, hhash, hbetween, hfirst,
    filter_declares_empty, List.append_nil]

end Java

namespace JoinEntity

/-- The fields that a join entity declares. -/
def declared (ctx : Context) (t : AssociationTable) : List Property :=
  ⟨"id", keyClass t⟩ ::
    ((relations ctx t).map fun r => ⟨r.column.relationField, r.target.name⟩) ++
      (extras t).map fun e => ⟨e.field, e.javaType.name⟩

theorem filter_declares_relationField (r : Relation) :
    (relationField r).filter (declaresAt 0) =
      [(Property.mk r.column.relationField r.target.name).declaration] := by
  have hjson : declaresAt 0 (jsonIgnore [] 0) = false := by decide +kernel
  have hprivate := declaresAt_declaration (Property.mk r.column.relationField r.target.name)
  have hapart : declaresAt 0 "@ManyToOne(fetch = FetchType.LAZY)" = false := by decide
  have hmaps : declaresAt 0 s!"@MapsId(\"{r.column.keyField}\")" = false := by
    simp only [toString, String.append_assoc]
    exact declaresAt_append (by decide) _
  have hcolumn :
      declaresAt 0 s!"@JoinColumn(name = \"{snakeCase r.column.attr.name}\")" = false := by
    simp only [toString, String.append_assoc]
    exact declaresAt_append (by decide) _
  have hempty : declaresAt 0 "" = false := by decide
  rw [Property.declaration] at hprivate ⊢
  simp only [relationField, List.filter_cons, hjson, hprivate, hapart, hmaps, hcolumn, hempty,
    Bool.false_eq_true, if_true, if_false, List.filter_nil]

theorem filter_declares_extraField (e : Extra) :
    (extraField e).filter (declaresAt 0) = [(Property.mk e.field e.javaType.name).declaration] := by
  have hprivate := declaresAt_declaration (Property.mk e.field e.javaType.name)
  have hconstraint : declaresAt 0
      (if e.javaType = .string then "@NotBlank" else "@NotNull") = false := by
    split <;> decide
  have hcolumn : declaresAt 0 s!"@Column(name = \"{e.column}\")" = false := by
    simp only [toString, String.append_assoc]
    exact declaresAt_append (by decide) _
  have hempty : declaresAt 0 "" = false := by decide
  rw [Property.declaration] at hprivate ⊢
  simp only [extraField, List.filter_cons, hprivate, hconstraint, hcolumn, hempty,
    Bool.false_eq_true, if_true, if_false, List.filter_nil]

theorem filter_declares_relationAccessors (ctx : Context) (t : AssociationTable) (r : Relation) :
    (relationAccessors ctx t r).filter (declaresAt 0) = [] := by
  simp (disch := decide) only [relationAccessors, List.filter_append, toString,
    String.append_assoc, filter_declares_of_apart, filter_declares_empty, List.append_nil]

theorem filter_declares_keyClassCode (t : AssociationTable) (columns : List KeyColumn) :
    (keyClassCode t columns).filter (declaresAt 0) = [] := by
  rw [keyClassCode, List.filter_cons_of_neg (by decide)]
  simp (disch := decide) only [toString, String.append_assoc, filter_declares_of_apart]

/-- The fields that the file of a join entity declares. -/
theorem filter_declares_file (ctx : Context) (t : AssociationTable) :
    (file ctx t).value.body.filter (declaresAt 1) =
      (declared ctx t).map fun p => indent 1 p.declaration := by
  have htable : declaresAt 1 s!"@Table(name = \"{t.tableName}\")" = false := by
    simp only [toString, String.append_assoc]
    exact declaresAt_append (by decide) _
  have hclass : declaresAt 1 (s!"public class {t.name}" ++ " \x7b") = false := by
    simp only [toString, String.append_assoc]
    exact declaresAt_append (by decide) _
  have hid : (["", "@EmbeddedId", s!"private {keyClass t} id;", ""] : Lines).filter
      (declaresAt 0) = [(Property.mk "id" (keyClass t)).declaration] := by
    have hprivate := declaresAt_declaration (Property.mk "id" (keyClass t))
    have hline : s!"private {keyClass t} id;" = (Property.mk "id" (keyClass t)).declaration := by
      simp only [Property.declaration, toString, String.append_assoc]
      rfl
    rw [hline, List.filter_cons_of_neg (by decide), List.filter_cons_of_neg (by decide),
      List.filter_cons_of_pos hprivate, filter_declares_empty]
  have hproperty : ∀ p : Property, p.code.filter (declaresAt 0) = [] :=
    fun p => filter_declares_accessors _ _ _ _
  rw [file, List.filter_append, List.filter_cons_of_neg (by decide),
    List.filter_cons_of_neg (by simp [htable]), filter_declares_class hclass, declared]
  simp only [List.filter_append, hid]
  simp (disch := decide) only [List.filter_flatMap, filter_declares_relationField,
    filter_declares_extraField, toString, String.append_assoc, filter_declares_of_apart,
    filter_declares_accessors, filter_declares_relationAccessors, hproperty,
    filter_declares_equalsAndHash, filter_declares_keyClassCode, filter_declares_empty,
    List.append_nil]
  have hnone : ∀ {α : Type} (l : List α), l.flatMap (fun _ => ([] : Lines)) = [] :=
    fun _ => List.flatMap_eq_nil_iff.2 fun _ _ => rfl
  simp [indented, ← List.map_eq_flatMap, hnone, Function.comp_def]

/-! ## Distinct fields -/

/-- The references of a join entity have the fields of the foreign keys that lead to classes. -/
theorem relationField_relations (ctx : Context) (t : AssociationTable) :
    (relations ctx t).map (·.column.relationField) = relatedFields ctx t.foreignKeys := by
  rw [relations, relatedFields, keyColumns]
  induction keyColumnsFrom ctx [] t.foreignKeys with
  | nil => rfl
  | cons column rest ih =>
    cases htarget : column.target with
    | none =>
      rw [List.filterMap_cons_none (by rw [htarget]; rfl),
        List.filter_cons_of_neg (by simp [htarget]), ih]
    | some target =>
      rw [List.filterMap_cons_some (by rw [htarget]; rfl),
        List.filter_cons_of_pos (by simp [htarget]), List.map_cons, List.map_cons, ih]

/-- The parts of the key are called after the references, so they have distinct fields exactly if
the references do. -/
theorem keyField_keyColumnsFrom (used : List String) (l : List Attribute) :
    (keyColumnsFrom ctx used l).map (·.keyField) =
      ((keyColumnsFrom ctx used l).map (·.relationField)).map (· ++ "Id") := by
  induction l generalizing used with
  | nil => rfl
  | cons a rest ih =>
    rw [keyColumnsFrom, List.map_cons, ih]
    rfl

theorem nodup_keyFields_iff (used : List String) (l : List Attribute) :
    ((keyColumnsFrom ctx used l).map (·.keyField)).Nodup ↔
      ((keyColumnsFrom ctx used l).map (·.relationField)).Nodup := by
  rw [keyField_keyColumnsFrom]
  exact List.nodup_map_iff fun a b hab => String.append_left_inj _ |>.1 hab

/-- If no foreign key echoes one in front of it, all references have distinct fields. -/
theorem nodup_of_pairwise {l : List Attribute}
    (hl : l.Pairwise fun earlier a => ¬Echoes earlier a) : (usedFields ctx l).Nodup := by
  have hcriterion := nodup_relationFields_iff ctx (fun _ => true) l
  simp only [List.filter_true] at hcriterion
  refine hcriterion.2 fun before a after hsplit _ _ hfield => ?_
  rw [hsplit] at hl
  obtain ⟨b, hb, hname⟩ := mem_usedFields hfield
  exact (List.pairwise_append.1 hl).2.2 b hb a List.mem_cons_self hname

end JoinEntity

/-- Two references of an association table have one field exactly if some foreign key falls back to
its own name although that is used already, and then two parts of the key have one field too. This
does not happen if no foreign key is called like the class or the attribute of one in front of it.
The fields that the file of the join entity declares are `id`, those of the references that lead to
classes, and those of the further attributes. They are distinct exactly if no such reference falls
back to the field of another, and neither it nor a further attribute is called like another or `id`.
-/
theorem JoinEntity.distinct_fields_iff (ctx : Context) (t : AssociationTable) :
    let columns := keyColumns ctx t
    let related := relatedFields ctx t.foreignKeys
    let further := (extras t).map (·.field)
    ((columns.map (·.relationField)).Nodup ↔
        ∀ before a after, t.foreignKeys = before ++ a :: after →
          classField a ∈ usedFields ctx before → camelCase a.name ∉ usedFields ctx before) ∧
      ((columns.map (·.keyField)).Nodup ↔ (columns.map (·.relationField)).Nodup) ∧
      (t.foreignKeys.Pairwise (fun earlier a => ¬Echoes earlier a) →
        (columns.map (·.relationField)).Nodup) ∧
      (file ctx t).value.body.filter (declaresAt 1) =
        (declared ctx t).map (fun p => indent 1 p.declaration) ∧
      (declared ctx t).map (·.field) = "id" :: related ++ further ∧
      (((declared ctx t).map (·.field)).Nodup ↔
        (∀ before a after, t.foreignKeys = before ++ a :: after →
          (a.referencedEntity.bind ctx.diagram.classByName).isSome = true →
            classField a ∈ usedFields ctx before → camelCase a.name ∉ relatedFields ctx before) ∧
          further.Nodup ∧ "id" ∉ related ++ further ∧ ∀ field ∈ related, field ∉ further) := by
  intro columns related further
  have hall := nodup_relationFields_iff ctx (fun _ => true) t.foreignKeys
  simp only [List.filter_true, forall_const] at hall
  have hdeclared : (declared ctx t).map (·.field) = "id" :: related ++ further := by
    simp only [declared, related, further, ← relationField_relations, List.map_cons,
      List.map_append, List.map_map, Function.comp_def]
  refine ⟨hall, nodup_keyFields_iff [] t.foreignKeys, nodup_of_pairwise,
    filter_declares_file ctx t, hdeclared, ?_⟩
  have hrelated := nodup_relationFields_iff ctx (·.target.isSome) t.foreignKeys
  have hapart : (∀ field ∈ related, ∀ field' ∈ further, field ≠ field') ↔
      ∀ field ∈ related, field ∉ further :=
    forall₂_congr fun field _ => List.forall_mem_ne
  rw [hdeclared, List.cons_append, List.nodup_cons, List.nodup_append, hapart]
  rw [show related.Nodup ↔ _ from hrelated]
  tauto

/-- Persons have a primary key. -/
def person : ClassNode where
  id := "p"
  name := "Person"
  attributes := [{ name := "id", type := "Long", isPrimaryKey := true }]

/-- A foreign key to persons. -/
def personKey (name : String) : Attribute where
  name := name
  type := "Long"
  isForeignKey := true
  referencedEntity := some "Person"

/-- A table with two foreign keys to persons, and a date. -/
def personPair (id name first second : String) : AssociationTable where
  id := id
  name := name
  tableName := snakeCase name
  attributes := [personKey first, personKey second, { name := "since", type := "Date" }]
  foreignKeys := [personKey first, personKey second]
  additionalAttributes := [{ name := "since", type := "Date" }]

/-- Friendships join who asked with who was asked. -/
def friendship : AssociationTable := personPair "f" "Friendship" "requester" "addressee"

/-- Debts join a lender with a person. -/
def debt : AssociationTable := personPair "d" "Debt" "lender" "person"

/-- Persons, their friendships and their debts. -/
def acquaintances : Diagram where
  classes := [person]
  associationTables := [friendship, debt]

/-- A friendship calls one person after the class and the other after the attribute. -/
theorem JoinEntity.distinct_fields_friendship :
    let ctx := (Context.build acquaintances "app" 3).value
    (keyColumns ctx friendship).map (·.relationField) = ["person", "addressee"] ∧
      ((keyColumns ctx friendship).map (·.relationField)).Nodup ∧
      ((keyColumns ctx friendship).map (·.keyField)).Nodup ∧
      ((declared ctx friendship).map (·.field)).Nodup ∧
      (file ctx friendship).value.body.filter (declaresAt 1) =
        ["    private FriendshipId id;", "    private Person person;",
          "    private Person addressee;", "    private LocalDate since;"] := by
  intro ctx
  obtain ⟨hiff, hkeys, hpairwise, hfile, hnames, hdeclared⟩ := distinct_fields_iff ctx friendship
  have hdistinct := hpairwise (by decide +kernel)
  refine ⟨by decide +kernel, hdistinct, hkeys.2 hdistinct, hdeclared.2 ⟨?_, by decide +kernel⟩,
    hfile.trans (by decide +kernel)⟩
  exact fun before a after hsplit _ hused hfield =>
    hiff.1 hdistinct before a after hsplit hused (filter_subset_usedFields _ _ before hfield)

/-- A debt calls both persons after the class, which is what the second attribute is called too. -/
theorem JoinEntity.not_distinct_debt :
    let ctx := (Context.build acquaintances "app" 3).value
    debt ∈ acquaintances.associationTables ∧
      ¬((keyColumns ctx debt).map (·.relationField)).Nodup ∧
      ¬((keyColumns ctx debt).map (·.keyField)).Nodup ∧
      ¬((declared ctx debt).map (·.field)).Nodup ∧
      (file ctx debt).value.body.filter (declaresAt 1) =
        ["    private DebtId id;", "    private Person person;", "    private Person person;",
          "    private LocalDate since;"] := by
  intro ctx
  exact ⟨by decide, by decide +kernel, by decide +kernel, by decide +kernel,
    (filter_declares_file ctx debt).trans (by decide +kernel)⟩

end Scaffold
