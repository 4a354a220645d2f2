import Mathlib
import Scaffold.Backend.JoinEntity
import Scaffold.Backend.Entity
import Scaffold.Proofs.ColumnNames
import Scaffold.Proofs.Pairs
import Scaffold.Proofs.Places
import Scaffold.Proofs.RoundTrip

/-!
# Names of tables

Entities and join entities are mapped to tables that are called after the class or the association
table, and an owning many-to-many collection to a join table that is called after its two classes.
On names of a usual form, `Naming.IsTypeName`, the conversion to table names is injective, and the
name of a join table is the table name that the two class names make when they are written as one:
`Naming.snakeCase_inj` and `Naming.snakeCase_append`.

So tables can only share a name where two class names written as one are the name of another class
or association table, or those of another pair.

Main statements: `tables_apart_iff`; `Entity.table_mem_body`, `JoinEntity.table_mem_body` and
`Entity.joinTable_mem_field` (the names are those in the files), and `tableName_of_parse` (a document
gives an association table the table name that its name makes).
-/

namespace Scaffold

open Text Naming

/-! ## Collections that own their pair -/

namespace Hierarchy

variable {h : Hierarchy} {table : List (String × Members)} {c : ClassNode} {l : ManyToMany}

/-- A many-to-many collection is what an edge gives the class for another class. -/
theorem exists_manyToManyOf (hl : l ∈ h.manyToManyLinks c) :
    ∃ other ∈ h.diagram.classes, ∃ r, l = manyToManyOf (h.representative c) other r := by
  obtain ⟨candidate, hcandidate, hl⟩ := List.mem_filterMap.1 hl
  obtain ⟨relation, -, hcandidate⟩ :=
    List.mem_filterMap.1 ((keepFirst_sublist _ _).mem hcandidate)
  cases candidate with
  | loop => cases hl
  | collection edge link =>
    obtain rfl := Option.some.inj hl
    unfold pairCandidate? at hcandidate
    dsimp only at hcandidate
    split at hcandidate
    · cases hcandidate
    · split at hcandidate
      · cases hcandidate
      · obtain ⟨other, hother, hlink⟩ := Option.map_eq_some_iff.1 hcandidate
        obtain ⟨-, rfl⟩ := PairCandidate.collection.inj hlink
        exact ⟨other, Diagram.mem_of_classById hother, _, rfl⟩

theorem mem_manyToManyLinks_of_kept (hl : l ∈ h.manyToMany table c) : l ∈ h.manyToManyLinks c :=
  (List.mem_filter.1 (List.mem_filter.1 hl).1).1

/-- An owning collection has the usual join table. -/
theorem joinTable_manyToManyOf (owner related : ClassNode) (r : Relationship) :
    (manyToManyOf owner related r).joinTable? =
      if (manyToManyOf owner related r).isOwner then some (joinTableOf owner related) else none := by
  unfold ManyToMany.joinTable? ManyToMany.isOwner manyToManyOf
  by_cases hr : r.source = owner.id <;> simp [hr]

/-- The collections of a class that are kept lead to classes of different names. -/
theorem nodup_related (h : Hierarchy) (table : List (String × Members)) (c : ClassNode) :
    ((h.manyToMany table c).map (·.related.name)).Nodup := by
  have hsublist : ((h.manyToMany table c).map (·.fieldName)).Sublist
      ((h.manyToManyLinks c).map (·.fieldName)) :=
    (List.filter_sublist.trans List.filter_sublist).map _
  have hfields := hsublist.nodup (nodup_manyToMany h (h.representative c))
  have hnames : (h.manyToMany table c).map (·.fieldName) =
      ((h.manyToMany table c).map (·.related.name)).map collectionField := by
    rw [List.map_map]
    exact List.map_congr_left fun l hl =>
      (fieldName_manyToMany (mem_manyToManyLinks_of_kept hl)).2
  rw [hnames] at hfields
  exact hfields.of_map _

end Hierarchy

namespace Context

variable {ctx : Context}

/-- The many-to-many collections that are kept, class by class. -/
def keptPairs (ctx : Context) : List ManyToMany := ctx.predictions.flatMap fun p => p.2.manyToMany

/-- The collections among them that own their pair. -/
def owningCollections (ctx : Context) : List ManyToMany := ctx.keptPairs.filter (·.isOwner)

/-- The tables that the entities, the join entities and the owning collections are mapped to. -/
def tables (ctx : Context) : List String :=
  ctx.diagram.classes.map (fun c => snakeCase c.name) ++
    ctx.diagram.associationTables.map (·.tableName) ++
      ctx.keptPairs.filterMap fun l => l.joinTable?.map (·.name)

/-- The names of the two classes of each owning collection, written as one. -/
def joinedNames (ctx : Context) : List String :=
  ctx.owningCollections.map fun l => l.owner.name ++ l.related.name

section Build

variable (d : Diagram) (basePackage : String) (queryLimit : Int)

theorem keptPairs_build :
    (build d basePackage queryLimit).value.keptPairs =
      (distinctBy (·.id) d.classes).flatMap fun c =>
        (Hierarchy.ofDiagram d).value.manyToMany (build d basePackage queryLimit).value.members
          ((Hierarchy.ofDiagram d).value.representative c) :=
  List.flatMap_map _ _ _

/-- The collections that are kept for a class belong to a class with its id, and lead to classes. -/
theorem keptPairs_sound {table : List (String × Members)} {c : ClassNode} (hc : c ∈ d.classes)
    {l : ManyToMany} (hl : l ∈ (Hierarchy.ofDiagram d).value.manyToMany table
      ((Hierarchy.ofDiagram d).value.representative c)) :
    ∃ owner ∈ d.classes, owner.id = c.id ∧ ∃ related ∈ d.classes, ∃ r,
      l = Hierarchy.manyToManyOf owner related r := by
  have hlast := Hierarchy.representative_mem (h := (Hierarchy.ofDiagram d).value) hc
  have howner := Hierarchy.representative_mem hlast.1
  obtain ⟨related, hrelated, r, rfl⟩ :=
    Hierarchy.exists_manyToManyOf (Hierarchy.mem_manyToManyLinks_of_kept hl)
  exact ⟨_, howner.1, howner.2.trans hlast.2, related, hrelated, r, rfl⟩

theorem exists_of_mem_keptPairs {l : ManyToMany}
    (hl : l ∈ (build d basePackage queryLimit).value.keptPairs) :
    ∃ owner ∈ d.classes, ∃ related ∈ d.classes, ∃ r,
      l = Hierarchy.manyToManyOf owner related r := by
  rw [keptPairs_build] at hl
  obtain ⟨c, hc, hl⟩ := List.mem_flatMap.1 hl
  obtain ⟨owner, howner, -, hrelated⟩ := keptPairs_sound d (mem_of_mem_distinctBy hc) hl
  exact ⟨owner, howner, hrelated⟩

/-- No two kept collections have both classes in common, as long as class names do not repeat. -/
theorem nodup_keptPairs (hnames : d.DistinctNames) :
    ((build d basePackage queryLimit).value.keptPairs.map fun l =>
      (l.owner.name, l.related.name)).Nodup := by
  rw [keptPairs_build, List.map_flatMap, List.nodup_flatMap]
  refine ⟨fun c _ => ?_, ?_⟩
  · refine List.Nodup.of_map Prod.snd ?_
    rw [List.map_map]
    exact Hierarchy.nodup_related _ _ _
  · have hids : ((distinctBy ClassNode.id d.classes).map ClassNode.id).Nodup :=
      nodup_distinctBy _ _
    -- Collections of different ids have owners of different names.
    refine (List.pairwise_map.1 hids).imp_of_mem fun hc hc' hne pair hpair hpair' => hne ?_
    obtain ⟨l, hl, rfl⟩ := List.mem_map.1 hpair
    obtain ⟨l', hl', hsame⟩ := List.mem_map.1 hpair'
    obtain ⟨owner, howner, hid, _, _, _, rfl⟩ := keptPairs_sound d (mem_of_mem_distinctBy hc) hl
    obtain ⟨owner', howner', hid', _, _, _, rfl⟩ :=
      keptPairs_sound d (mem_of_mem_distinctBy hc') hl'
    rw [← hid, ← hid', List.inj_on_of_nodup_map hnames howner' howner (Prod.mk.inj hsame).1]

variable {d basePackage queryLimit}

/-- On usual names every table is called after a name of the diagram or after two that are written
as one. -/
theorem tables_eq (hplain : ∀ name ∈ d.typeNames, IsTypeName name.toList)
    (htables : ∀ t ∈ d.associationTables, t.tableName = snakeCase t.name) :
    (build d basePackage queryLimit).value.tables =
      (d.typeNames ++ (build d basePackage queryLimit).value.joinedNames).map snakeCase := by
  have hclass : ∀ c ∈ d.classes, IsTypeName c.name.toList := fun c hc =>
    hplain c.name (List.mem_append_left _ (List.mem_map_of_mem hc))
  have hjoin : ∀ l ∈ (build d basePackage queryLimit).value.keptPairs,
      l.joinTable?.map (·.name) =
        if l.isOwner then some (snakeCase (l.owner.name ++ l.related.name)) else none := by
    intro l hl
    obtain ⟨owner, howner, related, hrelated, r, rfl⟩ := exists_of_mem_keptPairs d _ _ hl
    have hname : snakeCase (owner.name ++ related.name) =
        (Hierarchy.joinTableOf owner related).name :=
      snakeCase_append (hclass owner howner) (hclass related hrelated)
    rw [Hierarchy.joinTable_manyToManyOf, apply_ite (Option.map _), Option.map_some,
      Option.map_none, ← hname]
    rfl
  have howning : (build d basePackage queryLimit).value.keptPairs.filterMap
        (fun l => l.joinTable?.map (·.name)) =
      (build d basePackage queryLimit).value.joinedNames.map snakeCase := by
    rw [joinedNames, owningCollections, List.map_map, ← List.filterMap_eq_map,
      List.filterMap_filter]
    exact List.filterMap_congr hjoin
  have htable : d.associationTables.map (·.tableName) =
      (d.associationTables.map (·.name)).map snakeCase := by
    rw [List.map_map]
    exact List.map_congr_left htables
  have hclasses : d.classes.map (fun c => snakeCase c.name) =
      (d.classes.map (·.name)).map snakeCase := by rw [List.map_map]; rfl
  rw [tables, howning, diagram_build, htable, hclasses, List.map_append, Diagram.typeNames,
    List.map_append]

end Build

end Context

/-- The entity of a class names its table. -/
theorem Entity.table_mem_body {ctx : Context} {c : ClassNode} {f : Java.SourceFile}
    (hf : (Entity.file ctx c).run.value = .ok f) :
    s!"@Table(name = \"{snakeCase c.name}\")" ∈ f.body := by
  obtain ⟨fields, -, hf, -⟩ := Generation.bind_ok hf
  obtain ⟨setters, -, hf, -⟩ := Generation.bind_ok hf
  cases hf
  refine List.mem_append_left _ ?_
  simp [Entity.annotations]

/-- The join entity of an association table names its table. -/
theorem JoinEntity.table_mem_body (ctx : Context) (t : AssociationTable) :
    s!"@Table(name = \"{t.tableName}\")" ∈ (JoinEntity.file ctx t).value.body :=
  List.mem_append_left _ (List.mem_cons_of_mem _ List.mem_cons_self)

/-- An owning collection names its join table. -/
theorem Entity.joinTable_mem_field {l : ManyToMany} {table : JoinTable}
    (hl : l.joinTable? = some table) :
    Java.indent 1 s!"name = \"{table.name}\"," ∈ Entity.manyToManyField l := by
  unfold ManyToMany.joinTable? at hl
  split at hl
  · next hend =>
    cases hl
    rw [Entity.manyToManyField, hend]
    simp [Entity.pairAnnotations, Java.indented]
  · cases hl

/-- The association tables of a document have the table names that their names give. -/
theorem tableName_of_parse {source : Document.Source} {d : Noted Diagram}
    (hparse : Diagram.parse source = .ok d) :
    ∀ t ∈ d.value.associationTables, t.tableName = snakeCase t.name := by
  intro t ht
  obtain ⟨fields, -, hread⟩ := Except.bind_eq_ok.1 hparse
  rw [← (Diagram.normal_of_read hread).keys t ht]
  rfl

/-- Where the names of classes and association tables are of the usual form and do not repeat, the
tables that the entities, the join entities and the owning collections are mapped to have different
names exactly if the two class names of each owning collection, written as one, do not make a name
of the diagram and are different for different collections. No two owning collections have both
class names in common. -/
theorem tables_apart_iff (d : Diagram) (hnames : d.typeNames.Nodup)
    (hplain : ∀ name ∈ d.typeNames, IsTypeName name.toList)
    (htables : ∀ t ∈ d.associationTables, t.tableName = snakeCase t.name) (basePackage : String)
    (queryLimit : Int) :
    let ctx := (Context.build d basePackage queryLimit).value
    (ctx.tables.Nodup ↔
      ctx.joinedNames.Nodup ∧ ∀ name ∈ ctx.joinedNames, name ∉ d.typeNames) ∧
    (ctx.owningCollections.map fun l => (l.owner.name, l.related.name)).Nodup := by
  intro ctx
  have hclasses : d.DistinctNames := (List.nodup_append.1 hnames).1
  refine ⟨?_, (List.filter_sublist.map _).nodup
    (Context.nodup_keptPairs d basePackage queryLimit hclasses)⟩
  have hall : ∀ name ∈ d.typeNames ++ ctx.joinedNames, IsTypeName name.toList := by
    intro name hname
    refine (List.mem_append.1 hname).elim (hplain name) fun hname => ?_
    obtain ⟨l, hl, rfl⟩ := List.mem_map.1 hname
    obtain ⟨owner, howner, related, hrelated, r, rfl⟩ :=
      Context.exists_of_mem_keptPairs d _ _ (List.mem_filter.1 hl).1
    rw [String.toList_append]
    exact (hplain _ (List.mem_append_left _ (List.mem_map_of_mem howner))).append
      (hplain _ (List.mem_append_left _ (List.mem_map_of_mem hrelated)))
  have hinjective : ctx.tables.Nodup ↔ (d.typeNames ++ ctx.joinedNames).Nodup := by
    rw [Context.tables_eq hplain htables]
    exact ⟨List.Nodup.of_map _, fun h => h.map_on fun a ha b hb hab =>
      snakeCase_inj (hall a ha) (hall b hb) hab⟩
  rw [hinjective, List.nodup_append]
  constructor
  · exact fun ⟨_, hjoined, hapart⟩ =>
      ⟨hjoined, fun name hname hmem => hapart name hmem name hname rfl⟩
  · refine fun ⟨hjoined, hapart⟩ => ⟨hnames, hjoined, fun a ha b hb hab => ?_⟩
    rw [hab] at ha
    exact hapart b hb ha

/-- A class of a shop, known by its name. -/
def offered (name : String) : ClassNode where
  id := name
  name := name

/-- A shop with classes of some names, the first two of which are joined by an edge between many and
many, and with an association table. -/
def shopOf (first second : String) (others : List String) : Diagram where
  classes := (first :: second :: others).map offered
  relationships := [crossing "many" first second]
  associationTables :=
    [{ id := "d", name := "HomeDelivery", tableName := "home_delivery"
       attributes := [], foreignKeys := [], additionalAttributes := [] }]

theorem tables_apart_bakery :
    let bakery := shopOf "Order" "Cake" ["OrderLine"]
    bakery.typeNames.Nodup ∧ (∀ name ∈ bakery.typeNames, IsTypeName name.toList) ∧
      (∀ t ∈ bakery.associationTables, t.tableName = snakeCase t.name) ∧
      (Context.build bakery "shop" 3).value.tables.Nodup := by
  intro bakery
  have hnames : bakery.typeNames.Nodup := by decide
  have hplain : ∀ name ∈ bakery.typeNames, IsTypeName name.toList := by decide
  have htables : ∀ t ∈ bakery.associationTables, t.tableName = snakeCase t.name := by decide
  refine ⟨hnames, hplain, htables,
    (tables_apart_iff bakery hnames hplain htables "shop" 3).1.2 ⟨?_, ?_⟩⟩
  · decide +kernel
  · decide +kernel

/-- The join table of orders and lines has the name of the table of order lines. -/
theorem not_apart_orderLine :
    let wholesale := shopOf "Order" "Line" ["OrderLine"]
    wholesale.typeNames.Nodup ∧ (∀ name ∈ wholesale.typeNames, IsTypeName name.toList) ∧
      (∀ t ∈ wholesale.associationTables, t.tableName = snakeCase t.name) ∧
      (Context.build wholesale "shop" 3).value.tables =
        ["order", "line", "order_line", "home_delivery", "order_line"] ∧
      ¬(Context.build wholesale "shop" 3).value.tables.Nodup := by
  intro wholesale
  have htables : (Context.build wholesale "shop" 3).value.tables =
      ["order", "line", "order_line", "home_delivery", "order_line"] := by decide +kernel
  refine ⟨by decide, by decide, by decide, htables, ?_⟩
  rw [htables]
  decide

end Scaffold
