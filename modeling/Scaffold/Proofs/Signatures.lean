import Scaffold.Proofs.Queries

/-!
# Methods of interfaces

The interfaces of a repository and of a service declare methods, of which no two may agree in their
names and in the types of their parameters. `Repository.methods` and `Service.methods` are the
methods of a class, which are written out as they are: `Repository.body_file` and
`Service.body_file`.

The queries on the fields of members have different names, and no query on the key of a referenced
entity is called like one of them, because its property is checked against the fields. Two of the
latter are not checked against each other. Of the basic methods of a service, a query can repeat
those that take a key: its property is then called `id`. `depot` has classes with both faults.

Main statement: `signatures_distinct_iff`.
-/

namespace Scaffold

open Naming Java Text

/-! ## Methods -/

/-- A method of an interface. -/
structure Method where
  /-- The type that the method returns. -/
  result : String
  /-- The name of the method. -/
  name : String
  /-- The types and the names of the parameters. -/
  parameters : List (String × String)
  deriving DecidableEq

namespace Method

/-- The declaration of a method. -/
def declaration (m : Method) : String :=
  m.result ++ " " ++ m.name ++ "(" ++
    joinTexts ", " (m.parameters.map fun p => p.1 ++ " " ++ p.2) ++ ");"

/-- What an interface can have only once: the name of a method and the types of its parameters. -/
def signature (m : Method) : String × List String := (m.name, m.parameters.map (·.1))

end Method

/-- The method for a query, given the name of the entity. -/
def Query.method (entity : String) (q : Query) : Method :=
  ⟨q.verb.returns entity, q.name, [(q.type.name, q.property)]⟩

theorem Query.declaration_method (entity : String) (q : Query) :
    (q.method entity).declaration = q.declaration entity ++ ";" := by
  simp [method, Method.declaration, declaration, parameter, joinTexts, toString,
    ← String.toList_inj]

/-- The methods of a repository. -/
def Repository.methods (ctx : Context) (c : ClassNode) : List Method :=
  (queries ctx c).map (·.method c.name)

namespace Service

/-- The methods that every service has, given the name of the entity and the type of its key. -/
def basicMethods (entity key : String) : List Method :=
  [⟨s!"List<{entity}>", "findAll", []⟩,
    ⟨s!"Optional<{entity}>", "findById", [(key, "id")]⟩,
    ⟨entity, "create", [(entity, "entity")]⟩,
    ⟨entity, "update", [(key, "id"), (entity, "entity")]⟩,
    ⟨entity, "partialUpdate", [(key, "id"), (entity, "entity")]⟩,
    ⟨"void", "delete", [(key, "id")]⟩,
    ⟨"boolean", "existsById", [(key, "id")]⟩,
    ⟨"long", "count", []⟩]

/-- The methods of a service. -/
def methods (ctx : Context) (c : ClassNode) : List Method :=
  basicMethods c.name (ctx.entityKey c).javaType.name ++ (queries ctx c).map (·.method c.name)

theorem basics_eq (c : ClassNode) (key : String) :
    basics c key =
      template margin 0 (((basicMethods c.name key).map Method.declaration).intersperse "") := by
  refine congrArg (template margin 0) ?_
  simp [basicMethods, Method.declaration, joinTexts, toString, ← String.toList_inj]

/-- The body of a service declares its methods and nothing else. -/
theorem body_file (ctx : Context) (c : ClassNode) :
    (file ctx c).body = braced s!"public interface {c.name}Service"
      ("" :: template margin 0
          (((basicMethods c.name (ctx.entityKey c).javaType.name).map
            Method.declaration).intersperse "") ++
        ((queries ctx c).map (·.method c.name)).flatMap fun m => ["", m.declaration]) := by
  rw [← basics_eq, List.flatMap_map]
  simp only [Query.declaration_method]
  rfl

end Service

/-- The body of a repository declares its methods and nothing else. -/
theorem Repository.body_file (ctx : Context) (c : ClassNode) :
    (file ctx c).body = "@Repository" ::
      braced s!"public interface {c.name}Repository extends JpaRepository<{c.name}, {
          (ctx.entityKey c).javaType.name}>"
        ("" :: (methods ctx c).flatMap fun m => [m.declaration, ""]) := by
  rw [methods, List.flatMap_map]
  simp only [Query.declaration_method]
  rfl

/-! ## Queries by what they are about -/

/-- Queries on properties that start with no capital letter are told apart by their names. -/
theorem Query.name_inj {q q' : Query} (hq : StartsSmall q.property.toList)
    (hq' : StartsSmall q'.property.toList) (h : q.name = q'.name) :
    q.verb = q'.verb ∧ q.property = q'.property := by
  have hverb : q.verb = q'.verb := by
    have hhead := congrArg (fun s : String => s.toList.head?) h
    cases hv : q.verb <;> cases hv' : q'.verb <;>
      simp [name, QueryVerb.start, hv, hv'] at hhead ⊢
  rw [name, name, hverb] at h
  exact ⟨hverb, capitalize_inj hq hq' ((String.append_right_inj _).1 h)⟩

namespace Members

variable {m : Members} {limit : Int} {verbs : List QueryVerb}

/-- The queries on the fields of members: all on columns, and those with some verbs on references. -/
def fieldQueries (m : Members) (limit : Int) (verbs : List QueryVerb) : List Query :=
  (m.queried limit).flatMap (·.queries) ++ m.references.flatMap fun r => verbs.map r.query

/-- The queries on the keys of referenced entities. -/
def keyQueries (m : Members) : List Query := m.references.filterMap (·.keyQuery?)

/-- Queries with some verbs on references, and those on the keys, whatever the order for one
reference. -/
theorem perm_references {queries : ReferenceMember → List Query}
    (h : ∀ r, (queries r).Perm (verbs.map r.query ++ r.keyQuery?.toList)) :
    (m.references.flatMap queries).Perm
      ((m.references.flatMap fun r => verbs.map r.query) ++ m.keyQueries) := by
  rw [keyQueries, List.filterMap_eq_flatMap_toList]
  exact (List.Perm.flatMap_left _ fun r _ => h r).trans (List.flatMap_append_perm _ _ _).symm

theorem repositoryQueries_perm :
    (m.repositoryQueries limit).Perm
      (m.fieldQueries limit [.find, .exist, .count] ++ m.keyQueries) := by
  rw [repositoryQueries, fieldQueries, List.append_assoc]
  refine (perm_references fun r => ?_).append_left _
  exact List.perm_append_comm.cons _

theorem serviceQueries_perm :
    (m.serviceQueries limit).Perm (m.fieldQueries limit [.find, .count] ++ m.keyQueries) := by
  rw [serviceQueries, fieldQueries, List.append_assoc]
  refine (perm_references fun r => ?_).append_left _
  exact List.perm_append_comm.cons _

theorem mem_fieldQueries {q : Query} (hq : q ∈ m.fieldQueries limit verbs) :
    (∃ s ∈ m.queried limit, ∃ verb, q = ⟨verb, s.fieldName, .value s.javaType⟩) ∨
      ∃ r ∈ m.references, ∃ verb ∈ verbs, q = r.query verb := by
  rcases List.mem_append.1 hq with hq | hq
  · obtain ⟨s, hs, hq⟩ := List.mem_flatMap.1 hq
    obtain ⟨verb, -, rfl⟩ := List.mem_map.1 hq
    exact .inl ⟨s, hs, verb, rfl⟩
  · obtain ⟨r, hr, hq⟩ := List.mem_flatMap.1 hq
    obtain ⟨verb, hverb, rfl⟩ := List.mem_map.1 hq
    exact .inr ⟨r, hr, verb, hverb, rfl⟩

/-- Queries on different fields, or with different verbs, are different. -/
theorem nodup_fieldQueries (hm : m.fields.Nodup) (hverbs : verbs.Nodup) :
    ((m.fieldQueries limit verbs).map fun q => (q.property, q.verb)).Nodup := by
  have hqueried : ((m.queried limit).map (·.fieldName)).Sublist (m.scalars.map (·.fieldName)) :=
    ((takeSigned_sublist _ _).trans List.filter_sublist).map _
  -- Columns come with all verbs and references with some, so the two are told apart by the field.
  obtain ⟨hscalars, hreferences, hdisjoint⟩ := List.nodup_append.1 hm
  have hcolumns := (hscalars.sublist hqueried).product
    (by decide : [QueryVerb.find, .exist, .count].Nodup)
  have hkeys := hreferences.product hverbs
  simp only [SProd.sprod, List.product, List.flatMap_map] at hcolumns hkeys
  rw [fieldQueries, List.map_append, List.map_flatMap, List.map_flatMap]
  simp only [ScalarMember.queries, ReferenceMember.query, List.map_map, Function.comp_def]
  refine List.nodup_append.2 ⟨hcolumns, hkeys, fun p hp p' hp' heq => ?_⟩
  obtain ⟨s, hs, hp⟩ := List.mem_flatMap.1 hp
  obtain ⟨r, hr, hp'⟩ := List.mem_flatMap.1 hp'
  obtain ⟨_, -, rfl⟩ := List.mem_map.1 hp
  obtain ⟨_, -, rfl⟩ := List.mem_map.1 hp'
  refine hdisjoint _ (hqueried.mem (List.mem_map_of_mem hs)) _ (List.mem_map_of_mem hr) ?_
  exact (Prod.ext_iff.1 heq).1

end Members

/-- The signature of the method for a query, which does not depend on the entity. -/
def Query.signature (q : Query) : String × List String := (q.name, [q.type.name])

/-- Among queries of which some have names of their own, no two have one signature exactly if no two
of the others have. -/
theorem nodup_signatures_iff {l own others : List Query} (hperm : l.Perm (own ++ others))
    (hown : (own.map Query.name).Nodup)
    (hothers : ∀ q ∈ own, ∀ q' ∈ others, q.name ≠ q'.name) (p : Query → Bool) :
    ((l.filter p).map Query.signature).Nodup ↔ ((others.filter p).map Query.signature).Nodup := by
  have hownSignatures : ((own.filter p).map Query.signature).Nodup := by
    refine List.Nodup.of_map Prod.fst ?_
    rw [List.map_map]
    exact hown.sublist (List.filter_sublist.map _)
  have hapart : ∀ x ∈ (own.filter p).map Query.signature,
      ∀ y ∈ (others.filter p).map Query.signature, x ≠ y := by
    intro x hx y hy heq
    obtain ⟨q, hq, rfl⟩ := List.mem_map.1 hx
    obtain ⟨q', hq', rfl⟩ := List.mem_map.1 hy
    exact hothers q (List.mem_filter.1 hq).1 q' (List.mem_filter.1 hq').1 (Prod.ext_iff.1 heq).1
  rw [((hperm.filter p).map Query.signature).nodup_iff, List.filter_append, List.map_append,
    List.nodup_append]
  exact ⟨fun h => h.2.1, fun h => ⟨hownSignatures, h, hapart⟩⟩

/-! ## Queries of a class -/

namespace Hierarchy

variable {h : Hierarchy} {c : ClassNode} {limit : Int} {verbs : List QueryVerb}
  (hascii : ∀ a ∈ c.attributes, isAscii a.name = true)
include hascii

/-- A query on the field of a member is about a field of the class, which starts with no capital
letter if the attributes have names made of ASCII characters. -/
theorem property_fieldQueries {q : Query}
    (hq : q ∈ (h.membersOf c).fieldQueries limit verbs) :
    q.property ∈ (h.membersOf c).fields ∧ StartsSmall q.property.toList := by
  rcases Members.mem_fieldQueries hq with ⟨s, hs, verb, rfl⟩ | ⟨r, hr, verb, -, rfl⟩
  · obtain ⟨hs, hkey⟩ := List.mem_filter.1 ((takeSigned_sublist _ _).mem hs)
    obtain ⟨ha, hname⟩ := fieldName_of_column hs (by simpa using hkey)
    refine ⟨List.mem_append_left _ (List.mem_map_of_mem hs), ?_⟩
    rw [hname]
    exact startsSmall_camelCase (hascii _ ha)
  · obtain ⟨ha, hname⟩ := fieldName_membersOf hr
    refine ⟨List.mem_append_right _ (List.mem_map_of_mem hr), ?_⟩
    change StartsSmall r.fieldName.toList
    rw [hname]
    exact startsSmall_camelCase (hascii _ ha)

/-- A query on the key of a referenced entity is about no field of the class. -/
theorem property_keyQueries (hnamed : ∀ a ∈ c.attributes, a.name ≠ "") {q : Query}
    (hq : q ∈ (h.membersOf c).keyQueries) :
    q.property ∉ (h.membersOf c).fields ∧ StartsSmall q.property.toList := by
  obtain ⟨r, hr, hq⟩ := List.mem_filterMap.1 hq
  obtain ⟨field, hfield, rfl⟩ := Option.map_eq_some_iff.1 hq
  obtain ⟨rfl, hfree⟩ := idField_sound hr hfield
  refine ⟨hfree, ?_⟩
  obtain ⟨ha, hname⟩ := fieldName_membersOf hr
  have hne := fieldName_ne_empty hr (hnamed _ (fieldName_membersOf hr).1)
  rw [hname] at hne
  rw [String.toList_append, hname]
  exact (startsSmall_camelCase (hascii _ ha)).append
    (fun hnil => hne (String.toList_eq_nil_iff.1 hnil)) _

/-- The queries on the fields of members have names of their own. -/
theorem nodup_names_fieldQueries (hverbs : verbs.Nodup) :
    (((h.membersOf c).fieldQueries limit verbs).map Query.name).Nodup := by
  have hpairs : (((h.membersOf c).fieldQueries limit verbs).map
      fun q => (q.property, q.verb)).Nodup := Members.nodup_fieldQueries (nodup_fields c) hverbs
  refine (List.Nodup.of_map _ hpairs).map_on fun q hq q' hq' heq => ?_
  obtain ⟨hverb, hproperty⟩ := Query.name_inj (property_fieldQueries hascii hq).2
    (property_fieldQueries hascii hq').2 heq
  exact List.inj_on_of_nodup_map hpairs hq hq' (Prod.ext hproperty hverb)

/-- No query on the key of a referenced entity is called like one on the field of a member. -/
theorem name_keyQueries (hnamed : ∀ a ∈ c.attributes, a.name ≠ "") {q q' : Query}
    (hq : q ∈ (h.membersOf c).fieldQueries limit verbs) (hq' : q' ∈ (h.membersOf c).keyQueries) :
    q.name ≠ q'.name := by
  intro heq
  obtain ⟨hmem, hsmall⟩ := property_fieldQueries hascii hq
  obtain ⟨hfree, hsmall'⟩ := property_keyQueries hascii hnamed hq'
  exact hfree ((Query.name_inj hsmall hsmall' heq).2 ▸ hmem)

end Hierarchy

/-! ## Basic methods -/

/-- Of the basic methods of a service, two are called like queries. -/
theorem Query.eq_of_basic {q : Query} (hq : q.name ∈ Hierarchy.serviceBasics) :
    q.name = "findById" ∨ q.name = "existsById" := by
  have hbasics : ∀ s ∈ Hierarchy.serviceBasics, (s = "findById" ∨ s = "existsById") ∨
      ∀ verb ∈ [QueryVerb.find, .exist, .count], ¬verb.start.toList.isPrefixOf s.toList := by
    decide
  refine (hbasics _ hq).resolve_right fun hstart => hstart q.verb ?_ ?_
  · cases q.verb <;> decide
  · simp [Query.name]

/-- A query that is called like a basic method is about a property called `id`. -/
theorem Query.property_of_basic {q : Query} (hsmall : StartsSmall q.property.toList)
    (hq : q.name ∈ Hierarchy.serviceBasics) : q.property = "id" := by
  have hid : StartsSmall (camelCase "id").toList := startsSmall_camelCase (by decide)
  rcases eq_of_basic hq with hname | hname
  · have hsame : q.name = (⟨.find, "id", .value .long⟩ : Query).name := hname.trans (by decide)
    exact (name_inj hsmall hid hsame).2
  · have hsame : q.name = (⟨.exist, "id", .value .long⟩ : Query).name := hname.trans (by decide)
    exact (name_inj hsmall hid hsame).2

/-- A query repeats a basic method exactly if it is called like one and takes a key. -/
theorem Service.signature_mem_basicMethods {q : Query} {entity key : String} :
    q.signature ∈ (basicMethods entity key).map Method.signature ↔
      q.name ∈ Hierarchy.serviceBasics ∧ q.type.name = key := by
  constructor
  · intro hq
    obtain ⟨m, hm, hsame⟩ := List.mem_map.1 hq
    have hbasic : q.name ∈ Hierarchy.serviceBasics := by
      have hnames : (basicMethods entity key).map Method.name = Hierarchy.serviceBasics := rfl
      have hname : m.name = q.name := (Prod.ext_iff.1 hsame).1
      rw [← hnames, ← hname]
      exact List.mem_map_of_mem hm
    refine ⟨hbasic, ?_⟩
    have hname := Query.eq_of_basic hbasic
    simp only [basicMethods, Method.signature, Query.signature, List.map_cons, List.map_nil,
      List.mem_cons, Prod.mk.injEq, List.not_mem_nil] at hq
    rcases hname with hname | hname <;> simp_all
  · rintro ⟨hbasic, rfl⟩
    rcases Query.eq_of_basic hbasic with hname | hname <;>
      simp [basicMethods, Method.signature, Query.signature, hname]

/-! ## Interfaces -/

/-- The queries on the keys of referenced entities that the repository of a class declares. -/
def Context.keyQueries (ctx : Context) (c : ClassNode) : List Query :=
  (ctx.membersOf c).keyQueries.filter fun q => q.name ∈ (ctx.prediction c).repositoryMethods

/-- No query of a class repeats a basic method of its service: no column that has queries and no
reference has a field called `id` and a type with the name of the key's. -/
structure Context.KeepsBasics (ctx : Context) (c : ClassNode) : Prop where
  /-- A column called `id` has another type. -/
  columns : ∀ s ∈ ctx.queried c, s.fieldName = "id" → s.javaType ≠ (ctx.entityKey c).javaType
  /-- A reference called `id` leads to a class of another name. -/
  references : ∀ r ∈ (ctx.membersOf c).references, r.fieldName = "id" →
    r.target.name ≠ (ctx.entityKey c).javaType.name

instance (ctx : Context) (c : ClassNode) : Decidable (ctx.KeepsBasics c) :=
  decidable_of_iff
    ((∀ s ∈ ctx.queried c, s.fieldName = "id" → s.javaType ≠ (ctx.entityKey c).javaType) ∧
      ∀ r ∈ (ctx.membersOf c).references, r.fieldName = "id" →
        r.target.name ≠ (ctx.entityKey c).javaType.name)
    ⟨fun ⟨hcolumns, hreferences⟩ => ⟨hcolumns, hreferences⟩,
      fun hkeeps => ⟨hkeeps.columns, hkeeps.references⟩⟩

theorem Repository.signatures_methods (ctx : Context) (c : ClassNode) :
    (methods ctx c).map Method.signature = (queries ctx c).map Query.signature := by
  rw [methods, List.map_map]
  rfl

theorem Service.signatures_methods (ctx : Context) (c : ClassNode) :
    (methods ctx c).map Method.signature =
      (basicMethods c.name (ctx.entityKey c).javaType.name).map Method.signature ++
        (queries ctx c).map Query.signature := by
  rw [methods, List.map_append, List.map_map]
  rfl

section Build

variable {d : Diagram} (hd : d.DistinctIds) (basePackage : String) (queryLimit : Int)
  {c : ClassNode} (hc : c ∈ d.classes)
include hd hc

/-- A service declares the queries on keys that the repository declares. -/
theorem Service.keyQueries_build :
    let ctx := (Context.build d basePackage queryLimit).value
    ((ctx.membersOf c).keyQueries.filter fun q => q.name ∈ (ctx.prediction c).serviceMethods) =
      ctx.keyQueries c := by
  intro ctx
  refine List.filter_congr fun q hq => decide_eq_decide.2 ?_
  have hservice : q ∈ (ctx.membersOf c).serviceQueries ctx.queryLimit :=
    Members.serviceQueries_perm.mem_iff.2 (List.mem_append_right _ hq)
  constructor
  · intro hname
    have hdeclared : q ∈ Repository.queries ctx c :=
      Context.mem_repository_of_mem_service hd basePackage queryLimit hc
        (Service.mem_queries.2 ⟨hservice, hname⟩)
    exact (Repository.mem_queries.1 hdeclared).2
  · intro hname
    rw [Context.repositoryMethods_build hd basePackage queryLimit hc] at hname
    rw [Context.serviceMethods_build hd basePackage queryLimit hc]
    exact Hierarchy.mem_serviceMethods.2 (.inr ⟨⟨q, hservice, rfl⟩, hname⟩)

section Names

variable (hascii : ∀ a ∈ c.attributes, isAscii a.name = true)
  (hnamed : ∀ a ∈ c.attributes, a.name ≠ "")
include hascii hnamed

/-- No two methods of a repository have one signature exactly if no two of its queries on keys
have. -/
theorem Repository.nodup_signatures_iff :
    let ctx := (Context.build d basePackage queryLimit).value
    ((methods ctx c).map Method.signature).Nodup ↔
      ((ctx.keyQueries c).map Query.signature).Nodup := by
  intro ctx
  have hmembers : ctx.membersOf c = ctx.hierarchy.membersOf c :=
    Context.membersOf_build hd basePackage queryLimit hc
  rw [signatures_methods, queries, Context.keyQueries, hmembers]
  exact Scaffold.nodup_signatures_iff Members.repositoryQueries_perm
    (Hierarchy.nodup_names_fieldQueries hascii (by decide))
    (fun _ hq _ hq' => Hierarchy.name_keyQueries hascii hnamed hq hq') _

/-- No two queries of a service have one signature exactly if no two of those on keys have. -/
theorem Service.nodup_queries_iff :
    let ctx := (Context.build d basePackage queryLimit).value
    ((queries ctx c).map Query.signature).Nodup ↔
      ((ctx.keyQueries c).map Query.signature).Nodup := by
  intro ctx
  have hmembers : ctx.membersOf c = ctx.hierarchy.membersOf c :=
    Context.membersOf_build hd basePackage queryLimit hc
  have hkeys := Service.keyQueries_build hd basePackage queryLimit hc
  dsimp only at hkeys
  rw [← hkeys, queries, hmembers]
  exact Scaffold.nodup_signatures_iff Members.serviceQueries_perm
    (Hierarchy.nodup_names_fieldQueries hascii (by decide))
    (fun _ hq _ hq' => Hierarchy.name_keyQueries hascii hnamed hq hq') _

/-- A query of a service that is called like a basic method is about the field of a column or of a
reference, and that field is called `id`. -/
theorem Service.member_of_basic {q : Query} :
    let ctx := (Context.build d basePackage queryLimit).value
    q ∈ queries ctx c → q.name ∈ Hierarchy.serviceBasics →
      (∃ s ∈ ctx.queried c, s.fieldName = "id" ∧ q.type = .value s.javaType) ∨
        ∃ r ∈ (ctx.membersOf c).references, r.fieldName = "id" ∧ q.type = .entity r.target := by
  intro ctx hq hbasic
  have hmembers : ctx.membersOf c = ctx.hierarchy.membersOf c :=
    Context.membersOf_build hd basePackage queryLimit hc
  have hq := Members.serviceQueries_perm.mem_iff.1 (mem_queries.1 hq).1
  rw [Context.queried, hmembers]
  rw [hmembers] at hq
  rcases List.mem_append.1 hq with hq | hq
  · have hid := Query.property_of_basic (Hierarchy.property_fieldQueries hascii hq).2 hbasic
    rcases Members.mem_fieldQueries hq with ⟨s, hs, verb, rfl⟩ | ⟨r, hr, verb, -, rfl⟩
    · exact .inl ⟨s, hs, hid, rfl⟩
    · exact .inr ⟨r, hr, hid, rfl⟩
  · obtain ⟨r, hr, hq⟩ := List.mem_filterMap.1 hq
    obtain ⟨field, hfield, rfl⟩ := Option.map_eq_some_iff.1 hq
    exact absurd (Query.basic_of_basic hbasic)
      (Hierarchy.findBy_idField_not_basic hr (hnamed _ (Hierarchy.fieldName_membersOf hr).1) hfield)

/-- No query of a service repeats a basic method exactly if columns and references called `id` have
other types than the key. -/
theorem Service.keepsBasics_iff :
    let ctx := (Context.build d basePackage queryLimit).value
    (∀ q ∈ queries ctx c, q.signature ∉
      (basicMethods c.name (ctx.entityKey c).javaType.name).map Method.signature) ↔
      ctx.KeepsBasics c := by
  intro ctx
  have hfind : ∀ q : Query, q.verb = .find → q.property = "id" →
      q.name ∈ Hierarchy.serviceBasics := by
    intro q hverb hproperty
    rw [Query.name, hverb, hproperty]
    decide
  have hdeclared : ∀ q ∈ (ctx.membersOf c).serviceQueries ctx.queryLimit,
      q.name ∈ Hierarchy.serviceBasics → q ∈ queries ctx c := fun q hq hbasic =>
    mem_queries.2 ⟨hq,
      (Context.mem_serviceMethods_build hd basePackage queryLimit hc q.name).2 (.inl hbasic)⟩
  constructor
  · intro hfree
    refine ⟨fun s hs hid htype => ?_, fun r hr hid htype => ?_⟩
    · have hbasic := hfind ⟨.find, s.fieldName, .value s.javaType⟩ rfl hid
      refine hfree _ (hdeclared _ ?_ hbasic)
        (signature_mem_basicMethods.2 ⟨hbasic, congrArg JavaType.name htype⟩)
      exact List.mem_append_left _
        (List.mem_flatMap.2 ⟨s, hs, List.mem_map_of_mem List.mem_cons_self⟩)
    · have hbasic := hfind (r.query .find) rfl hid
      refine hfree _ (hdeclared _ ?_ hbasic) (signature_mem_basicMethods.2 ⟨hbasic, htype⟩)
      exact List.mem_append_right _ (List.mem_flatMap.2 ⟨r, hr, List.mem_cons_self⟩)
  · intro hkeeps q hq hrepeats
    obtain ⟨hbasic, htype⟩ := signature_mem_basicMethods.1 hrepeats
    rcases member_of_basic hd basePackage queryLimit hc hascii hnamed hq hbasic with
      ⟨s, hs, hid, hvalue⟩ | ⟨r, hr, hid, hentity⟩
    · rw [hvalue] at htype
      exact hkeeps.columns s hs hid (JavaType.name_inj htype)
    · rw [hentity] at htype
      exact hkeeps.references r hr hid htype

end Names

end Build

/-- In a context that is built from a diagram without repeated ids, the interfaces of the repository
and of the service of a class declare their methods and nothing else. If the attributes of the class
have names, and these are made of ASCII characters, no two methods of the repository agree in their
names and in the types of their parameters exactly if no two of its queries on keys of referenced
entities do. The same holds of the service, if no query repeats a basic method: no column or
reference called `id` has the type of the key. -/
theorem signatures_distinct_iff (d : Diagram) (hd : d.DistinctIds) (basePackage : String)
    (queryLimit : Int) (c : ClassNode) (hc : c ∈ d.classes)
    (hascii : ∀ a ∈ c.attributes, isAscii a.name = true) (hnamed : ∀ a ∈ c.attributes, a.name ≠ "") :
    let ctx := (Context.build d basePackage queryLimit).value
    let key := (ctx.entityKey c).javaType.name
    (Repository.file ctx c).body = "@Repository" ::
      braced s!"public interface {c.name}Repository extends JpaRepository<{c.name}, {key}>"
        ("" :: (Repository.methods ctx c).flatMap fun m => [m.declaration, ""]) ∧
    (Service.file ctx c).body = braced s!"public interface {c.name}Service"
      ("" :: template Service.margin 0
          (((Service.basicMethods c.name key).map Method.declaration).intersperse "") ++
        ((Service.queries ctx c).map (·.method c.name)).flatMap fun m => ["", m.declaration]) ∧
    (((Repository.methods ctx c).map Method.signature).Nodup ↔
      ((ctx.keyQueries c).map Query.signature).Nodup) ∧
    (((Service.methods ctx c).map Method.signature).Nodup ↔
      ((ctx.keyQueries c).map Query.signature).Nodup ∧ ctx.KeepsBasics c) := by
  intro ctx key
  refine ⟨Repository.body_file ctx c, Service.body_file ctx c,
    Repository.nodup_signatures_iff hd basePackage queryLimit hc hascii hnamed, ?_⟩
  have hbasics : ((Service.basicMethods c.name key).map Method.signature).Nodup := by
    have hnames : ((Service.basicMethods c.name key).map Method.signature).map Prod.fst =
        Hierarchy.serviceBasics := rfl
    refine List.Nodup.of_map Prod.fst ?_
    rw [hnames]
    decide
  have hqueries := Service.nodup_queries_iff hd basePackage queryLimit hc hascii hnamed
  have hkeeps := Service.keepsBasics_iff hd basePackage queryLimit hc hascii hnamed
  dsimp only at hqueries hkeeps
  rw [Service.signatures_methods, List.nodup_append, hqueries, ← hkeeps]
  constructor
  · rintro ⟨-, hdistinct, hdisjoint⟩
    exact ⟨hdistinct, fun q hq hrepeats =>
      hdisjoint _ hrepeats _ (List.mem_map_of_mem hq) rfl⟩
  · rintro ⟨hdistinct, hfree⟩
    refine ⟨hbasics, hdistinct, fun x hx y hy heq => ?_⟩
    obtain ⟨q, hq, rfl⟩ := List.mem_map.1 hy
    exact hfree q hq (heq ▸ hx)

/-- Books have a column called `id`, but their key has another type. -/
theorem signatures_distinct_library :
    library.DistinctIds ∧ book ∈ library.classes ∧
      (∀ a ∈ book.attributes, isAscii a.name = true) ∧ (∀ a ∈ book.attributes, a.name ≠ "") ∧
      let ctx := (Context.build library "app" (-1)).value
      (ctx.keyQueries book).map Query.signature = [("findByAuthorName", ["String"])] ∧
        ((Repository.methods ctx book).map Method.signature).Nodup ∧
        ((Service.methods ctx book).map Method.signature).Nodup := by
  have hd : library.DistinctIds := by
    unfold Diagram.DistinctIds
    decide
  have hc : book ∈ library.classes := by decide
  have hascii : ∀ a ∈ book.attributes, isAscii a.name = true := by decide
  have hnamed : ∀ a ∈ book.attributes, a.name ≠ "" := by decide
  have hkeys : ((Context.build library "app" (-1)).value.keyQueries book).map Query.signature =
      [("findByAuthorName", ["String"])] := by decide +kernel
  have hkeeps : (Context.build library "app" (-1)).value.KeepsBasics book := by decide +kernel
  obtain ⟨-, -, hrepository, hservice⟩ :=
    signatures_distinct_iff library hd "app" (-1) book hc hascii hnamed
  have hdistinct : (((Context.build library "app" (-1)).value.keyQueries book).map
      Query.signature).Nodup := by
    rw [hkeys]
    exact List.nodup_singleton _
  exact ⟨hd, hc, hascii, hnamed, hkeys, hrepository.2 hdistinct, hservice.2 ⟨hdistinct, hkeeps⟩⟩

/-! ## Methods that are declared twice -/

/-- Shipments reference an order, whose key is called `line_id`, and a line of an order. -/
def shipment : ClassNode where
  id := "3"
  name := "Shipment"
  attributes :=
    [{ name := "id", type := "Long", isPrimaryKey := true },
      { name := "order", isForeignKey := true, referencedEntity := some "Order" },
      { name := "order_line", isForeignKey := true, referencedEntity := some "OrderLine" }]

/-- Parcels have a column called `id` beside their key. -/
def parcel : ClassNode where
  id := "4"
  name := "Parcel"
  attributes := [{ name := "code", isPrimaryKey := true }, { name := "id" }]

/-- Orders and their lines, shipments and parcels. -/
def depot : Diagram where
  classes :=
    [{ id := "1", name := "Order"
       attributes := [{ name := "line_id", type := "Long", isPrimaryKey := true }] },
      { id := "2", name := "OrderLine"
        attributes := [{ name := "id", type := "Long", isPrimaryKey := true }] },
      shipment, parcel]

/-- The repository and the service of shipments have two queries of one signature on the keys of
what they reference, and the service of parcels repeats two of its basic methods for the column. -/
theorem not_nodup_signatures_depot :
    depot.DistinctIds ∧ (depot.classes.map (·.name)).Nodup ∧
      (∀ c ∈ depot.classes, isAscii c.name = true ∧ ∀ a ∈ c.attributes, isAscii a.name = true) ∧
      shipment ∈ depot.classes ∧ parcel ∈ depot.classes ∧
      let ctx := (Context.build depot "app" 3).value
      (ctx.keyQueries shipment).map Query.signature =
          [("findByOrderLineId", ["Long"]), ("findByOrderLineId", ["Long"])] ∧
        ¬((Repository.methods ctx shipment).map Method.signature).Nodup ∧
        ¬((Service.methods ctx shipment).map Method.signature).Nodup ∧
        ¬((Service.methods ctx parcel).map Method.signature).Nodup := by
  have hd : depot.DistinctIds := by
    unfold Diagram.DistinctIds
    decide
  have hc : shipment ∈ depot.classes := by decide
  have hascii : ∀ a ∈ shipment.attributes, isAscii a.name = true := by decide
  have hnamed : ∀ a ∈ shipment.attributes, a.name ≠ "" := by decide
  have hkeys : ((Context.build depot "app" 3).value.keyQueries shipment).map Query.signature =
      [("findByOrderLineId", ["Long"]), ("findByOrderLineId", ["Long"])] := by decide +kernel
  have hrepeated : ¬(((Context.build depot "app" 3).value.keyQueries shipment).map
      Query.signature).Nodup := by
    rw [hkeys]
    decide
  refine ⟨hd, by decide, by decide, hc, by decide, hkeys, fun hdistinct => hrepeated ?_,
    fun hdistinct => hrepeated ?_, by decide +kernel⟩
  · exact (Repository.nodup_signatures_iff hd "app" 3 hc hascii hnamed).1 hdistinct
  · rw [Service.signatures_methods, List.nodup_append] at hdistinct
    exact (Service.nodup_queries_iff hd "app" 3 hc hascii hnamed).1 hdistinct.2.1

end Scaffold
