import Scaffold.Backend.Controller
import Scaffold.Backend.Repository
import Scaffold.Backend.Service
import Scaffold.Proofs.Accessors

/-!
# Queries from the controller down to the repository

Repository, service and controller of a class each make up their queries from its members, and keep
those whose names are predicted. What the service implements is declared in its interface and in the
repository (`Service.mem_repository`), what the controller calls is declared in the service
(`Controller.mem_service`), and nothing but the basic methods is predicted that is not declared
(`mem_repositoryMethods`, `mem_serviceMethods`).

A query is kept for its name alone. The query on the key of a referenced entity that does not have
the key may so be kept for the sake of another one, or of a basic method. `Context.Derives` says
that a name is one of those that a query should have. Of the names that are not those of basic
methods this is always true. Of all names it is true if the references have names, as they have in
every diagram that was read (`Diagram.named_of_parse`): `capitalize_append_ne_id` is what it rests
on. A reference without a name may have the query `findById` on a key that its entity does not have.

Main statement: `queries_agree`.
-/

namespace Scaffold

open Naming Java

/-! ## Names -/

/-- A name is that of a query on a field that the entity of a class declares, or on the key of an
entity that it references, which has the key. -/
def Context.Derives (ctx : Context) (c : ClassNode) (name : String) : Prop :=
  (∃ field, (ctx.prediction c).entityOwn.has field = true ∧
    ∃ verb : QueryVerb, name = verb.start ++ capitalize field) ∨
  ∃ r ∈ (ctx.membersOf c).references,
    (ctx.prediction r.target).entityAll.has r.targetKey.fieldName = true ∧
      name = findBy (r.fieldName ++ capitalize r.targetKey.fieldName)

/-- A basic method of a service that is called like a query is one of the repository too. -/
theorem Query.basic_of_basic {q : Query} (hq : q.name ∈ Hierarchy.serviceBasics) :
    q.name ∈ Hierarchy.repositoryBasics := by
  have hbasics : ∀ s ∈ Hierarchy.serviceBasics, s ∈ Hierarchy.repositoryBasics ∨
      ∀ verb ∈ [QueryVerb.find, .exist, .count], ¬verb.start.toList.isPrefixOf s.toList := by
    decide
  refine (hbasics _ hq).resolve_right fun hstart => hstart q.verb ?_ ?_
  · cases q.verb <;> decide
  · simp [Query.name]

/-- Of the basic methods of a repository, only one is called like a query that finds instances. -/
theorem capitalize_eq_of_basic {property : String}
    (hname : findBy property ∈ Hierarchy.repositoryBasics) : capitalize property = "Id" := by
  have hbasics : ∀ s ∈ Hierarchy.repositoryBasics,
      "findBy".toList.isPrefixOf s.toList → s.toList = "findBy".toList ++ "Id".toList := by
    decide
  have hchars := hbasics _ hname (by simp [findBy])
  rw [findBy, String.toList_append] at hchars
  exact String.toList_inj.1 (List.append_cancel_left hchars)

/-- The field of a reference has a name if the reference has. -/
theorem Hierarchy.fieldName_ne_empty {h : Hierarchy} {c : ClassNode} {r : ReferenceMember}
    (hr : r ∈ (h.membersOf c).references) (hnamed : r.attr.name ≠ "") : r.fieldName ≠ "" := by
  rw [(fieldName_membersOf hr).2]
  exact camelCase_ne_empty hnamed

/-- The query on the key of a referenced entity is called like no basic method, if the reference has
a name. -/
theorem Hierarchy.findBy_idField_not_basic {h : Hierarchy} {c : ClassNode} {r : ReferenceMember}
    (hr : r ∈ (h.membersOf c).references) (hnamed : r.attr.name ≠ "") {field : String}
    (hfield : r.idField = some field) : findBy field ∉ repositoryBasics := by
  intro hbasic
  obtain ⟨rfl, hfree⟩ := idField_sound hr hfield
  refine capitalize_append_ne_id (fieldName_ne_empty hr hnamed) (fun hkey => hfree ?_)
    (capitalize_eq_of_basic hbasic)
  -- A key without a name would give the query on the reference itself.
  have hsame : r.fieldName ++ capitalize r.targetKey.fieldName = r.fieldName := by
    rw [hkey]
    exact String.append_empty
  rw [hsame]
  exact List.mem_append_right _ (List.mem_map_of_mem hr)

/-! ## Queries of members -/

namespace Members

variable {m : Members} {limit : Int} {q : Query}

theorem mem_repositoryQueries :
    q ∈ m.repositoryQueries limit ↔
      (∃ s ∈ m.queried limit, ∃ verb, q = ⟨verb, s.fieldName, .value s.javaType⟩) ∨
        ∃ r ∈ m.references, (∃ verb, q = r.query verb) ∨ r.keyQuery? = some q := by
  have hscalar : ∀ s : ScalarMember,
      q ∈ s.queries ↔ ∃ verb, q = ⟨verb, s.fieldName, .value s.javaType⟩ := by
    intro s
    constructor
    · intro hq
      obtain ⟨verb, -, rfl⟩ := List.mem_map.1 hq
      exact ⟨verb, rfl⟩
    · rintro ⟨verb, rfl⟩
      exact List.mem_map.2 ⟨verb, by cases verb <;> simp, rfl⟩
  have hreference : ∀ r : ReferenceMember,
      q ∈ r.queries ↔ (∃ verb, q = r.query verb) ∨ r.keyQuery? = some q := by
    intro r
    simp only [ReferenceMember.queries, List.mem_cons, List.mem_append, Option.mem_toList,
      List.not_mem_nil, or_false]
    constructor
    · rintro (hq | hq | hq | hq)
      · exact .inl ⟨.find, hq⟩
      · exact .inr hq
      · exact .inl ⟨.exist, hq⟩
      · exact .inl ⟨.count, hq⟩
    · rintro (⟨verb, hq⟩ | hq)
      · cases verb with
        | find => exact .inl hq
        | exist => exact .inr (.inr (.inl hq))
        | count => exact .inr (.inr (.inr hq))
      · exact .inr (.inl hq)
  simp only [repositoryQueries, List.mem_append, List.mem_flatMap, hscalar, hreference]

/-- A service can have no query that the repository cannot have. -/
theorem serviceQueries_subset : m.serviceQueries limit ⊆ m.repositoryQueries limit := by
  intro q hq
  rcases List.mem_append.1 hq with hq | hq
  · exact List.mem_append_left _ hq
  · obtain ⟨r, hr, hq⟩ := List.mem_flatMap.1 hq
    refine mem_repositoryQueries.2 (.inr ⟨r, hr, ?_⟩)
    simp only [ReferenceMember.serviceQueries, List.mem_cons, List.mem_append, Option.mem_toList,
      List.not_mem_nil, or_false] at hq
    rcases hq with hq | hq | hq
    · exact .inl ⟨.find, hq⟩
    · exact .inr hq
    · exact .inl ⟨.count, hq⟩

end Members

/-! ## Predicted methods -/

namespace Hierarchy

variable {h : Hierarchy} {table : List (String × Members)} {limit : Int} {c : ClassNode}
  {name : String}

theorem mem_repositoryMethods :
    name ∈ h.repositoryMethods table limit c ↔
      name ∈ repositoryBasics ∨ name ∈ h.repositoryQueryNames table limit c := by
  rw [repositoryMethods, Text.mem_ordered, List.mem_append]

theorem mem_serviceMethods :
    name ∈ h.serviceMethods table limit c ↔
      name ∈ serviceBasics ∨
        (∃ q ∈ (Members.inTable table c).serviceQueries limit, q.name = name) ∧
          name ∈ h.repositoryMethods table limit c := by
  simp [serviceMethods, Text.mem_ordered]

/-- A predicted name is that of a query on a scalar member, on a reference, or on a key that the
referenced entity has. -/
theorem mem_repositoryQueryNames (hname : name ∈ h.repositoryQueryNames table limit c) :
    (∃ s ∈ (Members.inTable table c).queried limit, ∃ verb : QueryVerb,
      name = verb.start ++ capitalize s.fieldName) ∨
    ∃ r ∈ (Members.inTable table c).references,
      (∃ verb : QueryVerb, name = verb.start ++ capitalize r.fieldName) ∨
        h.keepsKey table r = true ∧ ∃ field, r.idField = some field ∧ name = findBy field := by
  rcases List.mem_append.1 hname with hname | hname
  · obtain ⟨s, hs, hname⟩ := List.mem_flatMap.1 hname
    obtain ⟨q, hq, rfl⟩ := List.mem_map.1 hname
    obtain ⟨verb, -, rfl⟩ := List.mem_map.1 hq
    exact .inl ⟨s, (List.mem_filter.1 hs).1, verb, rfl⟩
  · obtain ⟨r, hr, hname⟩ := List.mem_flatMap.1 hname
    refine .inr ⟨r, hr, ?_⟩
    rcases List.mem_append.1 hname with hname | hname
    · obtain ⟨verb, -, rfl⟩ := List.mem_map.1 hname
      exact .inl ⟨verb, rfl⟩
    · split at hname
      · next hkeeps =>
        obtain ⟨q, hq, rfl⟩ := List.mem_map.1 hname
        obtain ⟨field, hfield, rfl⟩ := Option.map_eq_some_iff.1 (Option.mem_toList.1 hq)
        exact .inr ⟨hkeeps, field, hfield, rfl⟩
      · cases hname

/-- Every predicted name is that of a query that the repository can have. -/
theorem exists_query_of_mem (hname : name ∈ h.repositoryQueryNames table limit c) :
    ∃ q ∈ (Members.inTable table c).repositoryQueries limit, q.name = name := by
  rcases mem_repositoryQueryNames hname with
    ⟨s, hs, verb, rfl⟩ | ⟨r, hr, ⟨verb, rfl⟩ | ⟨-, field, hfield, rfl⟩⟩
  · exact ⟨_, Members.mem_repositoryQueries.2 (.inl ⟨s, hs, verb, rfl⟩), rfl⟩
  · exact ⟨r.query verb, Members.mem_repositoryQueries.2 (.inr ⟨r, hr, .inl ⟨verb, rfl⟩⟩), rfl⟩
  · refine ⟨⟨.find, field, .value r.targetKey.javaType⟩,
      Members.mem_repositoryQueries.2 (.inr ⟨r, hr, .inr ?_⟩), rfl⟩
    rw [ReferenceMember.keyQuery?, hfield, Option.map_some]

end Hierarchy

theorem Service.mem_queries {ctx : Context} {c : ClassNode} {q : Query} :
    q ∈ queries ctx c ↔
      q ∈ (ctx.membersOf c).serviceQueries ctx.queryLimit ∧
        q.name ∈ (ctx.prediction c).serviceMethods := by
  simp [queries]

namespace Context

section Build

variable {d : Diagram} (hd : d.DistinctIds) (basePackage : String) (queryLimit : Int)
  {c : ClassNode} (hc : c ∈ d.classes)
include hd hc

theorem repositoryMethods_build :
    let ctx := (build d basePackage queryLimit).value
    (ctx.prediction c).repositoryMethods =
      ctx.hierarchy.repositoryMethods ctx.members queryLimit c := by
  intro ctx
  rw [prediction_build hd basePackage queryLimit hc, Hierarchy.predict]

theorem serviceMethods_build :
    let ctx := (build d basePackage queryLimit).value
    (ctx.prediction c).serviceMethods =
      ctx.hierarchy.serviceMethods ctx.members queryLimit c := by
  intro ctx
  rw [prediction_build hd basePackage queryLimit hc, Hierarchy.predict]

/-- The methods of a repository are the basic ones and the queries that it declares. -/
theorem mem_repositoryMethods_build (name : String) :
    let ctx := (build d basePackage queryLimit).value
    name ∈ (ctx.prediction c).repositoryMethods ↔
      name ∈ Hierarchy.repositoryBasics ∨ name ∈ (Repository.queries ctx c).map (·.name) := by
  intro ctx
  have hpredicted := repositoryMethods_build hd basePackage queryLimit hc
  constructor
  · intro hname
    refine (Hierarchy.mem_repositoryMethods.1 (hpredicted ▸ hname)).imp_right fun hquery => ?_
    obtain ⟨q, hq, rfl⟩ := Hierarchy.exists_query_of_mem hquery
    exact List.mem_map_of_mem (Repository.mem_queries.2 ⟨hq, hname⟩)
  · rintro (hname | hname)
    · rw [hpredicted]
      exact Hierarchy.mem_repositoryMethods.2 (.inl hname)
    · obtain ⟨q, hq, rfl⟩ := List.mem_map.1 hname
      exact (Repository.mem_queries.1 hq).2

/-- The methods of a service are the basic ones and the queries that it declares. -/
theorem mem_serviceMethods_build (name : String) :
    let ctx := (build d basePackage queryLimit).value
    name ∈ (ctx.prediction c).serviceMethods ↔
      name ∈ Hierarchy.serviceBasics ∨ name ∈ (Service.queries ctx c).map (·.name) := by
  intro ctx
  have hpredicted := serviceMethods_build hd basePackage queryLimit hc
  constructor
  · intro hname
    refine (Hierarchy.mem_serviceMethods.1 (hpredicted ▸ hname)).imp_right ?_
    rintro ⟨⟨q, hq, rfl⟩, -⟩
    exact List.mem_map_of_mem (Service.mem_queries.2 ⟨hq, hname⟩)
  · rintro (hname | hname)
    · rw [hpredicted]
      exact Hierarchy.mem_serviceMethods.2 (.inl hname)
    · obtain ⟨q, hq, rfl⟩ := List.mem_map.1 hname
      exact (Service.mem_queries.1 hq).2

/-- What a service declares and implements is declared in the repository too. -/
theorem mem_repository_of_mem_service {q : Query} :
    let ctx := (build d basePackage queryLimit).value
    q ∈ Service.queries ctx c → q ∈ Repository.queries ctx c := by
  intro ctx hq
  obtain ⟨hq, hname⟩ := Service.mem_queries.1 hq
  refine Repository.mem_queries.2 ⟨Members.serviceQueries_subset hq, ?_⟩
  rw [serviceMethods_build hd basePackage queryLimit hc] at hname
  rcases Hierarchy.mem_serviceMethods.1 hname with hbasic | ⟨-, hanswered⟩
  · exact (mem_repositoryMethods_build hd basePackage queryLimit hc q.name).2
      (.inl (Query.basic_of_basic hbasic))
  · rw [repositoryMethods_build hd basePackage queryLimit hc]
    exact hanswered

/-! ## Names of queries -/

/-- The field of a member is a field that the entity declares. -/
theorem has_entityOwn_of_member {field : String} :
    let ctx := (build d basePackage queryLimit).value
    field ∈ (ctx.membersOf c).fields → (ctx.prediction c).entityOwn.has field = true := by
  intro ctx hfield
  exact (has_entityOwn_build hd basePackage queryLimit hc field).2
    (Hierarchy.fields_subset_entityFields c hfield)

/-- A query on the field of a member has a name that it should have. -/
theorem derives_of_member {field : String} (verb : QueryVerb) :
    let ctx := (build d basePackage queryLimit).value
    field ∈ (ctx.membersOf c).fields → ctx.Derives c (verb.start ++ capitalize field) := by
  intro ctx hfield
  exact .inl ⟨field, has_entityOwn_of_member hd basePackage queryLimit hc hfield, verb, rfl⟩

omit hd hc in
theorem fieldName_mem_of_queried {m : Members} {limit : Int} {s : ScalarMember}
    (hs : s ∈ m.queried limit) : s.fieldName ∈ m.fields :=
  List.mem_append_left _
    (List.mem_map_of_mem (List.mem_filter.1 ((takeSigned_sublist _ _).mem hs)).1)

/-- The name of a predicted query is one that it should have. -/
theorem derives_of_predicted {name : String} :
    let ctx := (build d basePackage queryLimit).value
    name ∈ ctx.hierarchy.repositoryQueryNames ctx.members queryLimit c → ctx.Derives c name := by
  intro ctx hname
  rcases Hierarchy.mem_repositoryQueryNames hname with
    ⟨s, hs, verb, rfl⟩ | ⟨r, hr, ⟨verb, rfl⟩ | ⟨hkeeps, field, hfield, rfl⟩⟩
  · exact derives_of_member hd basePackage queryLimit hc verb (fieldName_mem_of_queried hs)
  · exact derives_of_member hd basePackage queryLimit hc verb
      (List.mem_append_right _ (List.mem_map_of_mem hr))
  · have hmem : r ∈ ((Hierarchy.ofDiagram d).value.membersOf c).references := by
      rw [← inTable_build hd basePackage queryLimit hc]
      exact hr
    have htarget := (Hierarchy.reference_sound c r hmem).1
    refine .inr ⟨r, hr, ?_, by rw [(Hierarchy.idField_sound hmem hfield).1]⟩
    rw [prediction_build hd basePackage queryLimit htarget]
    exact (Surface.has_ofFields _ _).2 (of_decide_eq_true hkeeps)

/-- The name of a query that a repository declares is one that it should have, if it is not the name
of a basic method or if the references of the class have names. -/
theorem derives_of_mem_repository {q : Query} :
    let ctx := (build d basePackage queryLimit).value
    q ∈ Repository.queries ctx c →
      (q.name ∉ Hierarchy.repositoryBasics ∨
        ∀ r ∈ (ctx.membersOf c).references, r.attr.name ≠ "") → ctx.Derives c q.name := by
  intro ctx hq hnamed
  obtain ⟨hq, hname⟩ := Repository.mem_queries.1 hq
  rcases Members.mem_repositoryQueries.1 hq with ⟨s, hs, verb, rfl⟩ | ⟨r, hr, ⟨verb, rfl⟩ | hkey⟩
  · exact derives_of_member hd basePackage queryLimit hc verb (fieldName_mem_of_queried hs)
  · exact derives_of_member hd basePackage queryLimit hc verb
      (List.mem_append_right _ (List.mem_map_of_mem hr))
  · rw [repositoryMethods_build hd basePackage queryLimit hc] at hname
    rcases Hierarchy.mem_repositoryMethods.1 hname with hbasic | hpredicted
    · obtain ⟨field, hfield, rfl⟩ := Option.map_eq_some_iff.1 hkey
      refine hnamed.elim (absurd hbasic) fun hall => absurd hbasic ?_
      have hname := hall r hr
      rw [membersOf_build hd basePackage queryLimit hc] at hr
      exact Hierarchy.findBy_idField_not_basic hr hname hfield
    · exact derives_of_predicted hd basePackage queryLimit hc hpredicted

end Build

end Context

/-! ## Searches of controllers -/

namespace Controller

/-- The searches of a controller: by columns, then by keys of referenced entities. -/
def searches (ctx : Context) (c : ClassNode) : List Search :=
  scalarSearches ctx c ++ referenceSearches ctx c

/-- A search calls a query of the service with a value of the type that the query asks for. -/
theorem mem_service_of_mem_searches {ctx : Context} {c : ClassNode} {s : Search}
    (hs : s ∈ searches ctx c) :
    s.query ∈ Service.queries ctx c ∧ s.query.type = .value s.type ∧
      ∃ annotation, s.parameter = annotation ++ s.type.name ++ " " ++ s.argument := by
  rcases List.mem_append.1 hs with hs | hs
  · obtain ⟨hs, hname⟩ := List.mem_filter.1 hs
    obtain ⟨m, hm, rfl⟩ := List.mem_map.1 hs
    refine ⟨Service.mem_queries.2 ⟨?_, of_decide_eq_true hname⟩, rfl,
      "@RequestParam " ++ dateFormat m.javaType,
      by simp [scalarSearch, toString, ← String.toList_inj]⟩
    refine List.mem_append_left _ (List.mem_flatMap.2 ⟨m, hm, ?_⟩)
    exact List.mem_map_of_mem (List.mem_cons_self)
  · obtain ⟨hs, hname⟩ := List.mem_filter.1 hs
    obtain ⟨r, hr, hs⟩ := List.mem_filterMap.1 hs
    obtain ⟨q, hq, rfl⟩ := Option.map_eq_some_iff.1 hs
    refine ⟨Service.mem_queries.2 ⟨?_, of_decide_eq_true hname⟩, ?_, "@PathVariable ",
      by simp [toString, ← String.toList_inj]⟩
    · refine List.mem_append_right _ (List.mem_flatMap.2 ⟨r, hr, ?_⟩)
      exact List.mem_cons_of_mem _ (List.mem_append_left _ (Option.mem_toList.2 hq))
    · obtain ⟨field, -, rfl⟩ := Option.map_eq_some_iff.1 hq
      rfl

end Controller

/-! ## Files -/

/-- The file of a repository declares the queries. -/
theorem Repository.declared_in_file (ctx : Context) (c : ClassNode) :
    indented 1 ((queries ctx c).flatMap fun q => [q.declaration c.name ++ ";", ""]) <:+:
      (file ctx c).body :=
  (indented_infix_braced (List.suffix_cons _ _).isInfix).trans (List.suffix_cons _ _).isInfix

/-- The file of a service declares the queries. -/
theorem Service.declared_in_file (ctx : Context) (c : ClassNode) :
    indented 1 ((queries ctx c).flatMap fun q => ["", q.declaration c.name ++ ";"]) <:+:
      (file ctx c).body :=
  indented_infix_braced (List.suffix_append _ _).isInfix

/-- The file of an implementation implements the queries. -/
theorem Service.implemented_in_file (ctx : Context) (c : ClassNode) :
    indented 1 ((queries ctx c).flatMap fun q =>
        "" :: queryImplementation c (Access.of c.name).field q) <:+:
      (implementationFile ctx c).value.body := by
  refine (indented_infix_braced ?_).trans List.infix_append_right
  iterate 6 refine List.infix_append_of_infix_left ?_
  exact List.infix_append_right

/-- The file of a controller has the endpoints of the searches. -/
theorem Controller.searches_in_file (ctx : Context) (c : ClassNode) :
    ((searches ctx c).flatMap fun s => "" :: searchEndpoint (names ctx c) s) <:+:
      (file ctx c).value.body := by
  iterate 4 refine List.infix_append_of_infix_left ?_
  rw [searches, List.flatMap_append, List.append_assoc]
  exact List.infix_append_right

/-- In a context that is built from a diagram without repeated ids, every query that the
implementation of a service has is declared in the service and in the repository, and every search
of the controller calls a query of the service with a value of the type that the query asks for.
Together with the basic methods, the declared queries are what is predicted. The name of every
query that is not called like a basic method is that of a query on a field that the entity declares,
or on the key of an entity that it references, which has the key. If the references of the class
have names, so is the name of every query. -/
theorem queries_agree (d : Diagram) (hd : d.DistinctIds) (basePackage : String)
    (queryLimit : Int) (c : ClassNode) (hc : c ∈ d.classes) :
    let ctx := (Context.build d basePackage queryLimit).value
    indented 1 ((Service.queries ctx c).flatMap fun q =>
        "" :: Service.queryImplementation c (Service.Access.of c.name).field q) <:+:
      (Service.implementationFile ctx c).value.body ∧
    indented 1 ((Service.queries ctx c).flatMap fun q => ["", q.declaration c.name ++ ";"]) <:+:
      (Service.file ctx c).body ∧
    indented 1 ((Repository.queries ctx c).flatMap fun q => [q.declaration c.name ++ ";", ""]) <:+:
      (Repository.file ctx c).body ∧
    ((Controller.searches ctx c).flatMap fun s =>
        "" :: Controller.searchEndpoint (Controller.names ctx c) s) <:+:
      (Controller.file ctx c).value.body ∧
    (∀ q ∈ Service.queries ctx c, q ∈ Repository.queries ctx c) ∧
    (∀ s ∈ Controller.searches ctx c, s.query ∈ Service.queries ctx c ∧
      s.query.type = .value s.type ∧
      ∃ annotation, s.parameter = annotation ++ s.type.name ++ " " ++ s.argument) ∧
    (∀ name, name ∈ (ctx.prediction c).repositoryMethods ↔
      name ∈ Hierarchy.repositoryBasics ∨ name ∈ (Repository.queries ctx c).map (·.name)) ∧
    (∀ name, name ∈ (ctx.prediction c).serviceMethods ↔
      name ∈ Hierarchy.serviceBasics ∨ name ∈ (Service.queries ctx c).map (·.name)) ∧
    (∀ q ∈ Repository.queries ctx c, q.name ∉ Hierarchy.repositoryBasics →
      ctx.Derives c q.name) ∧
    ((∀ r ∈ (ctx.membersOf c).references, r.attr.name ≠ "") →
      ∀ q ∈ Repository.queries ctx c, ctx.Derives c q.name) := by
  intro ctx
  refine ⟨Service.implemented_in_file ctx c, Service.declared_in_file ctx c,
    Repository.declared_in_file ctx c, Controller.searches_in_file ctx c, fun q hq => ?_,
    fun s hs => ?_, fun name => ?_, fun name => ?_, fun q hq hname => ?_, fun hnamed q hq => ?_⟩
  · exact Context.mem_repository_of_mem_service hd basePackage queryLimit hc hq
  · exact Controller.mem_service_of_mem_searches hs
  · exact Context.mem_repositoryMethods_build hd basePackage queryLimit hc name
  · exact Context.mem_serviceMethods_build hd basePackage queryLimit hc name
  · exact Context.derives_of_mem_repository hd basePackage queryLimit hc hq (.inl hname)
  · exact Context.derives_of_mem_repository hd basePackage queryLimit hc hq (.inr hnamed)

/-- Books have a column that is called like a key, and a reference. -/
def book : ClassNode where
  id := "1"
  name := "Book"
  attributes :=
    [{ name := "isbn", isPrimaryKey := true }, { name := "id", type := "Integer" },
      { name := "title" },
      { name := "author", isForeignKey := true, referencedEntity := some "Author" }]

/-- Books and their authors. -/
def library : Diagram where
  classes :=
    [book, { id := "2", name := "Author", attributes := [{ name := "name", isPrimaryKey := true }] }]

theorem queries_agree_library :
    library.DistinctIds ∧ book ∈ library.classes ∧
      let ctx := (Context.build library "app" (-1)).value
      (Service.queries ctx book).map (·.name) =
        ["findById", "existsById", "countById", "findByAuthor", "findByAuthorName",
          "countByAuthor"] ∧
      (∀ q ∈ Service.queries ctx book, q ∈ Repository.queries ctx book) ∧
      ∀ q ∈ Repository.queries ctx book, ctx.Derives book q.name := by
  have hd : library.DistinctIds := by
    unfold Diagram.DistinctIds
    decide
  have hc : book ∈ library.classes := List.mem_cons_self
  obtain ⟨-, -, -, -, hservice, -, -, -, -, hderives⟩ :=
    queries_agree library hd "app" (-1) book hc
  exact ⟨hd, hc, by decide +kernel, hservice, hderives (by decide +kernel)⟩

/-- Guests have a reference without a name to badges. -/
def guest : ClassNode where
  id := "1"
  name := "Guest"
  attributes :=
    [{ name := "code", isPrimaryKey := true },
      { name := "", isForeignKey := true, referencedEntity := some "Badge" }]

/-- The key of a badge is a relationship attribute, so that the entity of badges does not have
it. -/
def badges : Diagram where
  classes :=
    [guest,
      { id := "2", name := "Badge"
        attributes :=
          [{ name := "id", type := "Long", isPrimaryKey := true,
             isRelationshipAttribute := true }] }]

/-- Through a reference without a name a repository declares a query that it should not have. It is
kept because it is called like a basic method. -/
theorem not_queries_agree_badges :
    badges.DistinctIds ∧ guest ∈ badges.classes ∧
      let ctx := (Context.build badges "app" 3).value
      ∃ q ∈ Repository.queries ctx guest,
        q.declaration "Guest" = "List<Guest> findById(Long Id)" ∧ ¬ctx.Derives guest q.name := by
  have hd : badges.DistinctIds := by
    unfold Diagram.DistinctIds
    decide
  have hc : guest ∈ badges.classes := List.mem_cons_self
  refine ⟨hd, hc, ?_⟩
  intro ctx
  let q : Query := ⟨.find, "Id", .value .long⟩
  refine ⟨q, by decide +kernel, by decide +kernel, ?_⟩
  rintro (⟨field, hfield, verb, hname⟩ | ⟨r, hr, hkey, -⟩)
  · have hfields : ∀ field ∈ ctx.hierarchy.entityFields ctx.members guest,
        ∀ verb ∈ [QueryVerb.find, .exist, .count], q.name ≠ verb.start ++ capitalize field := by
      decide +kernel
    exact hfields field ((Context.has_entityOwn_build hd "app" 3 hc field).1 hfield) verb
      (by cases verb <;> decide) hname
  · have hkeys : ∀ r ∈ (ctx.membersOf guest).references,
        (ctx.prediction r.target).entityAll.has r.targetKey.fieldName = false := by
      decide +kernel
    rw [hkeys r hr] at hkey
    cases hkey

end Scaffold
