import Scaffold.Analysis.Member

/-!
# Derived queries

A repository has queries that are derived from the fields of its entity: it finds instances, asks
whether there are any, or counts them. Each of the first scalar members has all three. A reference
has all three too, and is also found by the key of the referenced entity; the service leaves out
the question whether there are any.
-/

namespace Scaffold

open Naming

/-- What a query does. -/
inductive QueryVerb where
  /-- It finds instances. -/
  | find
  /-- It asks whether there are instances. -/
  | exist
  /-- It counts instances. -/
  | count
  deriving DecidableEq

/-- The beginning of the name of a query. -/
def QueryVerb.start : QueryVerb → String
  | .find => "findBy"
  | .exist => "existsBy"
  | .count => "countBy"

/-- The type that a query returns, given the name of the entity. -/
def QueryVerb.returns (entity : String) : QueryVerb → String
  | .find => s!"List<{entity}>"
  | .exist => "boolean"
  | .count => "long"

/-- The type of the parameter of a query. -/
inductive QueryType where
  /-- The type of a column or key. -/
  | value (type : JavaType)
  /-- A referenced entity. -/
  | entity (target : ClassNode)
  deriving DecidableEq

/-- The name of the type of a parameter. -/
def QueryType.name : QueryType → String
  | .value type => type.name
  | .entity target => target.name

/-- A query with one parameter. -/
structure Query where
  /-- What the query does. -/
  verb : QueryVerb
  /-- The property that the query is about. -/
  property : String
  /-- The type of the parameter. -/
  type : QueryType
  deriving DecidableEq

namespace Query

/-- The name of the query. -/
def name (q : Query) : String := q.verb.start ++ capitalize q.property

/-- The parameter, which is called like the property. -/
def parameter (q : Query) : String := q.type.name ++ " " ++ q.property

/-- The declaration, given the name of the entity. -/
def declaration (entity : String) (q : Query) : String :=
  s!"{q.verb.returns entity} {q.name}({q.parameter})"

/-- The text that stands for the parameter in a call: what follows the first space of it. -/
def argument (q : Query) : String :=
  String.ofList ((q.parameter.toList.dropWhile (· ≠ ' ')).drop 1)

end Query

/-- The queries on a scalar member. -/
def ScalarMember.queries (m : ScalarMember) : List Query :=
  [.find, .exist, .count].map fun verb => ⟨verb, m.fieldName, .value m.javaType⟩

/-- The query on the key of a referenced entity. -/
def ReferenceMember.keyQuery? (r : ReferenceMember) : Option Query :=
  r.idField.map fun field => ⟨.find, field, .value r.targetKey.javaType⟩

/-- A query on a reference itself. -/
def ReferenceMember.query (r : ReferenceMember) (verb : QueryVerb) : Query :=
  ⟨verb, r.fieldName, .entity r.target⟩

/-- The queries on a reference that a repository can have. -/
def ReferenceMember.queries (r : ReferenceMember) : List Query :=
  r.query .find :: (r.keyQuery?.toList ++ [r.query .exist, r.query .count])

/-- The queries on a reference that a service can have. -/
def ReferenceMember.serviceQueries (r : ReferenceMember) : List Query :=
  r.query .find :: (r.keyQuery?.toList ++ [r.query .count])

namespace Members

/-- The queries that a repository can have, given the greatest number of scalar members. -/
def repositoryQueries (m : Members) (limit : Int) : List Query :=
  (m.queried limit).flatMap (·.queries) ++ m.references.flatMap (·.queries)

/-- The queries that a service can have, given the greatest number of scalar members. -/
def serviceQueries (m : Members) (limit : Int) : List Query :=
  (m.queried limit).flatMap (·.queries) ++ m.references.flatMap (·.serviceQueries)

end Members

end Scaffold
