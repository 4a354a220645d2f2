import Scaffold.Analysis.Context

/-!
# Overviews of diagrams

An overview says how a diagram is understood: the classes with their parents, keys and
collections, the association tables with the classes that they reference, and the kinds of the
edges. It is a list of lines.
-/

namespace Scaffold.Context

/-- The lines for a class. -/
def classLines (ctx : Context) (c : ClassNode) : List String :=
  let key := ctx.entityKey c
  let parent :=
    match ctx.hierarchy.parentOf c with
    | some p => s!" extends {p.name}"
    | none => ""
  let generated := if key.synthesized then " (generated)" else ""
  let p := ctx.prediction c
  let side (l : ManyToMany) : String := if l.isOwner then "owner" else "inverse"
  s!"  {c.name}{parent}  key: {key.name}: {key.javaType.name}{generated}" ::
    (p.oneToMany.map fun l =>
      s!"    one-to-many {l.fieldName} -> {l.related.name} (mappedBy {l.mappedBy})") ++
    p.manyToMany.map fun l =>
      s!"    many-to-many {l.fieldName} -> {l.related.name} ({side l})"

/-- The line for an association table, if all its foreign keys reference something. -/
def tableLine? (t : AssociationTable) : Option String :=
  (t.referencedEntities.mapM id).map fun targets =>
    let list := Text.joinTexts ", " targets
    s!"  {t.name} -> {list}"

/-- What an end of an edge is called: its class by name, and anything else by id. -/
def endName (ctx : Context) (id : String) : String :=
  match ctx.diagram.classById id with
  | some c => c.name
  | none => id

/-- The line for an edge. -/
def relationLine (ctx : Context) (r : Relation) : String :=
  let source := ctx.endName r.relationship.source
  let target := ctx.endName r.relationship.target
  s!"  {source} -> {target}: {r.kind.word} (declared {r.declaredType})"

end Scaffold.Context
