import Scaffold.Diagnostic
import Scaffold.Diagram.Record
import Scaffold.Diagram.Shorthand
import Scaffold.Digest
import Scaffold.Json.Reader
import Scaffold.Naming
import Scaffold.Text.Ordered

/-!
# Diagram documents

A document holds the `elements` and the `connections` of a diagram, each as an array or as an
object whose values count. `Diagram.parse` reads a document: every element of type `class` is a
class or, by its stereotype, an association table; every connection is an edge. What cannot be
read ends the reading with a `DocumentError`. What can be left out is left out and reported:
attributes without a name and connections without an endpoint. A connection without an id gets one
from its ends, its type and its label.

Ids, names and the like are shown as texts, whatever values they are. A value that cannot be shown
ends the reading (`ensureShowable`).
-/

namespace Scaffold

open Json

/-! ## Errors -/

/-- Why a document cannot be read. -/
inductive DocumentError where
  /-- The document is no JSON. -/
  | notJson (error : ReadError)
  /-- The document is no object. -/
  | notObject (kind : Kind)
  /-- The elements or connections are neither an object nor an array. -/
  | badContainer (key : String) (kind : Kind)
  /-- An element is no object. -/
  | badElement (index : Nat) (kind : Kind)
  /-- A class has no id or no name. -/
  | anonymousClass (index : Nat)
  /-- The attributes of a class are no array. -/
  | badAttributes (label : String)
  /-- An attribute is neither a text nor an object. -/
  | badAttribute (label : String) (index : Nat)
  /-- An attribute has issues. -/
  | invalidAttribute (label : String) (index : Nat) (issues : List Issue)
  /-- A class has issues. -/
  | invalidClass (label : String) (issues : List Issue)
  /-- A connection is no object. -/
  | badConnection (index : Nat) (kind : Kind)
  /-- A connection has issues. -/
  | invalidConnection (index : Nat) (issues : List Issue)
  /-- The methods of a class cannot be iterated. -/
  | notIterable (kind : String)
  /-- A value that is shown holds an integer with too many digits. -/
  | unshowable

namespace DocumentError

/-- The wording of an error; the issues of an attribute, class or connection are left to the
caller. -/
def message : DocumentError → String
  | .notJson error =>
    if error.isOfForm then s!"Diagram is not valid JSON: {error.message}" else error.message
  | .notObject kind => s!"Diagram must be a JSON object, got {kind.word}"
  | .badContainer key kind => s!"'{key}' must be an object or an array, got {kind.word}"
  | .badElement index kind => s!"elements[{index}] must be an object, got {kind.word}"
  | .anonymousClass index => s!"Class element #{index} is missing 'id' or 'name'"
  | .badAttributes label => s!"{label}: 'attributes' must be an array"
  | .badAttribute label index => s!"{label}: attribute #{index} must be a string or an object"
  | .invalidAttribute label index _ => s!"{label}: invalid attribute #{index}"
  | .invalidClass label _ => s!"Class element {Text.quoted label} is invalid"
  | .badConnection index kind => s!"connections[{index}] must be an object, got {kind.word}"
  | .invalidConnection index _ => s!"Connection #{index} is invalid"
  | .notIterable kind => s!"'{kind}' object is not iterable"
  | .unshowable => unshowableMessage

/-- The record that the issues of an error are about, and the issues. -/
def issues? : DocumentError → Option (String × List Issue)
  | .invalidAttribute _ _ issues => some ("Attribute", issues)
  | .invalidClass _ issues => some ("ClassNode", issues)
  | .invalidConnection _ issues => some ("Relationship", issues)
  | _ => none

/-- The wording of an error together with the number of its issues. -/
def headline (e : DocumentError) : String :=
  match e.issues? with
  | none => e.message
  | some (record, issues) =>
    let noun := if issues.length = 1 then "error" else "errors"
    s!"{e.message}: {issues.length} validation {noun} for {record}"

/-- Whether an error is one of the document's form. The others come from values that are beyond
the reader's reach. -/
def isMalformed : DocumentError → Bool
  | .notJson error => error.isOfForm
  | .notIterable _ => false
  | .unshowable => false
  | _ => true

end DocumentError

/-- The value of a part, or the error that its issues amount to. -/
def Checked.orError {α : Type} (x : Checked α) (error : List Issue → DocumentError) :
    Except DocumentError α :=
  match x with
  | .valid a => .ok a
  | .invalid issues => .error (error issues)
  | .notIterable kind => .error (.notIterable kind)

namespace Document

/-! ## Values -/

/-- The value of a key, with `null` for a missing one. -/
def valueOf (fields : Fields) (key : String) : Value := (Fields.get? fields key).getD .null

/-- Whether an id is missing: `null`, or a text of blanks. -/
def isMissing : Value → Bool
  | .null => true
  | .str s => Text.isBlankText s
  | _ => false

/-- Ends the reading if one of the values cannot be shown. -/
def ensureShowable (values : List Value) : Except DocumentError Unit :=
  if values.all Value.isShowable then .ok () else .error .unshowable

theorem ensureShowable_eq_ok {values : List Value} :
    ensureShowable values = .ok () ↔ ∀ v ∈ values, v.isShowable = true := by
  unfold ensureShowable
  split
  · next hall => simpa using hall
  · next hall => simpa using hall

/-- The items of a container: an array, or the values of an object. -/
def container (fields : Fields) (key : String) : Except DocumentError (List Value) :=
  match valueOf fields key with
  | .null => .ok []
  | .obj entries => .ok (entries.map (·.2))
  | .arr items => .ok items
  | v => .error (.badContainer key v.kind)

/-! ## Elements -/

/-- Reads an attribute of a class; `none` if it has no name. -/
def readAttribute (label : String) (index : Nat) :
    Value → Except DocumentError (Option Attribute)
  | .str s => .ok ((Shorthand.parse s).map fun p => { name := p.1, type := p.2 })
  | .obj fields =>
    if (valueOf fields "name").isGiven then
      ((Attribute.ofFields fields).orError (.invalidAttribute label index)).map some
    else .ok none
  | _ => .error (.badAttribute label index)

/-- Reads the attributes of a class, each in the place of its item. -/
def readAttributes (label : String) :
    Value → Except DocumentError (List (Option Attribute))
  | .null => .ok []
  | .arr items => items.zipIdx.mapM fun p => readAttribute label p.2 p.1
  | _ => .error (.badAttributes label)

/-- The diagnostics for the attributes that have no name. -/
def attributeNotes (label : String) (attributes : List (Option Attribute)) : List Diagnostic :=
  attributes.zipIdx.filterMap fun p =>
    if p.1.isNone then some ⟨.namelessAttribute p.2, some label, none⟩ else none

/-- The class with some attributes that the other fields of an element make up. -/
def makeClass (fields : Fields) (attributes : List (Option Attribute)) : Checked ClassNode :=
  let methods := valueOf fields "methods"
  ClassNode.mk (valueOf fields "id").shown (valueOf fields "name").shown
      (attributes.filterMap fun a => a)
    <$> (if methods.isGiven then Record.methodTexts methods else .valid []).under (.field "methods")
    <*> (Record.textOrNull (valueOf fields "stereotype")).under (.field "stereotype")
    <*> (Record.textOrNull (valueOf fields "visibility")).under (.field "visibility")
    <*> (Record.textOr "" (valueOf fields "description")).under (.field "description")

/-- Reads a class. -/
def readClass (fields : Fields) (index : Nat) : Except DocumentError (Noted ClassNode) := do
  let id := valueOf fields "id"
  let name := valueOf fields "name"
  ensureShowable [id]
  if isMissing id || !name.isGiven then throw (.anonymousClass index)
  let label := id.shown
  let attributes ← readAttributes label (valueOf fields "attributes")
  ensureShowable [name]
  let node ← (makeClass fields attributes).orError (.invalidClass label)
  return ⟨node, attributeNotes label attributes⟩

/-- The stereotype of the classes that are association tables. -/
def tableStereotype : String := "association_table"

/-- The association table of a class. -/
def toTable (c : ClassNode) : AssociationTable where
  id := c.id
  name := c.name
  tableName := Naming.snakeCase c.name
  attributes := c.attributes
  foreignKeys := c.attributes.filter (·.isForeignKey)
  additionalAttributes := c.attributes.filter fun a => !a.isForeignKey && !a.isPrimaryKey

/-- Reads an element; `none` if it is no class. That it is none is logged with its id and its
type. -/
def readElement (index : Nat) : Value → Except DocumentError (Option (Noted ClassNode))
  | .obj fields =>
    match Fields.get? fields "type" with
    | none => (readClass fields index).map some
    | some (.str "class") => (readClass fields index).map some
    | some type => do
      ensureShowable [valueOf fields "id", type]
      return none
  | v => .error (.badElement index v.kind)

/-! ## Connections -/

/-- What a connection becomes. -/
inductive Connection where
  /-- An edge. -/
  | edge (relationship : Relationship)
  /-- Nothing, because an endpoint is missing; the other one may be there. -/
  | dropped (present : Option String)

/-- The id that is synthesized for a connection, but for its number among those that have the same
one. It does not depend on which end is the source. -/
def baseId (source target type label : String) : String :=
  let ends := if target < source then [target, source] else [source, target]
  Digest.stableId (ends ++ [type, label]) "rel_" 16

/-- The id of the connection that comes after `count` others with the same base. -/
def numberedId (base : String) (count : Nat) : String :=
  if count = 0 then base else s!"{base}_{count}"

/-- The fields of a connection whose ends are there, without an id: the ends as texts, and the
default type if none is given. -/
def settleFields (fields : Fields) (source target : String) : Fields :=
  let fields := Fields.put "target" (.str target) (Fields.put "source" (.str source) fields)
  if (valueOf fields "type").isGiven then fields
  else Fields.put "type" (.str "association") fields

/-- The label of a connection in its synthesized id. -/
def labelText (v : Value) : String := if v.isGiven then v.shown else ""

/-- The values of a connection that are shown when it is read: its ends, and if both are there its
id, or what it gets one from. -/
def shownValues (fields : Fields) : List Value :=
  let source := valueOf fields "source"
  let target := valueOf fields "target"
  let id := valueOf fields "id"
  if isMissing source || isMissing target then [source, target]
  else if isMissing id then [source, target, valueOf fields "type", valueOf fields "label"]
  else [source, target, id]

/-- Reads a connection from its fields, which can be shown. -/
def connect (index : Nat) (bases : List String) (fields : Fields) :
    Except DocumentError (Connection × Option String) :=
  let source := valueOf fields "source"
  let target := valueOf fields "target"
  if isMissing source || isMissing target then
    let present := if isMissing source then target else source
    .ok (.dropped (if isMissing present then none else some present.shown), none)
  else do
    let settled := settleFields fields source.shown target.shown
    let id := valueOf settled "id"
    let (name, base) : String × Option String :=
      if isMissing id then
        let base := baseId source.shown target.shown (valueOf settled "type").shown
          (labelText (valueOf settled "label"))
        (numberedId base (bases.count base), some base)
      else (id.shown, none)
    let edge ← (Relationship.ofFields (Fields.put "id" (.str name) settled)).orError
      (.invalidConnection index)
    return (.edge edge, base)

/-- Reads a connection. `bases` are those of the connections in front of it that got an id; the
base of this one is returned if it gets one too. -/
def readConnection (index : Nat) (bases : List String) :
    Value → Except DocumentError (Connection × Option String)
  | .obj fields => do
    ensureShowable (shownValues fields)
    connect index bases fields
  | v => .error (.badConnection index v.kind)

/-- Reads connections, the first of which has the given index and comes after the given bases. -/
def readConnections (index : Nat) (bases : List String) :
    List Value → Except DocumentError (List Connection)
  | [] => .ok []
  | v :: rest => do
    let (connection, base) ← readConnection index bases v
    let others ← readConnections (index + 1) (bases ++ base.toList) rest
    return connection :: others

/-- The diagnostics for the connections that were dropped. -/
def connectionNotes (connections : List Connection) : List Diagnostic :=
  connections.zipIdx.filterMap fun p =>
    match p.1 with
    | .dropped present => some ⟨.looseConnection p.2, present, none⟩
    | .edge _ => none

/-- The edges that connections become. -/
def edges (connections : List Connection) : List Relationship :=
  connections.filterMap fun
    | .edge r => some r
    | .dropped _ => none

/-! ## Documents -/

/-- Reads a diagram from the fields of a document. -/
def readDiagram (fields : Fields) : Except DocumentError (Noted Diagram) := do
  let elements ← container fields "elements"
  let connections ← container fields "connections"
  let read ← elements.zipIdx.mapM fun p => readElement p.2 p.1
  let nodes := read.filterMap fun n => n
  let isTable (c : ClassNode) : Bool := c.stereotype = some tableStereotype
  let connections ← readConnections 0 [] connections
  let diagram : Diagram :=
    { classes := (nodes.map (·.value)).filter fun c => !isTable c
      relationships := edges connections
      associationTables := ((nodes.map (·.value)).filter isTable).map toTable }
  return ⟨diagram, nodes.flatMap (·.notes) ++ connectionNotes connections⟩

/-- Where a document comes from. -/
inductive Source where
  /-- A text. -/
  | text (s : String)
  /-- Bytes in some encoding. -/
  | bytes (bytes : Text.Bytes)
  /-- An object that is decoded already. -/
  | object (fields : Fields)

/-- The fields of the object that a document holds. -/
def Source.fields : Source → Except DocumentError Fields
  | .object fields => .ok fields
  | .text s => ofRead (Value.read s)
  | .bytes b => ofRead (Value.readBytes b)
where
  /-- The fields of what was read, if it is an object. -/
  ofRead : Except ReadError Value → Except DocumentError Fields
    | .ok (.obj fields) => .ok fields
    | .ok v => .error (.notObject v.kind)
    | .error e => .error (.notJson e)

end Document

/-- Reads a diagram from a document. -/
def Diagram.parse (source : Document.Source) : Except DocumentError (Noted Diagram) :=
  source.fields >>= Document.readDiagram

end Scaffold
