import Scaffold.Backend.Artifact

/-!
# Sessions

A session drives the generators one by one. It holds the context of a diagram and the diagnostics
that have been recorded so far. A step generates one file, looks something up, or takes something
out of the predictions, which later steps then go without.
-/

namespace Scaffold

/-- The files that are generated for a class. -/
inductive ClassFile where
  /-- The entity. -/
  | entity
  /-- The transfer object. -/
  | dto
  /-- The mapper. -/
  | mapper
  /-- The repository. -/
  | repository
  /-- The service. -/
  | service
  /-- The implementation of the service. -/
  | serviceImplementation
  /-- The controller. -/
  | controller
  deriving DecidableEq

/-- The text of a file of a class. -/
def ClassFile.write (ctx : Context) (c : ClassNode) : ClassFile → Generation String
  | .entity => Scaffold.entity ctx c
  | .dto => return Scaffold.dto ctx c
  | .mapper => (Scaffold.mapper ctx c : Noted _)
  | .repository => return Scaffold.repository ctx c
  | .service => return Scaffold.service ctx c
  | .serviceImplementation => (Scaffold.serviceImplementation ctx c : Noted _)
  | .controller => (Scaffold.controller ctx c : Noted _)

/-- How a class is named in a step. -/
inductive ClassRef where
  /-- By its name. -/
  | named (name : String)
  /-- By its id. -/
  | withId (id : String)
  deriving DecidableEq

/-- The class that is named. -/
def ClassRef.find? (d : Diagram) : ClassRef → Option ClassNode
  | .named name => d.classByName name
  | .withId id => d.classById id

/-- The parts of a prediction from which something can be taken. -/
inductive PredictionPart where
  /-- The accessors of the entity. -/
  | entityAll
  /-- The accessors of the transfer object. -/
  | dtoAll
  /-- The methods of the repository. -/
  | repositoryMethods
  /-- The methods of the service. -/
  | serviceMethods
  deriving DecidableEq

namespace Prediction

/-- Whether a part of a prediction has a name. -/
def has (p : Prediction) (name : String) : PredictionPart → Bool
  | .entityAll => p.entityAll.has name
  | .dtoAll => p.dtoAll.has name
  | .repositoryMethods => name ∈ p.repositoryMethods
  | .serviceMethods => name ∈ p.serviceMethods

/-- The prediction without a name in a part. -/
def withhold (p : Prediction) (name : String) : PredictionPart → Prediction
  | .entityAll => { p with entityAll := p.entityAll.erase name }
  | .dtoAll => { p with dtoAll := p.dtoAll.erase name }
  | .repositoryMethods => { p with repositoryMethods := p.repositoryMethods.filter (· ≠ name) }
  | .serviceMethods => { p with serviceMethods := p.serviceMethods.filter (· ≠ name) }

/-- Whether a method reads and whether it writes a field: in the entity, then in the transfer
object. -/
def accessFlags (p : Prediction) (field method : String) : List Bool :=
  [p.entityAll, p.dtoAll].flatMap fun s =>
    [(s.get? field).any fun a => a.getter = method, (s.get? field).any fun a => a.setter = method]

end Prediction

/-- The steps of a session. -/
inductive Step where
  /-- Generates a file of a class. -/
  | write (file : ClassFile) (c : ClassRef)
  /-- Generates the join entity of an association table. -/
  | joinEntity (table : String)
  /-- Shows the key columns of an association table. -/
  | keyColumns (table : String)
  /-- Takes a name out of a prediction. -/
  | withhold (c : ClassRef) (part : PredictionPart) (name : String)
  /-- Asks what a method is predicted to do with a field. -/
  | access (c : ClassRef) (field method : String)
  /-- Asks whether one of two classes is an ancestor of the other. -/
  | related (c other : ClassRef)
  /-- Shows the kind of an edge; a negative index counts from the end. -/
  | classify (index : Int)
  /-- Shows the context. -/
  | context
  /-- Reports the problems of the diagram. -/
  | lint
  /-- Shows an import statement. -/
  | importOf (group name : String)
  /-- Records a diagnostic. -/
  | report (code : Code) (message : String) (classId field : Option String)
  /-- Shows the diagnostics with a code. -/
  | byCode (code : String)
  /-- Generates all files afresh. -/
  | generate (queryLimit : Int)
  /-- Something else. -/
  | unknown (name : String)

/-- What a step answers. -/
inductive Reply where
  /-- A text. -/
  | text (s : String)
  /-- Key columns. -/
  | columns (columns : List JoinEntity.KeyColumn)
  /-- A number. -/
  | count (n : Nat)
  /-- Truth values. -/
  | flags (flags : List Bool)
  /-- A truth value. -/
  | truth (b : Bool)
  /-- An edge with its kind. -/
  | relation (relation : Relation)
  /-- A context. -/
  | context (ctx : Context)
  /-- Diagnostics. -/
  | notes (notes : List Diagnostic)
  /-- A diagnostic. -/
  | note (note : Diagnostic)
  /-- Artifacts. -/
  | artifacts (artifacts : List Artifact)

/-- Why a step has no answer. -/
inductive StepError where
  /-- There is no such class or table, where one with the given feature is needed. -/
  | missing (feature : String)
  /-- There is no edge with the index. -/
  | outOfRange
  /-- A column length is too long to be read, or an integer to be shown. -/
  | hugeLength (error : Constraint.HugeLength)
  /-- There is no such step. -/
  | unknown (name : String)
  deriving DecidableEq

/-- The wording of a step's error. -/
def StepError.message : StepError → String
  | .missing feature => s!"'NoneType' object has no attribute '{feature}'"
  | .outOfRange => "tuple index out of range"
  | .hugeLength error => error.message
  | .unknown name => s!"'{name}'"

/-- A context and the diagnostics that have been recorded. -/
structure Session where
  /-- The context. -/
  context : Context
  /-- The diagnostics, oldest first. -/
  notes : List Diagnostic

namespace Session

/-- The feature of a class that a file needs first. -/
def neededFeature : ClassFile → String
  | .entity | .mapper | .repository => "id"
  | .dto | .service | .serviceImplementation | .controller => "name"

/-- A session after a diagram has been read and its context built. -/
def start (d : Noted Diagram) (basePackage : String) (queryLimit : Int) : Session :=
  let ctx := Context.build d.value basePackage queryLimit
  ⟨ctx.value, d.notes ++ ctx.notes⟩

/-- What a step leads to: the context after it, the diagnostics that it records, and its answer. -/
structure Outcome where
  /-- The context after the step. -/
  context : Context
  /-- The new diagnostics. -/
  newNotes : List Diagnostic := []
  /-- The answer. -/
  reply : Except StepError Reply

/-- The outcome of a step that generates something. -/
def ofGeneration {α : Type} (ctx : Context) (x : Generation α) (reply : α → Reply) : Outcome :=
  { context := ctx
    newNotes := x.run.notes
    reply :=
      match x.run.value with
      | .ok a => .ok (reply a)
      | .error e => .error (.hugeLength e) }

/-- The outcome of a step about a class. -/
def withClass (ctx : Context) (feature : String) (c : ClassRef) (f : ClassNode → Outcome) :
    Outcome :=
  match c.find? ctx.diagram with
  | some c => f c
  | none => { context := ctx, reply := .error (.missing feature) }

/-- The outcome of a step about an association table. -/
def withTable (ctx : Context) (feature name : String) (f : AssociationTable → Outcome) : Outcome :=
  match ctx.diagram.associationTables.find? (·.name = name) with
  | some t => f t
  | none => { context := ctx, reply := .error (.missing feature) }

/-- The member of a list at an index; a negative index counts from the end. -/
def itemAt? {α : Type} (l : List α) (index : Int) : Option α :=
  if 0 ≤ index then l[index.toNat]?
  else if index.natAbs ≤ l.length then l[l.length - index.natAbs]?
  else none

/-- What a step leads to. -/
def outcome (s : Session) : Step → Outcome
  | .write file c =>
    withClass s.context (neededFeature file) c fun c =>
      ofGeneration s.context (file.write s.context c) .text
  | .joinEntity table =>
    withTable s.context "name" table fun t =>
      ofGeneration s.context (joinEntity s.context t : Noted _) .text
  | .keyColumns table =>
    withTable s.context "foreign_keys" table fun t =>
      { context := s.context, reply := .ok (.columns (Scaffold.keyColumns s.context t)) }
  | .withhold c part name =>
    withClass s.context "id" c fun c =>
      { context := s.context.modifyPrediction c fun p => p.withhold name part
        reply := .ok (.count (if (s.context.prediction c).has name part then 1 else 0)) }
  | .access c field method =>
    withClass s.context "id" c fun c =>
      { context := s.context
        reply := .ok (.flags ((s.context.prediction c).accessFlags field method)) }
  | .related c other =>
    withClass s.context "id" c fun a =>
      withClass s.context "id" other fun b =>
        { context := s.context, reply := .ok (.truth (s.context.hierarchy.related a b)) }
  | .classify index =>
    { context := s.context
      reply :=
        match itemAt? s.context.diagram.relations index with
        | some r => .ok (.relation r)
        | none => .error .outOfRange }
  | .context => { context := s.context, reply := .ok (.context s.context) }
  | .lint =>
    let notes := s.context.diagram.lint s.context.hierarchy.forest.childIds
    { context := s.context, newNotes := notes, reply := .ok (.notes notes) }
  | .importOf group name =>
    { context := s.context, reply := .ok (.text (s.context.importOf group name)) }
  | .report code message classId field =>
    let note : Diagnostic := ⟨.remark code message, classId, field⟩
    { context := s.context, newNotes := [note], reply := .ok (.note note) }
  | .byCode code =>
    { context := s.context
      reply := .ok (.notes (s.notes.filter fun n => n.code.word = code)) }
  | .generate queryLimit =>
    let request : Request := ⟨some s.context.basePackage, some queryLimit⟩
    ofGeneration s.context (request.generate {} s.context.diagram) .artifacts
  | .unknown name => { context := s.context, reply := .error (.unknown name) }

/-- The session after a step. -/
def step (s : Session) (x : Step) : Session :=
  ⟨(s.outcome x).context, s.notes ++ (s.outcome x).newNotes⟩

/-- The outcomes of some steps, one after the other. -/
def run (s : Session) : List Step → List Outcome
  | [] => []
  | x :: rest => s.outcome x :: (s.step x).run rest

end Session

end Scaffold
