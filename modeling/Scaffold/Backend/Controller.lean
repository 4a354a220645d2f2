import Scaffold.Backend.Basic

/-!
# Controllers

The controller of a class offers the operations of the service over HTTP. Every answer is an
envelope with the fields `success`, `data` and `message`. There is an endpoint for each query by
value that is predicted for the service, and one for each reference whose accessors are predicted;
other references are reported.

Main statement: `navigated_predicted` (an endpoint for a reference calls nothing that is not
predicted).
-/

namespace Scaffold

open Naming Java Text

namespace Controller

/-- The beginning of the paths of all endpoints. -/
def apiRoot : String := "/api"

/-- The fields of a controller and the names that it uses often. -/
structure Names where
  /-- The class. -/
  entity : String
  /-- Its transfer object. -/
  dto : String
  /-- The type of its key. -/
  key : String
  /-- The field that holds the service. -/
  service : String
  /-- The field that holds the mapper. -/
  mapper : String
  /-- The expression for the message that nothing was found. -/
  notFound : String

/-- The names that the controller of a class uses. -/
def names (ctx : Context) (c : ClassNode) : Names where
  entity := c.name
  dto := dtoName c.name
  key := (ctx.entityKey c).javaType.name
  service := camelCase c.name ++ "Service"
  mapper := camelCase c.name ++ "Mapper"
  notFound := s!"\"{c.name} not found with id \" + id"

/-! ## Endpoints -/

/-- The code of an endpoint: the body is tried, and an exception becomes an answer. -/
def endpoint (route head : String) (body : Lines) : Lines :=
  route ::
    braced s!"public ResponseEntity<Map<String, Object>> {head}"
      ((["try \x7b"] ++ indented 1 body) ++
        braced "\x7d catch (Exception e)" ["return handleError(e);"])

/-- The statement that answers. -/
def respond (status data message : String) : String :=
  s!"return respond(HttpStatus.{status}, {data}, {message});"

/-- A message that starts with the name of the class. -/
def about (name text : String) : String := s!"\"{name} {text}\""

/-- An endpoint that saves an entity. -/
def saving (n : Names) (route head call status text : String) : Lines :=
  endpoint route head
    [s!"{n.entity} saved = {n.service}.{call};",
      respond status s!"{n.mapper}.toDTO(saved)" (about n.entity text)]

/-- The endpoints that every controller has. -/
def basicEndpoints (n : Names) : List Lines :=
  let byId := "(\"/\x7bid\x7d\")"
  let idParameter := s!"@PathVariable {n.key} id"
  let bodyParameter := s!"@RequestBody {n.dto} dto"
  let received := s!"{n.mapper}.toEntity(dto)"
  [endpoint "@GetMapping" "getAll()"
      [s!"List<{n.dto}> items = {n.mapper}.toDTOList({n.service}.findAll());",
        respond "OK" "items" (about n.entity "list retrieved successfully")],
    endpoint s!"@GetMapping{byId}" s!"getById({idParameter})"
      [s!"return {n.service}.findById(id)",
        s!"        .map(found -> respond(HttpStatus.OK, {n.mapper}.toDTO(found), " ++
          about n.entity "found" ++ "))",
        s!"        .orElseGet(() -> respond(HttpStatus.NOT_FOUND, null, {n.notFound}));"],
    saving n "@PostMapping" s!"create({bodyParameter})" s!"create({received})" "CREATED"
      "created successfully",
    saving n s!"@PutMapping{byId}" s!"update({idParameter}, {bodyParameter})"
      s!"update(id, {received})" "OK" "updated successfully",
    saving n s!"@PatchMapping{byId}" s!"partialUpdate({idParameter}, {bodyParameter})"
      s!"partialUpdate(id, {received})" "OK" "updated successfully",
    endpoint s!"@DeleteMapping{byId}" s!"delete({idParameter})"
      [s!"{n.service}.delete(id);", respond "OK" "null" (about n.entity "deleted successfully")],
    endpoint "@DeleteMapping(\"/batch\")" s!"deleteBatch(@RequestBody List<{n.key}> ids)"
      (braced s!"for ({n.key} id : ids)" [s!"{n.service}.delete(id);"] ++
        [respond "OK" "ids.size()" (about n.entity "batch deleted successfully")]),
    endpoint "@GetMapping(\"/count\")" "count()"
      [respond "OK" s!"{n.service}.count()" (about n.entity "count retrieved successfully")],
    endpoint "@GetMapping(\"/exists/\x7bid\x7d\")" s!"exists({idParameter})"
      [respond "OK" s!"{n.service}.existsById(id)" (about n.entity "existence checked")]]

/-- The margin of the templates of controllers. -/
def margin : Nat := 3

/-- The beginning of a controller, up to the end of the endpoints that every controller has. -/
def opening (n : Names) : Lines :=
  let path := apiRoot ++ "/" ++ kebabCase n.entity
  let fields := s!"{n.entity}Service {n.service}, {n.entity}Mapper {n.mapper}"
  template margin 0 <|
    ["@RestController", s!"@RequestMapping(\"{path}\")", "@CrossOrigin(origins = \"*\")",
      s!"public class {n.entity}Controller \x7b", ""] ++
      indented 1
        ([s!"private final {n.entity}Service {n.service};",
            s!"private final {n.entity}Mapper {n.mapper};", ""] ++
          braced s!"public {n.entity}Controller({fields})"
            [s!"this.{n.service} = {n.service};", s!"this.{n.mapper} = {n.mapper};"] ++
          (basicEndpoints n).flatMap fun lines => "" :: lines)

/-! ## Queries -/

/-- A query by value that has an endpoint. -/
structure Search where
  /-- The query. -/
  query : Query
  /-- The type of the value. -/
  type : JavaType
  /-- The path of the endpoint. -/
  path : String
  /-- The parameter of the endpoint. -/
  parameter : String
  /-- The argument of the query. -/
  argument : String

/-- How a value of a type is read from a request, if that has to be said. -/
def dateFormat : JavaType → String
  | .localDate => "@DateTimeFormat(iso = DateTimeFormat.ISO.DATE) "
  | .localDateTime => "@DateTimeFormat(iso = DateTimeFormat.ISO.DATE_TIME) "
  | _ => ""

/-- The search by a column. -/
def scalarSearch (m : ScalarMember) : Search where
  query := ⟨.find, m.fieldName, .value m.javaType⟩
  type := m.javaType
  path := "/search/" ++ kebabCase m.fieldName
  parameter := s!"@RequestParam {dateFormat m.javaType}{m.javaType.name} value"
  argument := "value"

/-- The search by the key of a referenced entity. -/
def referenceSearch? (r : ReferenceMember) : Option Search :=
  r.keyQuery?.map fun q =>
    { query := q, type := r.targetKey.javaType
      path := "/by-" ++ kebabCase r.fieldName ++ "/\x7brelatedId\x7d"
      parameter := s!"@PathVariable {r.targetKey.javaType.name} relatedId"
      argument := "relatedId" }

/-- The searches whose queries are predicted for the service of a class. -/
def predictedSearches (ctx : Context) (c : ClassNode) (l : List Search) : List Search :=
  l.filter fun s => s.query.name ∈ (ctx.prediction c).serviceMethods

/-- The searches by columns that have an endpoint. -/
def scalarSearches (ctx : Context) (c : ClassNode) : List Search :=
  predictedSearches ctx c ((ctx.queried c).map scalarSearch)

/-- The searches by keys of referenced entities that have an endpoint. -/
def referenceSearches (ctx : Context) (c : ClassNode) : List Search :=
  predictedSearches ctx c ((ctx.membersOf c).references.filterMap referenceSearch?)

/-- The margin of the templates for searches. -/
def searchMargin : Nat := 2

/-- The endpoint of a search. -/
def searchEndpoint (n : Names) (s : Search) : Lines :=
  let items := s!"{n.mapper}.toDTOList({n.service}.{s.query.name}({s.argument}))"
  template searchMargin 1 <|
    endpoint s!"@GetMapping(\"{s.path}\")" s!"{s.query.name}({s.parameter})"
      [respond "OK" items (about n.entity "search completed")]

/-! ## References -/

/-- The call that reads a reference. -/
def referenceRead (c : ClassNode) (r : ReferenceMember) : AccessorCall :=
  ⟨c, .entity, .read, r.fieldName⟩

/-- The call that reads the key of a referenced entity. -/
def keyRead (r : ReferenceMember) : AccessorCall :=
  ⟨r.target, .entity, .read, r.targetKey.fieldName⟩

/-- The references that have an endpoint. -/
def navigated (ctx : Context) (c : ClassNode) : Noted (List ReferenceMember) :=
  keepFree
    (fun r =>
      ctx.obstacle? [referenceRead c r, keyRead r]
        ⟨.notNavigable c.name r.fieldName, some c.id, some r.fieldName⟩)
    (ctx.chainReferences c)

theorem navigated_predicted {ctx : Context} {c : ClassNode} {r : ReferenceMember}
    (h : r ∈ (navigated ctx c).value) :
    ∀ call ∈ [referenceRead c r, keyRead r], ctx.predicts call = true :=
  Context.obstacle?_eq_none_iff.1 (mem_keepFree.1 h).2

/-- The margin of the templates for references. -/
def referenceMargin : Nat := 4

/-- The code that follows a reference. -/
def followReference (n : Names) (c : ClassNode) (r : ReferenceMember) : Statements :=
  let missing := s!"\"{n.entity} \" + id + \" has no {r.fieldName}\""
  ([s!"{n.entity} found = {n.service}.findById(id)",
      s!"        .orElseThrow(() -> new EntityNotFoundException({n.notFound}));",
      s!"{r.target.name} related = " ++ (referenceRead c r).code "found" ++ ";"] : Statements) ++
    Statements.braced "if (related == null)" [respond "NOT_FOUND" "null" missing] ++
    (["Map<String, Object> data = new HashMap<>();",
      "data.put(\"id\", " ++ (keyRead r).code "related" ++ ");",
      respond "OK" "data" (about r.target.name "retrieved successfully")] : Statements)

/-- The endpoint of a reference. It is called like the accessor that reads the reference. -/
def referenceEndpoint (n : Names) (c : ClassNode) (r : ReferenceMember) : Lines :=
  let path := kebabCase r.fieldName
  template referenceMargin 1 <|
    endpoint s!"@GetMapping(\"/\x7bid\x7d/{path}\")"
      s!"{(referenceRead c r).method}(@PathVariable {n.key} id)" (followReference n c r).written

/-! ## Files -/

/-- The methods that make answers. -/
def answers : Lines :=
  braced
      ("private ResponseEntity<Map<String, Object>> " ++
        "respond(HttpStatus status, Object data, String message)")
      ["Map<String, Object> body = new HashMap<>();",
        "body.put(\"success\", status.is2xxSuccessful());",
        "body.put(\"data\", data);",
        "body.put(\"message\", message);",
        "return ResponseEntity.status(status).body(body);"] ++
    [""] ++
    braced "private ResponseEntity<Map<String, Object>> handleError(Exception e)"
      ("HttpStatus status = HttpStatus.INTERNAL_SERVER_ERROR;" ::
        ["if (e instanceof EntityNotFoundException) \x7b",
          "    status = HttpStatus.NOT_FOUND;"] ++
        braced "\x7d else if (e instanceof IllegalArgumentException)"
          ["status = HttpStatus.BAD_REQUEST;"] ++
        ["return respond(status, null, e.getMessage());"])

/-- The imports of a controller. -/
def imports (ctx : Context) (c : ClassNode) (references : List ReferenceMember) : List String :=
  let scalars := (scalarSearches ctx c).map (·.type)
  [ctx.groupImport .entities c.name, ctx.groupImport .dto (dtoName c.name),
    ctx.groupImport .mappers (c.name ++ "Mapper"),
    ctx.groupImport .services (c.name ++ "Service"),
    "jakarta.persistence.EntityNotFoundException", "org.springframework.http.HttpStatus",
    "org.springframework.http.ResponseEntity", "org.springframework.web.bind.annotation.*",
    "java.util.HashMap", "java.util.List", "java.util.Map"] ++
    (if scalars.all fun t => dateFormat t = "" then []
      else ["org.springframework.format.annotation.DateTimeFormat"]) ++
    references.map (fun r => ctx.groupImport .entities r.target.name) ++
    JavaType.imports
      ((ctx.entityKey c).javaType :: scalars ++ (referenceSearches ctx c).map (·.type))

/-- The source file of the controller of a class. -/
def file (ctx : Context) (c : ClassNode) : Noted SourceFile := do
  let n := names ctx c
  let references ← navigated ctx c
  return {
    package := ctx.groupPackage .controllers
    imports := imports ctx c references
    body := opening n ++
      (scalarSearches ctx c).flatMap (fun s => "" :: searchEndpoint n s) ++
      (referenceSearches ctx c).flatMap (fun s => "" :: searchEndpoint n s) ++
      references.flatMap (fun r => "" :: referenceEndpoint n c r) ++
      [""] ++ indented 1 answers ++ ["\x7d"] }

end Controller

/-- The text of the controller of a class. -/
def controller (ctx : Context) (c : ClassNode) : Noted String := do
  return (← Controller.file ctx c).text

end Scaffold
