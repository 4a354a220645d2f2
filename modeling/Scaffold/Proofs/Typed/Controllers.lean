import Scaffold.Proofs.Typed.Services

/-!
# Controllers with their types

The file of a controller with the types told apart. A search has the type of the value that it
searches for, and an endpoint for a reference has the entity that it leads to.

Main statements: `Controller.artifact_typedFile` (the file is the one that is generated) and
`Controller.allTypes_typedFile` (the types in it).
-/

namespace Scaffold

open Naming Java Text TypedCode

namespace Controller

/-- The controller of a class in a line. -/
def controllerUse (c : ClassNode) : TypedLine := Group.controllers.use (c.name ++ "Controller")

/-! ## Endpoints -/

/-- The code of an endpoint: the body is tried, and an exception becomes an answer. -/
def typedEndpoint (route head : TypedLine) (body : TypedCode) : TypedCode :=
  lines [route] ++
    braced ("public ResponseEntity<Map<String, Object>> " ++ head)
      (lines ["try \x7b"] ++ indented 1 body ++
        braced "\x7d catch (Exception e)" (lines ["return handleError(e);"]))

/-- The statement that answers. -/
def typedRespond (status : String) (data message : TypedLine) : TypedLine :=
  "return respond(HttpStatus." ++ status ++ ", " ++ data ++ ", " ++ message ++ ");"

/-- A message that starts with the name of a class. -/
def typedAbout (name text : String) : TypedLine := "\"" ++ .word name ++ " " ++ text ++ "\""

section
variable (c : ClassNode) (key : TypedLine) (n : Names)

/-- An endpoint that saves an entity. -/
def typedSaving (route head call : TypedLine) (status text : String) : TypedCode :=
  typedEndpoint route head
    (lines [c.entityUse ++ " saved = " ++ .word n.service ++ "." ++ call ++ ";",
      typedRespond status (.word n.mapper ++ ".toDTO(saved)") (typedAbout n.entity text)])

/-- The endpoints that every controller has. -/
def typedBasicEndpoints : List TypedCode :=
  let byId := "(\"/\x7bid\x7d\")"
  let idParameter : TypedLine := "@PathVariable " ++ key ++ " id"
  let bodyParameter : TypedLine := "@RequestBody " ++ c.dtoUse ++ " dto"
  let received : TypedLine := .word n.mapper ++ ".toEntity(dto)"
  [typedEndpoint "@GetMapping" "getAll()"
      (lines ["List<" ++ c.dtoUse ++ "> items = " ++ .word n.mapper ++ ".toDTOList(" ++
          .word n.service ++ ".findAll());",
        typedRespond "OK" "items" (typedAbout n.entity "list retrieved successfully")]),
    typedEndpoint ("@GetMapping" ++ byId) ("getById(" ++ idParameter ++ ")")
      (lines ["return " ++ .word n.service ++ ".findById(id)",
        "        .map(found -> respond(HttpStatus.OK, " ++ .word n.mapper ++ ".toDTO(found), " ++
          typedAbout n.entity "found" ++ "))",
        "        .orElseGet(() -> respond(HttpStatus.NOT_FOUND, null, " ++ .word n.notFound ++
          "));"]),
    typedSaving c n "@PostMapping" ("create(" ++ bodyParameter ++ ")")
      ("create(" ++ received ++ ")") "CREATED" "created successfully",
    typedSaving c n ("@PutMapping" ++ byId)
      ("update(" ++ idParameter ++ ", " ++ bodyParameter ++ ")")
      ("update(id, " ++ received ++ ")") "OK" "updated successfully",
    typedSaving c n ("@PatchMapping" ++ byId)
      ("partialUpdate(" ++ idParameter ++ ", " ++ bodyParameter ++ ")")
      ("partialUpdate(id, " ++ received ++ ")") "OK" "updated successfully",
    typedEndpoint ("@DeleteMapping" ++ byId) ("delete(" ++ idParameter ++ ")")
      (lines [.word n.service ++ ".delete(id);",
        typedRespond "OK" "null" (typedAbout n.entity "deleted successfully")]),
    typedEndpoint "@DeleteMapping(\"/batch\")" ("deleteBatch(@RequestBody List<" ++ key ++ "> ids)")
      (braced ("for (" ++ key ++ " id : ids)") (lines [.word n.service ++ ".delete(id);"]) ++
        lines [typedRespond "OK" "ids.size()" (typedAbout n.entity "batch deleted successfully")]),
    typedEndpoint "@GetMapping(\"/count\")" "count()"
      (lines [typedRespond "OK" (.word n.service ++ ".count()")
        (typedAbout n.entity "count retrieved successfully")]),
    typedEndpoint "@GetMapping(\"/exists/\x7bid\x7d\")" ("exists(" ++ idParameter ++ ")")
      (lines [typedRespond "OK" (.word n.service ++ ".existsById(id)")
        (typedAbout n.entity "existence checked")])]

/-- The parameters of the constructor. -/
def typedParameters : TypedLine :=
  c.serviceUse ++ " " ++ .word n.service ++ ", " ++ c.mapperUse ++ " " ++ .word n.mapper

/-- The fields and the constructor. -/
def typedWiring : TypedCode :=
  lines ["private final " ++ c.serviceUse ++ " " ++ .word n.service ++ ";",
      "private final " ++ c.mapperUse ++ " " ++ .word n.mapper ++ ";", ""] ++
    braced ("public " ++ controllerUse c ++ "(" ++ typedParameters c n ++ ")")
      (lines ["this." ++ .word n.service ++ " = " ++ .word n.service ++ ";",
        "this." ++ .word n.mapper ++ " = " ++ .word n.mapper ++ ";"])

/-- The beginning of a controller, up to the end of the endpoints that every controller has. -/
def typedOpening : TypedCode :=
  let path := apiRoot ++ "/" ++ kebabCase n.entity
  template margin 0 <|
    lines ["@RestController", "@RequestMapping(\"" ++ .word path ++ "\")",
      "@CrossOrigin(origins = \"*\")", "public class " ++ controllerUse c ++ " \x7b", ""] ++
      indented 1
        (typedWiring c n ++ each (typedBasicEndpoints c key n) fun code => lines [""] ++ code)

end

theorem written_basicEndpoints (ctx : Context) (c : ClassNode) :
    (typedBasicEndpoints c (ctx.entityKey c).javaType.use (names ctx c)).map written =
      basicEndpoints (names ctx c) := rfl

theorem written_parameters (c : ClassNode) (n : Names) :
    (typedParameters c n).written =
      s!"{c.name}Service {n.service}, {c.name}Mapper {n.mapper}" := by
  have hservice : c.serviceUse.written ++ " " = c.name ++ "Service " := String.append_assoc ..
  have hmapper : "Mapper" ++ " " = "Mapper " := by decide
  calc (typedParameters c n).written
    _ = c.serviceUse.written ++ " " ++ n.service ++ ", " ++ (c.name ++ "Mapper") ++ " " ++
          n.mapper := rfl
    _ = c.name ++ "Service " ++ n.service ++ ", " ++ (c.name ++ "Mapper") ++ " " ++ n.mapper := by
      rw [hservice]
    _ = c.name ++ "Service " ++ n.service ++ ", " ++ c.name ++ "Mapper " ++ n.mapper := by
      rw [append_suffix hmapper]

theorem written_wiring (c : ClassNode) (n : Names) :
    let parameters := s!"{c.name}Service {n.service}, {c.name}Mapper {n.mapper}"
    (typedWiring c n).written =
      [s!"private final {c.name}Service {n.service};", s!"private final {c.name}Mapper {n.mapper};",
          ""] ++
        Java.braced s!"public {c.name}Controller({parameters})"
          [s!"this.{n.service} = {n.service};", s!"this.{n.mapper} = {n.mapper};"] := by
  intro parameters
  have hservice : "Service" ++ " " = "Service " := by decide
  have hmapper : "Mapper" ++ " " = "Mapper " := by decide
  have hbracket : "Controller" ++ "(" = "Controller(" := by decide
  have hserviceField : ("private final " ++ c.serviceUse ++ " " ++ .word n.service ++ ";").written =
      s!"private final {c.name}Service {n.service};" :=
    congrArg (· ++ n.service ++ ";") (append_suffix hservice "private final " c.name)
  have hmapperField : ("private final " ++ c.mapperUse ++ " " ++ .word n.mapper ++ ";").written =
      s!"private final {c.name}Mapper {n.mapper};" :=
    congrArg (· ++ n.mapper ++ ";") (append_suffix hmapper "private final " c.name)
  have hhead : ("public " ++ controllerUse c ++ "(" ++ typedParameters c n ++ ")").written =
      s!"public {c.name}Controller({parameters})" := by
    have hparameters : (typedParameters c n).written = parameters := written_parameters c n
    rw [← hparameters]
    exact congrArg (· ++ _ ++ ")") (append_suffix hbracket "public " c.name)
  simp only [typedWiring, TypedCode.written_append, written_lines, List.map_cons, List.map_nil,
    written_braced, hserviceField, hmapperField, hhead]
  rfl

theorem written_opening (ctx : Context) (c : ClassNode) :
    (typedOpening c (ctx.entityKey c).javaType.use (names ctx c)).written =
      opening (names ctx c) := by
  have hbrace : "Controller" ++ " \x7b" = "Controller \x7b" := by decide
  have hclass : ("public class " ++ controllerUse c ++ " \x7b").written =
      s!"public class {c.name}Controller \x7b" := append_suffix hbrace "public class " c.name
  simp only [opening, ← written_basicEndpoints, List.flatMap_map]
  simp only [typedOpening, TypedCode.written_append, written_template, written_indented,
    written_lines, List.map_cons, List.map_nil, written_each, hclass, written_wiring]
  rfl

/-! ## Queries -/

/-- The parameter of the search by a column of a type. -/
def typedValueParameter (t : JavaType) : TypedLine :=
  "@RequestParam " ++ dateFormat t ++ t.use ++ " value"

/-- The parameter of the search by a key of a type. -/
def typedKeyParameter (t : JavaType) : TypedLine := "@PathVariable " ++ t.use ++ " relatedId"

/-- The endpoint of a search with a parameter. -/
def typedSearchEndpoint (n : Names) (parameter : JavaType → TypedLine) (s : Search) : TypedCode :=
  let items : TypedLine := .word n.mapper ++ ".toDTOList(" ++ .word n.service ++ "." ++
    .word s.query.name ++ "(" ++ .word s.argument ++ "))"
  template searchMargin 1 <|
    typedEndpoint ("@GetMapping(\"" ++ .word s.path ++ "\")")
      (.word s.query.name ++ "(" ++ parameter s.type ++ ")")
      (lines [typedRespond "OK" items (typedAbout n.entity "search completed")])

theorem written_searchEndpoint (n : Names) {parameter : JavaType → TypedLine} {s : Search}
    (hparameter : (parameter s.type).written = s.parameter) :
    (typedSearchEndpoint n parameter s).written = searchEndpoint n s := by
  rw [searchEndpoint, ← hparameter]
  rfl

theorem parameter_of_mem_scalarSearches {ctx : Context} {c : ClassNode} {s : Search}
    (hs : s ∈ scalarSearches ctx c) : (typedValueParameter s.type).written = s.parameter := by
  obtain ⟨m, -, rfl⟩ := List.mem_map.1 (List.mem_of_mem_filter hs)
  rfl

theorem parameter_of_mem_referenceSearches {ctx : Context} {c : ClassNode} {s : Search}
    (hs : s ∈ referenceSearches ctx c) : (typedKeyParameter s.type).written = s.parameter := by
  obtain ⟨r, -, hr⟩ := List.mem_filterMap.1 (List.mem_of_mem_filter hs)
  obtain ⟨q, -, rfl⟩ := Option.map_eq_some_iff.1 hr
  rfl

/-! ## References -/

/-- The code that follows a reference. -/
def typedFollowReference (n : Names) (c : ClassNode) (r : ReferenceMember) : TypedCode :=
  let missing : TypedLine :=
    "\"" ++ .word n.entity ++ " \" + id + \" has no " ++ .word r.fieldName ++ "\""
  lines [c.entityUse ++ " found = " ++ .word n.service ++ ".findById(id)",
      "        .orElseThrow(() -> new EntityNotFoundException(" ++ .word n.notFound ++ "));",
      r.target.entityUse ++ " related = " ++ .call (referenceRead c r) "found" ++ ";"] ++
    braced "if (related == null)" (lines [typedRespond "NOT_FOUND" "null" missing]) ++
    lines ["Map<String, Object> data = new HashMap<>();",
      "data.put(\"id\", " ++ .call (keyRead r) "related" ++ ");",
      typedRespond "OK" "data" (typedAbout r.target.name "retrieved successfully")]

/-- The endpoint of a reference. -/
def typedReferenceEndpoint (n : Names) (c : ClassNode) (key : TypedLine) (r : ReferenceMember) :
    TypedCode :=
  template referenceMargin 1 <|
    typedEndpoint ("@GetMapping(\"/\x7bid\x7d/" ++ .word (kebabCase r.fieldName) ++ "\")")
      (.word (referenceRead c r).method ++ "(@PathVariable " ++ key ++ " id)")
      (typedFollowReference n c r)

theorem written_followReference (ctx : Context) (c : ClassNode) (r : ReferenceMember) :
    (typedFollowReference (names ctx c) c r).written =
      (followReference (names ctx c) c r).written := by
  simp only [followReference, Statements.written_append, Statements.written_braced,
    Statements.written_cons, Statements.written_nil, Line.written_append, Line.written_text,
    AccessorCall.written_code]
  rfl

theorem written_referenceEndpoint (ctx : Context) (c : ClassNode) (r : ReferenceMember) :
    (typedReferenceEndpoint (names ctx c) c (ctx.entityKey c).javaType.use r).written =
      referenceEndpoint (names ctx c) c r := by
  rw [referenceEndpoint, ← written_followReference]
  rfl

/-! ## Files -/

/-- The methods that make answers. -/
def typedAnswers : TypedCode :=
  braced
      ("private ResponseEntity<Map<String, Object>> " ++
        "respond(HttpStatus status, Object data, String message)")
      (lines ["Map<String, Object> body = new HashMap<>();",
        "body.put(\"success\", status.is2xxSuccessful());",
        "body.put(\"data\", data);",
        "body.put(\"message\", message);",
        "return ResponseEntity.status(status).body(body);"]) ++
    lines [""] ++
    braced "private ResponseEntity<Map<String, Object>> handleError(Exception e)"
      (lines ["HttpStatus status = HttpStatus.INTERNAL_SERVER_ERROR;",
          "if (e instanceof EntityNotFoundException) \x7b",
          "    status = HttpStatus.NOT_FOUND;"] ++
        braced "\x7d else if (e instanceof IllegalArgumentException)"
          (lines ["status = HttpStatus.BAD_REQUEST;"]) ++
        lines ["return respond(status, null, e.getMessage());"])

theorem written_answers : typedAnswers.written = answers := rfl

/-- The file of the controller of a class. -/
def typedFile (ctx : Context) (c : ClassNode) : TypedFile where
  group := .controllers
  name := c.name ++ "Controller"
  imports := imports ctx c (navigated ctx c).value
  code :=
    let n := names ctx c
    let key := (ctx.entityKey c).javaType.use
    typedOpening c key n ++
      each (scalarSearches ctx c)
        (fun s => lines [""] ++ typedSearchEndpoint n typedValueParameter s) ++
      each (referenceSearches ctx c)
        (fun s => lines [""] ++ typedSearchEndpoint n typedKeyParameter s) ++
      each (navigated ctx c).value (fun r => lines [""] ++ typedReferenceEndpoint n c key r) ++
      lines [""] ++ indented 1 typedAnswers ++ lines ["\x7d"]

theorem written_searches {n : Names} {parameter : JavaType → TypedLine} {l : List Search}
    (hl : ∀ s ∈ l, (parameter s.type).written = s.parameter) :
    (each l fun s => lines [""] ++ typedSearchEndpoint n parameter s).written =
      l.flatMap fun s => "" :: searchEndpoint n s := by
  rw [written_each]
  refine List.flatMap_congr fun s hs => ?_
  rw [TypedCode.written_append, written_searchEndpoint n (hl s hs), written_lines,
    List.map_singleton, List.singleton_append, TypedLine.written_text]

theorem artifact_typedFile (ctx : Context) (c : ClassNode) :
    (typedFile ctx c).artifact ctx =
      ⟨.controllers, c.name ++ "Controller", (controller ctx c).value⟩ := by
  have hscalars := written_searches (n := names ctx c)
    fun s (hs : s ∈ scalarSearches ctx c) => parameter_of_mem_scalarSearches hs
  have hreferences := written_searches (n := names ctx c)
    fun s (hs : s ∈ referenceSearches ctx c) => parameter_of_mem_referenceSearches hs
  have hbody : (typedFile ctx c).code.written = (file ctx c).value.body := by
    simp only [typedFile, TypedCode.written_append, written_indented, written_answers, hscalars,
      hreferences, written_opening]
    simp only [written_each, TypedCode.written_append, written_referenceEndpoint, written_lines,
      List.map_cons, List.map_nil, TypedLine.written_text, List.cons_append, List.nil_append]
    rfl
  exact TypedFile.artifact_eq hbody rfl rfl

section
variable {P : TypeUse → Prop} {ctx : Context} {c : ClassNode} {key : TypedLine} {n : Names}

@[simp] theorem allTypes_endpoint (route head : TypedLine) (body : TypedCode) :
    (typedEndpoint route head body).AllTypes P ↔
      route.AllTypes P ∧ head.AllTypes P ∧ body.AllTypes P := by
  simp (disch := first | exact rfl | decide) [typedEndpoint, isPlain_of_chars]

@[simp] theorem allTypes_respond (status : String) (data message : TypedLine) :
    (typedRespond status data message).AllTypes P ↔
      (isPlain status = true ∧ data.AllTypes P) ∧ message.AllTypes P := by
  simp (disch := first | exact rfl | decide) [typedRespond, isPlain_of_chars]

@[simp] theorem allTypes_about (name text : String) :
    (typedAbout name text).AllTypes P ↔ isPlain text = true := by
  simp (disch := first | exact rfl | decide) [typedAbout, isPlain_of_chars]

@[simp] theorem allTypes_saving (route head call : TypedLine) (status text : String) :
    (typedSaving c n route head call status text).AllTypes P ↔
      route.AllTypes P ∧ head.AllTypes P ∧
        (P (.generated .entities c.name) ∧ call.AllTypes P) ∧
          isPlain status = true ∧ isPlain text = true := by
  simp (disch := first | exact rfl | decide) [typedSaving, isPlain_of_chars]

theorem allTypes_basicEndpoints (hentity : P (.generated .entities c.name))
    (hdto : P (.generated .dto (dtoName c.name))) (hkey : key.AllTypes P) :
    ∀ code ∈ typedBasicEndpoints c key n, code.AllTypes P := by
  simp (disch := first | exact rfl | decide) [typedBasicEndpoints, isPlain_of_chars, hentity,
    hdto, hkey]

theorem allTypes_opening (hcontroller : P (.generated .controllers (c.name ++ "Controller")))
    (hservice : P (.generated .services (c.name ++ "Service")))
    (hmapper : P (.generated .mappers (c.name ++ "Mapper")))
    (hentity : P (.generated .entities c.name)) (hdto : P (.generated .dto (dtoName c.name)))
    (hkey : key.AllTypes P) : (typedOpening c key n).AllTypes P := by
  have hendpoints : ∀ code ∈ typedBasicEndpoints c key n, code.AllTypes P :=
    allTypes_basicEndpoints hentity hdto hkey
  simpa (disch := first | exact rfl | decide) [typedOpening, typedWiring, typedParameters,
    controllerUse,
    ClassNode.serviceUse, ClassNode.mapperUse, isPlain_of_chars, hcontroller, hservice, hmapper]
    using hendpoints

theorem allTypes_valueParameter {t : JavaType} (ht : P (.value t)) :
    (typedValueParameter t).AllTypes P := by
  have hformat : isPlain (dateFormat t) = true := by
    cases t <;> simp (disch := first | exact rfl | decide) [dateFormat, isPlain_of_chars]
  simp (disch := first | exact rfl | decide) [typedValueParameter, isPlain_of_chars, hformat, ht]

theorem allTypes_keyParameter {t : JavaType} (ht : P (.value t)) :
    (typedKeyParameter t).AllTypes P := by
  simp (disch := first | exact rfl | decide) [typedKeyParameter, isPlain_of_chars, ht]

theorem allTypes_searchEndpoint {parameter : JavaType → TypedLine} {s : Search}
    (hparameter : (parameter s.type).AllTypes P) :
    (typedSearchEndpoint n parameter s).AllTypes P := by
  simp (disch := first | exact rfl | decide) [typedSearchEndpoint, isPlain_of_chars, hparameter]

theorem allTypes_referenceEndpoint {r : ReferenceMember}
    (hentity : P (.generated .entities c.name)) (htarget : P (.generated .entities r.target.name))
    (hkey : key.AllTypes P) : (typedReferenceEndpoint n c key r).AllTypes P := by
  have hfollow : (typedFollowReference n c r).AllTypes P := by
    simp (disch := first | exact rfl | decide) [typedFollowReference, isPlain_of_chars, hentity,
      htarget]
  simp (disch := first | exact rfl | decide) [typedReferenceEndpoint, isPlain_of_chars, hkey,
    hfollow]

theorem allTypes_answers : typedAnswers.AllTypes P := by
  simp (disch := first | exact rfl | decide) [typedAnswers, isPlain_of_chars]

/-- The types in a controller are the controller, the service, the mapper, the transfer object, the
entity, the entities that are referenced, the type of the key, and those of the searches. -/
theorem allTypes_typedFile (hcontroller : P (.generated .controllers (c.name ++ "Controller")))
    (hservice : P (.generated .services (c.name ++ "Service")))
    (hmapper : P (.generated .mappers (c.name ++ "Mapper")))
    (hentity : P (.generated .entities c.name)) (hdto : P (.generated .dto (dtoName c.name)))
    (hkey : P (.value (ctx.entityKey c).javaType))
    (hscalars : ∀ s ∈ scalarSearches ctx c, P (.value s.type))
    (hreferences : ∀ s ∈ referenceSearches ctx c, P (.value s.type))
    (htargets : ∀ r ∈ (navigated ctx c).value, P (.generated .entities r.target.name)) :
    (typedFile ctx c).code.AllTypes P := by
  have hopening (n : Names) : (typedOpening c (ctx.entityKey c).javaType.use n).AllTypes P :=
    allTypes_opening hcontroller hservice hmapper hentity hdto ((JavaType.allTypes_use P _).2 hkey)
  have hscalarEndpoints : ∀ s ∈ scalarSearches ctx c, ∀ n,
      (typedSearchEndpoint n typedValueParameter s).AllTypes P :=
    fun s hs n => allTypes_searchEndpoint (allTypes_valueParameter (hscalars s hs))
  have hreferenceEndpoints : ∀ s ∈ referenceSearches ctx c, ∀ n,
      (typedSearchEndpoint n typedKeyParameter s).AllTypes P :=
    fun s hs n => allTypes_searchEndpoint (allTypes_keyParameter (hreferences s hs))
  have hnavigated : ∀ r ∈ (navigated ctx c).value, ∀ n,
      (typedReferenceEndpoint n c (ctx.entityKey c).javaType.use r).AllTypes P :=
    fun r hr n =>
      allTypes_referenceEndpoint hentity (htargets r hr) ((JavaType.allTypes_use P _).2 hkey)
  simpa (disch := first | exact rfl | decide) [typedFile, isPlain_of_chars, hopening,
    allTypes_answers]
    using ⟨⟨fun s hs => hscalarEndpoints s hs _, fun s hs => hreferenceEndpoints s hs _⟩,
    fun r hr => hnavigated r hr _⟩

end

end Controller

end Scaffold
