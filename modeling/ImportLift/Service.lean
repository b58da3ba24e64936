-- The service: it says that it is well, converts a component that comes with
-- the request, and migrates a file or a tree. A response has a status and a
-- body.
import ImportLift.Migration
import ImportLift.Service.Request
import ImportLift.Service.Target

namespace ImportLift.Service

/-- The name under which the service is known. -/
def title : Text := "htmlimport2esm Service"

/-! ## Responses -/

inductive Body
  | empty
  | plain (text : Text)
  | data (value : Data)

structure Response where
  status : Nat
  body : Body

/-- An object with the given fields. -/
def object (fields : List (Text × Data)) : Data :=
  .mapping (fields.map fun (name, value) => (.text name, value))

/-- A text, or null when there is none. -/
def textOrNone : Option Text → Data
  | none => .null
  | some value => .text value

/-- A response that only says why. -/
def refusal (status : Nat) (detail : Text) : Response :=
  ⟨status, .data (object [("detail", .text detail)])⟩

def notFound : Response := refusal 404 "Not Found"

def methodNotAllowed : Response := refusal 405 "Method Not Allowed"

/-- The response to what the service was not made for. -/
def broken : Response := ⟨500, .plain "Internal Server Error"⟩

/-- What cannot be sent: a number past the numbers, or a text with a half of a
pair of surrogates. -/
def isUnwritable : Data → Bool
  | .real (.infinite _) | .real .notNumber => true
  | .text value => value.contains Json.loneHalf
  | _ => false

/-- The response as it can be sent: one that holds what cannot be sent breaks. -/
def Response.sent (r : Response) : Response :=
  match r.body with
  | .data value => if value.anyPart isUnwritable then broken else r
  | _ => r

/-- A problem as data: where it is, and of which kind. -/
def Problem.view (p : Problem) : Data :=
  let place := "body".toList :: p.field.toList
  object [("loc", .list (place.map .text)), ("type", .text p.kind.code)]

/-- The response to a request with problems. It quotes what was found, so it
breaks where that cannot be written. -/
def invalid (problems : List Problem) : Response :=
  if problems.any fun p => p.found.anyPart isUnwritable then broken
  else ⟨422, .data (.list (problems.map Problem.view))⟩

def healthy : Response := ⟨200, .data (object [("status", .text "ok")])⟩

/-- The response on a conversion. -/
def converted (result : Except Failure Module) : Response :=
  let view (status : Text) (identity output reason detail : Option Text) : Response :=
    ⟨200, .data (object [("status", .text status), ("identity", textOrNone identity),
      ("output", textOrNone output), ("reason", textOrNone reason),
      ("detail", textOrNone detail)])⟩
  match result with
  | .ok m => view "ok" (some m.identity) (some m.text) none none
  | .error f => view "failed" none none (some f.kind.code) (some f.message)

/-- A pair that was not converted, as data. -/
def failureView (o : Outcome) : Data :=
  match o.result with
  | .ok _ => .null
  | .error f =>
    object [("path", .text o.pair.target.render), ("reason", .text f.kind.code),
      ("detail", .text f.message)]

/-- The response on a migration. -/
def migrated (r : Report) : Response :=
  ⟨200, .data (object
    [("status", .text (if r.success then "ok" else "partial")),
      ("converted", .list (r.converted.map fun o => .text o.pair.target.render)),
      ("failed", .list (r.failed.map failureView)),
      ("dry_run", .bool r.dryRun)])⟩

/-- The response on a migration that cannot start or go on. -/
def troubled (trouble : Migration.Trouble) : Response :=
  match trouble with
  | .notFound _ => refusal 404 trouble.message
  | .settings fault =>
    match fault with
    | .document .malformed | .noMapping | .negativeDepth => refusal 400 fault.message
    | .unreadable (.file (.missing _)) => refusal 404 fault.message
    | _ => broken
  | _ => broken

/-! ## Routes -/

inductive Route
  | health
  | convert
  | migrate
deriving DecidableEq, Repr

namespace Route

def every : List Route := [health, convert, migrate]

def path : Route → Text
  | health => "/health"
  | convert => "/convert"
  | migrate => "/migrate"

def method : Route → Text
  | health => "GET"
  | convert | migrate => "POST"

/-- The path is that of the route. A line feed at its end does not count. -/
def fits (path : Text) (r : Route) : Bool := path = r.path || path = r.path ++ ['\n']

/-- The route of a reference. Slashes at the end of its path do not count. -/
def of? (reference : Text) : Option Route :=
  let path := Target.pathOf reference
  (every.find? (fits path)).or (every.find? (fits (Text.trimMarkEnd '/' path)))

end Route

/-! ## Answering -/

/-- The response to content that is read by `read` and answered by `reply`. -/
def withFields {α : Type} (t : FileTree) (content : Content)
    (read : Fields → Except (List Problem) α) (reply : α → Response × FileTree) :
    Response × FileTree :=
  match content, content.fields with
  | .unreadable, _ => (refusal 400 "There was an error parsing the body", t)
  | _, .error problem => (invalid [problem], t)
  | _, .ok fields =>
    match read fields with
    | .error problems => (invalid problems, t)
    | .ok request => reply request

/-- Converts the component of a request. -/
def convert (request : ConvertRequest) : Response :=
  let options : Options := {}
  converted (Conversion.convert (options.withLibrarySegment request.librarySegment) .ofModules
    request.script request.html request.fileName)

/-- Migrates what a request asks for. Its path is read in a directory. -/
def migrate (t : FileTree) (dir : Path) (request : MigrateRequest) : Response × FileTree :=
  let run : Migration.Request :=
    { path := Path.joined dir request.path, asked := request.path, dryRun := request.dryRun }
  match Migration.run t run with
  | .error trouble => (troubled trouble, t)
  | .ok (report, t) => (migrated report, t)

/-- The response to a request, and the tree afterwards. -/
def respond (t : FileTree) (dir : Path) (request : Request) : Response × FileTree :=
  match Route.of? request.target with
  | none => (notFound, t)
  | some route =>
    if request.verb ≠ route.method then (methodNotAllowed, t)
    else
      match route with
      | .health => (healthy, t)
      | .convert =>
        withFields t request.content ConvertRequest.ofFields fun r => (convert r, t)
      | .migrate =>
        withFields t request.content MigrateRequest.ofFields (migrate t dir)

/-- The response as it is sent: one to a request for the head alone has no body. -/
def answer (t : FileTree) (dir : Path) (request : Request) : Response × FileTree :=
  let (response, t) := respond t dir request
  let response := response.sent
  if request.verb = "HEAD".toList then (⟨response.status, .empty⟩, t)
  else (response, t)

end ImportLift.Service
