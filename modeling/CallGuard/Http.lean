import CallGuard.Call.Bearer
import CallGuard.Call
import CallGuard.ConfigError
import CallGuard.Json.Printer
import CallGuard.Json.Reader
import CallGuard.Text.Percent

/-!
Calls over HTTP: a POST to `/service/method` with a JSON body. A stream is answered line by line, an
error item on a line like any other.
-/
namespace CallGuard.Http

structure Request where
  verb : String
  /-- A path, behind a server's address or without one. -/
  target : String
  headers : Metadata
  body : Bytes

structure Response where
  status : Nat
  contentType : Option String
  body : String
  deriving DecidableEq, Repr

/-- The answer to a request that no call can be made of. -/
def notFound : Response := ⟨404, none, ""⟩

/-- What a target has after the server that it names, if it names one. -/
def afterServer : List Char → List Char
  | '/' :: path => '/' :: path
  | ':' :: '/' :: '/' :: rest => rest.dropWhile fun c => c != '/' && c != '?' && c != '#'
  | _ :: rest => afterServer rest
  | [] => []

/-- The path in a target: neither the server in front of it nor a query or a fragment after it. -/
def pathOf (target : String) : String :=
  String.ofList ((afterServer target.toList).takeWhile fun c => c != '?' && c != '#')

/-- The service and the method in a path of two segments. Escapes are undone in the path first,
but for those of percent signs, slashes and pluses, and then all of them in each segment. -/
def segments? (target : String) : Option (String × String) :=
  match Text.pieces '/' (Text.Percent.decode "%/+" (pathOf target)).toList with
  | [[], service@(_ :: _), method@(_ :: _)] =>
    some (Text.Percent.decode "" (String.ofList service),
      Text.Percent.decode "" (String.ofList method))
  | _ => none

/-- The document in a body; an empty object in a body of nothing but white space. -/
def payload (body : Bytes) : Except Status Json :=
  if body.all fun b => Ascii.isSpace b || b == Ascii.formFeed then .ok (.obj [])
  else (Json.read body).mapError fun e => ⟨.invalidArgument, "invalid JSON body: " ++ e.message⟩

/-- The call that a request makes. Of its headers only the first credential is passed on. -/
def call (service method : String) (r : Request) : Except Status Call := do
  let m ← (Method.parse (service ++ "/" ++ method)).mapError fun _ => .unknownMethod
  let payload ← payload r.body
  let metadata ←
    match r.headers.get? Bearer.header with
    | none => .ok []
    | some value =>
      match Metadata.value? value with
      | some value => .ok [(Bearer.header, value)]
      | none => .error .invalidCredential
  return ⟨m, metadata, none, false, payload⟩

def statusJson (s : Status) : Json :=
  .obj [("code", .str s.code.name), ("message", .str s.message)]

/-- One line of a stream. -/
def line (item : Except Status Json) : String :=
  let v := match item with
    | .ok v => v
    | .error s => .obj [("error", statusJson s)]
  v.compact ++ "\n"

def respond : Except Status Reply → Response
  | .ok ⟨_, .message m⟩ => ⟨200, some "application/json", m.compact⟩
  | .ok ⟨_, .stream items⟩ => ⟨200, some "application/x-ndjson", String.join (items.map line)⟩
  | .error s => ⟨s.code.httpStatus, some "application/json", (statusJson s).compact⟩

/-- Answers requests with what answers calls. -/
def serve {σ : Type} (endpoint : Endpoint σ) (r : Request) (s : σ) : Response × σ :=
  if r.verb ≠ "POST" then (notFound, s)
  else
    match segments? r.target with
    | none => (notFound, s)
    | some (service, method) =>
      match call service method r with
      | .error status => (respond (.error status), s)
      | .ok call =>
        let (result, s) := endpoint call s
        (respond result, s)

end CallGuard.Http
