import Depot.Controller.Operations
import Depot.Http.Route

/-!
# The service

The resources of a model over HTTP. Each resource has five routes below its mount; beside them
are routes that tell about the service. A failed request is answered with its error, so a program
that answers a message never fails.

* `Service.build`: the routes of a model, or what is wrong with one of its resources.
* `Service.answer`: the response to a message.
-/

namespace Depot.Http

/-- A message as it comes in. -/
structure Message where
  method : String
  target : String
  headers : List (String × String)
  body : List UInt8

/-- A response; an empty body is none. -/
structure Response where
  status : Nat
  body : Option Json
  deriving DecidableEq

/-! ## Responses -/

namespace Response

/-- One instance. -/
def one (status : Nat) (r : Record) : Response := ⟨status, some (.obj [("data", .obj r)])⟩

/-- A page, with the number of instances on all pages. -/
def page (p : Page) : Response :=
  ⟨200, some (.obj [("data", .arr (p.items.map .obj)), ("meta", .obj [("count", .nat p.count)])])⟩

/-- A failed request. -/
def failure (e : RequestError) : Response := ⟨e.status, some e.body⟩

/-- A response without body. -/
def bare (status : Nat) : Response := ⟨status, none⟩

/-- A response without its body. -/
def head (r : Response) : Response := { r with body := none }

end Response

/-- The program that answers with the result of another one. -/
def respond {I : Interface} {α : Type} (f : α → Response) : Program I α → Program I Response
  | .done (.ok a) => .value (f a)
  | .done (.error e) => .value (.failure e)
  | .note text next => .note text (respond f next)
  | .call c next => .call c fun reply => respond f (next reply)

/-! ## Endpoints -/

/-- What a route leads to. -/
inductive Endpoint
  | index (c : Controller)
  | createOne (c : Controller)
  | getOne (c : Controller)
  | updateOne (c : Controller)
  | deleteOne (c : Controller)
  | health
  | ready
  | version
  | resources (listed : List ResourceConfig)

/-- The name of the service. -/
def serviceName : String := "resource-controller"

/-- The version of the service. -/
def serviceVersion : String := "0.1.0"

/-- The state of the service and of its store. -/
def probe (status store : String) : Json := .obj [("status", .str status), ("store", .str store)]

/-- The readiness of the service: it is degraded while its store does not answer. -/
def readiness : Program .store Response :=
  .call .ping fun
    | .ok () => .value ⟨200, some (probe "ok" "ok")⟩
    | .error _ => .value ⟨503, some (probe "degraded" "unavailable")⟩

/-- What is told of a resource. -/
def listing (r : ResourceConfig) : Json := .obj (Fields.ofList [
  ("name", .str r.name),
  ("entity", .str r.entity),
  ("mount", .str r.mount),
  ("key_path", .str (r.keyPath.getD defaultKeyPath)),
  ("searchable_fields", .arr (r.searchable.map .str))])

/-- The response of an endpoint. -/
def Endpoint.answer (r : Depot.Request) : Endpoint → Program .store Response
  | .index c => respond .page (c.index r)
  | .createOne c => respond (.one 201) (c.createOne r)
  | .getOne c => respond (.one 200) (c.getOne r)
  | .updateOne c => respond (.one 200) (c.updateOne r)
  | .deleteOne c => respond (fun () => .bare 204) (c.deleteOne r)
  | .health => .value ⟨200, some (.obj [("status", .str "ok")])⟩
  | .ready => readiness
  | .version => .value
      ⟨200, some (.obj [("name", .str serviceName), ("version", .str serviceVersion)])⟩
  | .resources listed => .value ⟨200, some (.obj [("data", .arr (listed.map listing))])⟩

/-! ## Routes -/

/-- The endpoints of a route, by method. -/
abbrev Methods := List (String × Endpoint)

/-- The routes of a service. -/
abbrev Service := List (Route × Methods)

namespace Service

/-- The routes of a resource below its mount. -/
def ofController (mount : String) (c : Controller) : Service :=
  [(.parse (mounted mount "/"), [("GET", .index c), ("POST", .createOne c)]),
    (.parse (mounted mount c.keyPath.route),
      [("GET", .getOne c), ("POST", .updateOne c), ("DELETE", .deleteOne c)])]

/-- The routes of resources, or what is wrong with the first that cannot be served. -/
def ofResources (m : Model) : List ResourceConfig → Except RequestError Service
  | [] => .ok []
  | r :: rest => do
    let c ← Controller.build m r.name r.entity (.ofConfig r)
    let routes ← ofResources m rest
    .ok (ofController (mountPath r.mount) c ++ routes)

/-- The routes that need no store. -/
def stateless : Service :=
  [(.parse "/health", [("GET", .health)]), (.parse "/version", [("GET", .version)])]

/-- The routes that tell about a model and its store. -/
def stateful (m : Model) : Service :=
  [(.parse "/ready", [("GET", .ready)]), (.parse "/resources", [("GET", .resources m.resources)])]

/-- The routes of a model; `withState` says whether the routes about it are among them. -/
def build (m : Model) (withState : Bool) : Except RequestError Service := do
  let routes ← ofResources m m.resources
  .ok (routes ++ stateless ++ if withState then stateful m else [])

/-- The endpoint of a method. -/
def endpoint? (methods : Methods) (method : String) : Option Endpoint :=
  (methods.find? fun m => m.1 == method).map (·.2)

/-- The headers of a request: their names do not depend on letter case. -/
def headersOf (headers : List (String × String)) : List (String × String) :=
  (headers.filter fun h => Depot.Request.isHeaderText h.2).map fun (name, v) =>
    (Text.lowercaseAscii name, v)

/-- The request that a message makes on a resource. -/
def request (msg : Message) (t : Target) (params : List (String × List Char)) : Depot.Request :=
  { params := paramTexts params
    query := Depot.Request.queryOf (queryPairs t.query)
    headers := headersOf msg.headers
    body := Depot.Request.bodyOf msg.body }

/-- The response to a message: a path that no route matches is not found, a method that the route
    does not have is not allowed, and `HEAD` is answered like `GET`, without the body. -/
def answer (s : Service) (msg : Message) : Program .store Response := do
  let t := Target.parse msg.target
  match find? t.path.toList s with
  | none => pure (.bare 404)
  | some (methods, params) =>
    match endpoint? methods msg.method with
    | some e => e.answer (request msg t params)
    | none =>
      match if msg.method == "HEAD" then endpoint? methods "GET" else none with
      | some e =>
        let response ← e.answer (request msg t params)
        pure response.head
      | none => pure (.bare 405)

end Service

end Depot.Http
