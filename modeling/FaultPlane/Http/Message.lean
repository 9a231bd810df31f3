import FaultPlane.Http.MediaType
import FaultPlane.Json.Codec
import FaultPlane.Text.Percent

/-!
# Requests and responses

A request is taken apart into what routes look at. Before a route is carried out, a request can be
rejected for reasons of its own: its path, its method, its query or its body.
-/

namespace FaultPlane.Http

open FaultPlane.Json (Codec)

/-! ### Requests -/

inductive Method where
  | get
  | head
  | post
  | options
  | other
  deriving DecidableEq, Repr

def Method.ofName : String → Method
  | "GET" => .get
  | "HEAD" => .head
  | "POST" => .post
  | "OPTIONS" => .options
  | _ => .other

/-- A request: the path in segments that are still percent-encoded, the query as it was sent. -/
structure Request where
  method : Method
  path : List String
  query : String
  contentType : Option String
  body : String
  deriving DecidableEq, Repr

/-- Cuts a target into the segments of its path and its query. What follows a number sign does not
count. -/
def splitTarget (target : String) : List String × String :=
  let cs := target.toList.takeWhile (· ≠ '#')
  let path := cs.takeWhile (· ≠ '?')
  let query := String.ofList ((cs.dropWhile (· ≠ '?')).drop 1)
  match path with
  | '/' :: path => ((path.splitOnP (· == '/')).map String.ofList, query)
  | _ => ([], query)

/-! ### Responses -/

/-- Why a request is not carried out. -/
inductive Rejection where
  | noSuchPath
  | wrongMethod
  | malformedPath
  | malformedQuery
  | notJson
  | malformedBody
  | unfitBody
  deriving DecidableEq, Repr

/-- The status of a rejected request. -/
def Rejection.status : Rejection → Nat
  | .noSuchPath => 404
  | .wrongMethod => 405
  | .malformedPath | .malformedQuery | .malformedBody => 400
  | .notJson => 415
  | .unfitBody => 422

inductive Response where
  | json (body : Json)
  | empty
  | notFound (text : String)
  | rejected (why : Rejection)

namespace Response

def status : Response → Nat
  | .json _ | .empty => 200
  | .notFound _ => 404
  | .rejected why => why.status

/-- The response without its body, as a request for the head alone gets it. -/
def headOnly : Response → Response
  | .json _ => .empty
  | .notFound _ => .rejected .noSuchPath
  | r => r

end Response

/-! ### Parts of a request -/

/-- The value in a JSON body. A content type is needed, and what follows the value is left
unread. -/
def Request.json {α : Type} (r : Request) (codec : Codec α) : Except Rejection α :=
  if r.contentType.any isJsonType then
    match codec.decodeFront r.body with
    | .ok a => pure a
    | .error problem => throw (if problem.isOfShape then .unfitBody else .malformedBody)
  else throw .notJson

/-- The fields of a query by name. None of the known names may come twice. -/
def Request.fields (r : Request) (known : List String) :
    Except Rejection (String → Option String) :=
  let pairs := (Text.Percent.formPairs r.query).filter fun p => known.contains p.1
  if (pairs.map (·.1)).eraseDups.length < pairs.length then throw .malformedQuery
  else pure fun name => pairs.lookup name

/-- A path segment as text. -/
def segmentText (segment : String) : Except Rejection String :=
  match Text.Percent.decodeSegment? segment with
  | some s => pure s
  | none => throw .malformedPath

/-! ### Routes -/

/-- Finds the route of a request. A route for `get` also takes `head`. -/
def Request.route {ρ : Type} (r : Request) (ofPath : List String → Option ρ)
    (methodOf : ρ → Method) : Except Rejection ρ :=
  match ofPath r.path with
  | none => throw .noSuchPath
  | some route =>
    if r.method = methodOf route ∨ (r.method = .head ∧ methodOf route = .get) then pure route
    else throw .wrongMethod

/-- The response to a request, without its body if the request asked for the head alone. -/
def Request.respond (r : Request) (response : Response) : Response :=
  if r.method = .head then response.headOnly else response

theorem Request.respond_of_ne_head {r : Request} (h : r.method ≠ .head) (response : Response) :
    r.respond response = response := if_neg h

end FaultPlane.Http
