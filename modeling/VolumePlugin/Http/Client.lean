import VolumePlugin.Cloud.Record
import VolumePlugin.Http.Proxy
import VolumePlugin.Json.Reader
import VolumePlugin.Json.Writer
import VolumePlugin.Text.Base64

/-! Calls to the provider as requests over HTTP, with records in JSON. -/

namespace VolumePlugin.Http

/-- What a request does. -/
inductive Method where
  | get
  | post
  | delete
  deriving DecidableEq, Repr

def Method.name : Method → String
  | get => "GET"
  | post => "POST"
  | delete => "DELETE"

/-- A request as it is sent. -/
structure Request where
  method : Method
  url : Url
  authorization : String
  userAgent : String
  filter : Option String
  body : Option Json
  proxied : Bool := false
  deriving Repr

/-- What the request line asks for. A proxy is told the whole address. -/
def Request.target (r : Request) : String :=
  if r.proxied then r.url.absoluteTarget else r.url.target

/-- What a request meets with. -/
inductive Response where
  | answered (status : Nat) (body : String)
  /-- The connection was lost. -/
  | dropped
  deriving DecidableEq, Repr

/-- What requests are made with. -/
structure Client where
  /-- The address that paths are put behind. -/
  base : String
  token : String
  userAgent : String
  proxies : Proxies := {}
  deriving DecidableEq, Repr

/-- What a request fails with that cannot be put together. -/
def unbuildable : CloudError := .transport "builder error"

/-- Whether a text can stand in a header: it holds no controls but tabs. -/
def isHeaderValue (s : String) : Bool :=
  s.toList.all fun c => c = '\t' || (0x20 ≤ c.toNat && c.toNat ≠ 0x7F)

def withoutLastSlashes (s : String) : String :=
  String.ofList (s.toList.reverse.dropWhile (· = '/')).reverse

/-- A client, unless its name cannot stand in a header. -/
def Client.make (base token userAgent : String) : Except CloudError Client :=
  if isHeaderValue userAgent then
    .ok { base := withoutLastSlashes base, token := token, userAgent := userAgent }
  else .error unbuildable

/-- What a call asks for. -/
structure Route where
  method : Method
  path : String
  body : Option Json := none
  options : Option ListOptions := none

def volumePath (id : Nat) : String :=
  s!"/volumes/{id}"

def routeOf : Cloud.Call → Route
  | .listVolumes o => { method := .get, path := "/volumes", options := some o }
  | .getVolume id => { method := .get, path := volumePath id }
  | .createVolume o => { method := .post, path := "/volumes", body := some o.toJson }
  | .deleteVolume id => { method := .delete, path := volumePath id }
  | .attachVolume id target =>
    { method := .post, path := s!"{volumePath id}/attach"
      body := some (.object [("linode_id", .nat target), ("persist_across_boots", .bool false)]) }
  | .detachVolume id => { method := .post, path := s!"{volumePath id}/detach" }
  | .resizeVolume id size =>
    { method := .post, path := s!"{volumePath id}/resize"
      body := some (.object [("size", .nat size)]) }
  | .cloneVolume id label =>
    { method := .post, path := s!"{volumePath id}/clone"
      body := some (.object [("label", .text label)]) }
  | .listInstances o => { method := .get, path := "/linode/instances", options := some o }
  | .getInstance id => { method := .get, path := s!"/linode/instances/{id}" }

/-- What a call is about, as it is named when it is not there. -/
def subjectOf : Cloud.Call → String
  | .listVolumes _ | .createVolume _ => "volumes"
  | .getVolume id | .deleteVolume id | .attachVolume id _ | .detachVolume id
  | .resizeVolume id _ | .cloneVolume id _ => s!"volume {id}"
  | .listInstances _ => "instances"
  | .getInstance id => s!"instance {id}"

def labelFilter (label : String) : String :=
  Json.render (.object [("label", .text label)])

/-- The address with the part of a listing that is asked for. -/
def addListing (o : ListOptions) (u : Url) : Url :=
  let u := u.addParameter "page" (max 1 o.page)
  match o.pageSize with
  | some size => u.addParameter "page_size" size
  | none => u

/-- What a request fails with whose address is none of the web. -/
def foreign (url : Url) : CloudError :=
  .transport s!"builder error for url ({url.text})"

/-- How a user who is named in the address is authorized. -/
def basic (user : String) (password : Option String) : String :=
  let said := user ++ ":" ++ password.getD ""
  s!"Basic {String.ofList (Text.Base64.encode (Text.Utf8.ofString said))}"

/-- The request for a call, or why it cannot be put together. That an address names no host shows
before its parameters are added, that nobody can be asked by its scheme or for its host shows last.
A user whom the address names comes before the one who has the token. -/
def Client.request (client : Client) (call : Cloud.Call) : Except CloudError Request := do
  let route := routeOf call
  let some url := Url.parse? (client.base ++ route.path) | throw unbuildable
  if !url.hasHost then throw (foreign url)
  let bearer := s!"Bearer {client.token}"
  let filter := (route.options.bind (·.label)).map labelFilter
  if !(isHeaderValue bearer && filter.all isHeaderValue) then throw unbuildable
  let (authorization, url) := match url.takeUser? with
    | some ((user, password), url) => (basic user password, url)
    | none => (bearer, url)
  let url := match route.options with
    | some o => addListing o url
    | none => url
  if !(url.isWeb && url.isSendable) then throw (foreign url)
  return {
    method := route.method, url := url, authorization := authorization
    userAgent := client.userAgent, filter := filter, body := route.body
    proxied := (client.proxies.find? url).isSome }

def reasons (body : String) : String :=
  match (Json.parse body).bind CloudError.reasonsOfJson? with
  | some l => "; ".intercalate l
  | none => ""

/-- The body of a response. Some statuses admit none. -/
def effectiveBody (status : Nat) (body : String) : String :=
  if status = 101 ∨ status = 204 ∨ status = 304 then "" else body

/-- Whether a response with this status ends the exchange. A status has three digits, and most of
those that begin with a one announce another response. -/
def isFinal (status : Nat) : Bool :=
  status = 101 || (200 ≤ status && status < 1000)

/-- What a request fails with that gets no response. -/
def unanswered (request : Request) : CloudError :=
  .transport s!"error sending request for url ({request.url.text})"

/-- The body of the response to a request, unless the response is an error. -/
def accept (request : Request) (subject : String) : Response → Except CloudError String
  | .dropped => .error (unanswered request)
  | .answered status body =>
    let body := effectiveBody status body
    if !isFinal status then .error (unanswered request)
    else if 200 ≤ status ∧ status < 300 then .ok body
    else if status = 404 then .error (.notFound subject)
    else .error (.api status (reasons body))

/-- Reads a body that must be a record. -/
def decode {α : Type} (read : Json → Option α) (body : String) : Except CloudError α :=
  match (Json.parse body).bind read with
  | some a => .ok a
  | none => .error (.decode "error decoding response body")

/-- A refusal to attach a volume that says that the volume is attached already. -/
def refineAttach (volume : Nat) : CloudError → CloudError
  | .api 400 reasons =>
    if Text.occursIn "already attached".toList (Text.lowerAscii reasons).toList then
      .alreadyAttached volume
    else .api 400 reasons
  | e => e

/-- The record that a response to a call must hold. -/
def fetch {α : Type} (request : Request) (call : Cloud.Call) (response : Response)
    (read : Json → Option α) : Except CloudError α :=
  (accept request (subjectOf call) response).bind (decode read)

/-- A response to a call whose body does not matter. -/
def confirm (request : Request) (call : Cloud.Call) (response : Response) :
    Except CloudError Unit :=
  (accept request (subjectOf call) response).map fun _ => ()

def read (request : Request) (response : Response) : (call : Cloud.Call) → call.Answer
  | .listVolumes o =>
    fetch request (.listVolumes o) response (Page.ofJson? RemoteVolume.ofJson?)
  | .getVolume id => fetch request (.getVolume id) response RemoteVolume.ofJson?
  | .createVolume o => fetch request (.createVolume o) response RemoteVolume.ofJson?
  | .deleteVolume id => confirm request (.deleteVolume id) response
  | .attachVolume id target =>
    (fetch request (.attachVolume id target) response RemoteVolume.ofJson?).mapError
      (refineAttach id)
  | .detachVolume id => confirm request (.detachVolume id) response
  | .resizeVolume id size => confirm request (.resizeVolume id size) response
  | .cloneVolume id label => fetch request (.cloneVolume id label) response RemoteVolume.ofJson?
  | .listInstances o =>
    fetch request (.listInstances o) response (Page.ofJson? Instance.ofJson?)
  | .getInstance id => fetch request (.getInstance id) response Instance.ofJson?

/-- A server that gives prepared responses in order, and then none. -/
structure Server where
  responses : List Response
  /-- The requests that arrived, the latest first. -/
  requests : List Request := []

def Client.answer (client : Client) (call : Cloud.Call) (server : Server) :
    call.Answer × Server :=
  match client.request call with
  | .error e => (.error e, server)
  | .ok request =>
    let response := server.responses.headD .dropped
    (read request response call,
      { responses := server.responses.drop 1, requests := request :: server.requests })

end VolumePlugin.Http
