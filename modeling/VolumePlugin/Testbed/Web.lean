import VolumePlugin.Http.Client
import VolumePlugin.Testbed.Spec

/-! Scripts of calls to a provider whose responses are prepared. -/

namespace VolumePlugin.Testbed.Web

def address : String := "http://127.0.0.1:40000"

/-- What stands for the address in scripts and answers. -/
def mark : String := "\x7bAPI\x7d"

/-- A value of a script with the address in the place of its mark. -/
def resolve (v : Json) : Json :=
  v.mapTexts (Text.substitute mark address)

/-- A value of an answer with another text in the place of the address. -/
def restore (other : String) (v : Json) : Json :=
  v.mapTexts (Text.substitute address other)

def readResponse (v : Json) : Http.Response :=
  if v.getBool "drop" then .dropped else .answered (v.getNat "status") (v.getText "body")

def ofRequest (r : Http.Request) : Json :=
  .object [("method", .text r.method.name), ("path", .text r.target),
    ("authorization", .text r.authorization), ("user_agent", .text r.userAgent),
    ("x_filter", Json.ofOption .text r.filter),
    ("content_type", Json.ofOption (fun _ => .text "application/json") r.body),
    ("body", r.body.getD .null)]

def readListing (v : Json) : ListOptions :=
  { page := v.getNat "page", label := v.getText? "label", pageSize := v.getNat? "page_size" }

def readCall (v : Json) : Cloud.Call :=
  let id := v.getNat "id"
  match v.getText "call" with
  | "list_volumes" => .listVolumes (readListing v)
  | "get_volume" => .getVolume id
  | "create_volume" =>
    .createVolume ⟨v.getText "label", v.getText "region", v.getNat "size", v.getTexts "tags"⟩
  | "delete_volume" => .deleteVolume id
  | "attach_volume" => .attachVolume id (v.getNat "instance")
  | "detach_volume" => .detachVolume id
  | "resize_volume" => .resizeVolume id (v.getNat "size")
  | "clone_volume" => .cloneVolume id (v.getText "label")
  | "list_instances" => .listInstances (readListing v)
  | _ => .getInstance id

/-- A page, with the number of the page that follows. -/
def ofPage {α : Type} (f : α → Json) : Except CloudError (Page α) → Json
  | .error e => Spec.cloudError e
  | .ok p =>
    match p.next with
    | .error e => Spec.cloudError e
    | .ok next =>
      Spec.ok (.object [("data", .array (p.items.map f)), ("page", .nat p.page),
        ("pages", .nat p.pages), ("next_page", Json.ofOption .nat next)])

def ofAnswer : (c : Cloud.Call) → c.Answer → Json
  | .listVolumes _, answer => ofPage RemoteVolume.toJson answer
  | .listInstances _, answer => ofPage Spec.ofInstance answer
  | .getVolume _, answer | .createVolume _, answer | .attachVolume .., answer
  | .cloneVolume .., answer => Spec.ofCloud RemoteVolume.toJson answer
  | .deleteVolume _, answer | .detachVolume _, answer | .resizeVolume .., answer =>
    Spec.ofCloud (fun _ => .null) answer
  | .getInstance _, answer => Spec.ofCloud Spec.ofInstance answer

/-- Whether a host has an address of four bytes. Of the names only that of the own host stands for
one. -/
def isAddressed : Http.Host → Bool
  | .ipv4 _ => true
  | .name name => name = "localhost"
  | .ipv6 _ => false

/-- Whether a client reaches the provider. The provider speaks in plain text, and every address of
four bytes is its own. -/
def isReached (client : Http.Client) : Bool :=
  match Http.Url.parse? client.base with
  | some u => u.scheme = "http" && match client.proxies.find? u with
    | some proxy => proxy.isPlain
    | none => u.host.any isAddressed
  | none => false

/-- Puts a call to the provider, if the client reaches it. -/
def answer (client : Http.Client) (c : Cloud.Call) (server : Http.Server) :
    c.Answer × Http.Server :=
  if isReached client then client.answer c server
  else ((client.answer c { responses := [] }).1, server)

def call (client : Http.Client) (v : Json) : Json :=
  let c := readCall v
  let (answer, server) := client.answer c
    { responses := ((v.get? "response").map readResponse).toList }
  (ofAnswer c answer).withMembers
    [("request", Json.ofOption ofRequest server.requests.head?)]

/-- Runs a whole script. -/
def run (v : Json) : Json :=
  let base := address ++ (v.getText? "base_path").getD "/v4"
  match Http.Client.make base ((v.getText? "token").getD "tok")
      ((v.getText? "user_agent").getD "ua/1") with
  | .error e => Spec.cloudError e
  | .ok client => restore "http://HOST" (Spec.all ((v.getList "calls").map (call client)))

end VolumePlugin.Testbed.Web
