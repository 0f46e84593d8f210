import VolumePlugin.Http.Host
import VolumePlugin.Http.Path

/-! Addresses of resources, in the normal form in which they are requested and shown. -/

namespace VolumePlugin.Http

/-- What an address says about the user, in encoded form. -/
structure Credentials where
  user : String
  password : Option String
  deriving DecidableEq, Repr

structure Url where
  scheme : String
  credentials : Option Credentials := none
  /-- The host, which may have an empty name. Addresses of other things than hosts have none. -/
  host : Option Host := none
  /-- The number of the service, unless it is the usual one of the scheme. -/
  port : Option Nat := none
  path : String
  query : Option String := none
  fragment : Option String := none
  deriving DecidableEq, Repr

inductive SchemeKind where
  /-- A scheme of the network, with the usual number of its service. -/
  | network (port : Nat)
  | file
  | other
  deriving DecidableEq, Repr

namespace SchemeKind

def of : String → SchemeKind
  | "http" | "ws" => network 80
  | "https" | "wss" => network 443
  | "ftp" => network 21
  | "file" => file
  | _ => other

/-- Whether backslashes are slashes in addresses with such a scheme. -/
def isKnown (k : SchemeKind) : Bool :=
  k ≠ other

/-- The characters that end the host. -/
def hostEnds (k : SchemeKind) : List Char :=
  if k.isKnown then ['/', '\\', '?', '#'] else ['/', '?', '#']

def usualPort? : SchemeKind → Option Nat
  | network port => some port
  | _ => none

end SchemeKind

namespace Url

def target (u : Url) : String :=
  match u.query with
  | some q => s!"{u.path}?{q}"
  | none => u.path

def hasHost (u : Url) : Bool :=
  u.host.any (!·.isEmpty)

def webSchemes : List String := ["http", "https"]

def isWeb (u : Url) : Bool :=
  webSchemes.contains u.scheme

/-- Characters in names of hosts that requests cannot carry. -/
def unsendable : List Char := ['"', Char.ofNat 96, Char.ofNat 123, Char.ofNat 125]

/-- Whether a request can carry the name of the host. -/
def isSendable (u : Url) : Bool :=
  u.host.all fun h => !h.text.toList.any unsendable.contains

/-- What stands before the host. -/
def userText : Option Credentials → String
  | none => ""
  | some ⟨user, none⟩ => s!"{user}@"
  | some ⟨user, some password⟩ => s!"{user}:{password}@"

def authority (u : Url) : String :=
  let host := u.host.elim "" Host.text
  let port := u.port.elim "" fun p => s!":{p}"
  s!"{userText u.credentials}{host}{port}"

/-- What stands between the scheme and the path. A path is kept from looking like a host. -/
def beforePath (u : Url) : String :=
  if u.host.isSome ∨ SchemeKind.of u.scheme = .file then s!"//{u.authority}"
  else if u.path.startsWith "//" then "/."
  else ""

def text (u : Url) : String :=
  let fragment := u.fragment.elim "" fun f => s!"#{f}"
  s!"{u.scheme}:{u.beforePath}{u.target}{fragment}"

/-- The whole address as far as a request names it to a proxy. -/
def absoluteTarget (u : Url) : String :=
  { u with fragment := none }.text

/-- Cuts a text before the first character that ends a part. -/
def cut (ends : List Char) (s : List Char) : List Char × List Char :=
  (s.takeWhile fun c => !ends.contains c, s.dropWhile fun c => !ends.contains c)

/-- Reads what stands before the last at sign. Nothing is said with neither a user nor a
password. -/
def readCredentials (s : List Char) : Option Credentials :=
  let (user, rest) := cut [':'] s
  let encoded (s : List Char) : String := String.ofList (Percent.encode Percent.encodedInUser s)
  let password := rest.drop 1
  if user.isEmpty ∧ password.isEmpty then none
  else some ⟨encoded user, if password.isEmpty then none else some (encoded password)⟩

/-- Cuts a text before the first colon that does not stand in brackets. -/
def cutPort (inBrackets : Bool) : List Char → List Char × List Char
  | [] => ([], [])
  | c :: rest =>
    if c = ':' ∧ !inBrackets then ([], c :: rest)
    else
      let inBrackets := if c = '[' then true else if c = ']' then false else inBrackets
      let (host, port) := cutPort inBrackets rest
      (c :: host, port)

/-- Reads the number of a service after its colon, and what is left from a backslash on. -/
def readPort? (s : List Char) : Option (Option Nat × List Char) := do
  let (digits, rest) := cut ['\\'] s
  if digits.isEmpty then return (none, rest)
  else
    let n ← Ipv4.readDigits? 10 0 digits
    if n < 0x10000 then return (some n, rest) else none

/-- The parts of an address between two slashes and the path. -/
structure Place where
  credentials : Option Credentials
  host : Host
  port : Option Nat

/-- Reads a host and the number of its service, and what is left from a backslash on. -/
def readHost? (k : SchemeKind) (s : List Char) : Option (Host × Option Nat × List Char) := do
  let (name, rest) := cutPort false s
  if name.isEmpty ∧ (k.isKnown ∨ !rest.isEmpty) then none
  else
    let host ← if k.isKnown then Host.parse? name else Host.parseOpaque? name
    let (port, rest) ← readPort? (rest.drop 1)
    return (host, if port = k.usualPort? then none else port, rest)

def splitUser (s : List Char) : Option (List Char) × List Char :=
  if s.contains '@' then
    let last := (s.reverse.takeWhile (· ≠ '@')).reverse
    (some (s.take (s.length - last.length - 1)), last)
  else (none, s)

/-- Reads what stands between two slashes and the path, and gives the rest. A user, even one without
a name, is the user of a host. -/
def readPlace? (k : SchemeKind) (s : List Char) : Option (Place × List Char) := do
  let (before, after) := cut k.hostEnds s
  let (user, place) := splitUser before
  if user = some [] ∧ place.isEmpty ∧ !after.isEmpty then none
  else
    let credentials := user.bind readCredentials
    let (host, port, rest) ← readHost? k place
    if host.isEmpty ∧ credentials.isSome then none
    else return (⟨credentials, host, port⟩, rest ++ after)

/-- The parts of what follows a scheme: what comes before the query, the query and the fragment. -/
def parts (k : SchemeKind) (s : List Char) : List Char × Option String × Option String :=
  let (beforeFragment, fragment) := cut ['#'] s
  let (path, query) := cut ['?'] beforeFragment
  let part (mustEncode : Char → Bool) : List Char → Option String
    | [] => none
    | _ :: s => some (String.ofList (Percent.encode mustEncode s))
  let inQuery := if k.isKnown then Percent.encodedInHostQuery else Percent.encodedInQuery
  (path, part inQuery query, part Percent.encodedInFragment fragment)

/-- Whether a character separates segments where the scheme is a known one. -/
def isSlash (c : Char) : Bool :=
  c = '/' || c = '\\'

def dropSlash : List Char → List Char
  | c :: rest => if isSlash c then rest else c :: rest
  | [] => []

/-- Reads an address of the network. The slashes after the scheme may be missing. -/
def readNetwork? (scheme : String) (k : SchemeKind) (s : List Char) : Option Url := do
  let (place, rest) ← readPlace? k (s.dropWhile isSlash)
  let (path, query, fragment) := parts k rest
  return {
    scheme, credentials := place.credentials, host := some place.host, port := place.port
    path := Path.text (Path.normal true false (dropSlash path)), query, fragment }

/-- The path that follows a host whose scheme is of no known kind. -/
def pathAfterHost : List Char → String
  | [] => ""
  | '/' :: rest => Path.text (Path.normal false false rest)
  | rest => Path.text (Path.normal false false rest)

/-- Reads an address whose scheme is of no known kind. A host stands between two slashes and the
path, and a text that starts with no slash is no path. -/
def readOther? (scheme : String) (s : List Char) : Option Url := do
  match s with
  | '/' :: '/' :: s =>
    let (place, rest) ← readPlace? .other s
    let (path, query, fragment) := parts .other rest
    return {
      scheme, credentials := place.credentials, host := some place.host, port := place.port
      path := pathAfterHost path, query, fragment }
  | s =>
    let (before, query, fragment) := parts .other s
    let path := match before with
      | '/' :: rest => Path.text (Path.normal false false rest)
      | rest => String.ofList (Percent.encode Percent.isForeign rest)
    return { scheme, path, query, fragment }

/-- Reads the host of a file. The machine itself is no host. -/
def fileHost? (s : List Char) : Option (Option Host) :=
  if s.isEmpty then some none
  else (Host.parse? s).map fun host => if host = .name "localhost" then none else some host

/-- The address of a file. A path that starts with the letter of a disk has no host. -/
def ofFile (host : Option Host) (s : List Char) : Url :=
  let (path, query, fragment) := parts .file s
  let segments := Path.normal true true (dropSlash path)
  let onDisk := segments.head?.any Path.isDisk
  { scheme := "file", host := if onDisk then none else host
    path := Path.fileText segments, query, fragment }

def readFile? (s : List Char) : Option Url := do
  match s with
  | a :: b :: rest =>
    if isSlash a && isSlash b then
      let (name, after) := cut SchemeKind.file.hostEnds rest
      if Path.isDisk name then return ofFile none ('/' :: rest)
      else return ofFile (← fileHost? name) after
    else return ofFile none s
  | _ => return ofFile none s

def isScheme : List Char → Bool
  | [] => false
  | c :: cs => c.isAlpha && cs.all fun d => d.isAlphanum || d = '+' || d = '-' || d = '.'

/-- The characters of an address that count: not those around it that show nothing, and no tabs and
line breaks. -/
def counting (address : String) : List Char :=
  let outer (c : Char) : Bool := c.toNat ≤ 0x20
  let kept := address.toList.filter fun c => c ≠ '\t' ∧ c ≠ '\n' ∧ c ≠ '\r'
  ((kept.dropWhile outer).reverse.dropWhile outer).reverse

def parse? (address : String) : Option Url := do
  let (scheme, rest) ← Text.splitFirst ':' (counting address)
  if isScheme scheme then
    let scheme := Text.lowerAscii (String.ofList scheme)
    match SchemeKind.of scheme with
    | .file => readFile? rest
    | .other => readOther? scheme rest
    | k => readNetwork? scheme k rest
  else none

/-- The address with one more parameter in its query. -/
def addParameter (name : String) (value : Nat) (u : Url) : Url :=
  let parameter := s!"{name}={value}"
  { u with query := some (match u.query with
      | some q => if q = "" then parameter else s!"{q}&{parameter}"
      | none => parameter) }

/-- The text that encoded characters stand for. -/
def decoded? (s : String) : Option String :=
  Text.Utf8.decode? (Percent.decode s.toList)

/-- What the address says about the user, unless the name cannot be decoded, and the address without
it. A password that cannot be decoded is none. -/
def takeUser? (u : Url) : Option ((String × Option String) × Url) := do
  let c ← u.credentials
  let user ← decoded? c.user
  let password := c.password.bind decoded?
  if user = "" ∧ password = none then none
  else return ((user, password), { u with credentials := none })

end Url

end VolumePlugin.Http
