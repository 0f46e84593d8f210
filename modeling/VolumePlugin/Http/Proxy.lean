import VolumePlugin.Http.Url
import VolumePlugin.Text.Blank
import VolumePlugin.Text.Unsigned

/-! Proxies, which pass requests on to hosts. The environment names the proxies, and the hosts that
are asked without them. -/

namespace VolumePlugin.Http

structure Proxy where
  scheme : String
  /-- The host of the proxy, and the number of its service if that is given. -/
  place : List Char
  deriving DecidableEq, Repr

namespace Proxy

/-- The schemes by which proxies are spoken to. -/
def schemes : List String :=
  ["http", "https", "socks4", "socks4a", "socks5", "socks5h"]

/-- Splits an address into its scheme, which is that of the web if none is given, and the rest. -/
def splitScheme (s : List Char) : String × List Char :=
  match Text.splitFirst ':' s with
  | some (scheme, '/' :: '/' :: rest) => (Text.lowerAscii (String.ofList scheme), rest)
  | _ => ("http", s)

/-- Characters that cannot stand in the place of a proxy, beside blanks and controls. -/
def misplaced : List Char := ['"', '<', '>', '\\', '^', Char.ofNat 96]

def isPlaceChar (c : Char) : Bool :=
  0x20 < c.toNat && c.toNat < 0x7F && !misplaced.contains c

/-- Reads the address of a proxy. A user must have a password, if only an empty one. -/
def parse? (s : String) : Option Proxy :=
  let (scheme, rest) := splitScheme s.toList
  let (user, place) := Url.splitUser (Url.cut ['/', '?', '#'] rest).1
  if !schemes.contains scheme || place.isEmpty || !place.all isPlaceChar ||
    user.any (!·.contains ':') then none
  else some ⟨scheme, place⟩

/-- Whether the proxy is spoken to in plain text, and at an address of four bytes. -/
def isPlain (p : Proxy) : Bool :=
  p.scheme = "http" && (Ipv4.parseUsual? (Url.cut [':'] p.place).1).isSome

end Proxy

structure Proxies where
  /-- The proxy to hosts that are spoken to in plain text. -/
  forPlain : Option Proxy := none
  /-- The proxy to hosts that are spoken to in secret. -/
  forSecret : Option Proxy := none
  /-- What describes the hosts that are asked without a proxy. -/
  exempt : List (List Char) := []
  deriving DecidableEq, Repr

namespace Proxies

/-- The first value that the environment has under one of several names, or the empty text. -/
def valueOf (names : List String) (environment : List (String × String)) : String :=
  (names.findSome? fun name => environment.lookup name).getD ""

/-- The proxies that an environment names. It names none to a process that answers a request. -/
def ofEnvironment (environment : List (String × String)) : Proxies :=
  if (environment.lookup "REQUEST_METHOD").isSome then {}
  else
    let read (names : List String) : Option Proxy := Proxy.parse? (valueOf names environment)
    let forAll := read ["ALL_PROXY", "all_proxy"]
    let exempt := (Text.pieces ',' (valueOf ["NO_PROXY", "no_proxy"] environment).toList).map
      fun s => Text.trimEnd (Text.trimStart s)
    { forPlain := (read ["HTTP_PROXY", "http_proxy"]).or forAll
      forSecret := (read ["HTTPS_PROXY", "https_proxy"]).or forAll
      exempt := exempt.filter (· ≠ []) }

/-- Whether a rule describes an address: it is the address or a network that the address is in. -/
def describesAddress (address : Nat) (rule : List Char) : Bool :=
  match Text.splitFirst '/' rule with
  | none => Ipv4.parseUsual? rule = some address
  | some (network, length) =>
    match Ipv4.parseUsual? network, Text.readDigits 33 0 length with
    | some network, .ok n =>
      !length.isEmpty && address >>> (32 - n) = network >>> (32 - n)
    | _, _ => false

/-- Whether a rule describes a name: it is a star, or the name, or the name ends with it after a
point. -/
def describesName (name rule : List Char) : Bool :=
  let name := name.map Char.toLower
  let rule := rule.map Char.toLower
  rule = ['*'] || rule = '.' :: name || match Text.dropStart? rule.reverse name.reverse with
    | some rest => rest.isEmpty || rest.head? = some '.' || rule.head? = some '.'
    | none => false

/-- Whether a host is asked without a proxy. -/
def exempts (p : Proxies) : Host → Bool
  | .ipv4 address => p.exempt.any (describesAddress address)
  | .name name => p.exempt.any (describesName name.toList)
  | .ipv6 _ => false

def find? (p : Proxies) (u : Url) : Option Proxy :=
  if u.host.any p.exempts then none
  else if u.scheme = "https" then p.forSecret
  else p.forPlain

end Proxies

end VolumePlugin.Http
