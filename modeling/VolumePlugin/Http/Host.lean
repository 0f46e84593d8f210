import VolumePlugin.Http.HostName
import VolumePlugin.Http.Ipv6
import VolumePlugin.Http.Percent

/-! The hosts that addresses name. -/

namespace VolumePlugin.Http

inductive Host where
  | name (text : String)
  | ipv4 (address : Nat)
  | ipv6 (pieces : List Nat)
  deriving DecidableEq, Repr

namespace Host

def text : Host → String
  | name s => s
  | ipv4 a => Ipv4.text a
  | ipv6 p => s!"[{Ipv6.text p}]"

/-- Whether there is no host where its name should be. -/
def isEmpty (h : Host) : Bool :=
  h = name ""

/-- Reads an address in brackets, if the text starts with one. -/
def bracketed? : List Char → Option (Option Host)
  | '[' :: inner =>
    some (if inner.getLast? = some ']' then (Ipv6.parse? inner.dropLast).map ipv6 else none)
  | _ => none

/-- Reads the host of an address whose scheme is one of the network. -/
def parse? (s : List Char) : Option Host :=
  match bracketed? s with
  | some host => host
  | none => do
    let decoded ← Text.Utf8.decode? (Percent.decode s)
    let ascii ← HostName.toAscii? decoded.toList
    if ascii.isEmpty then none
    else if Ipv4.endsInNumber ascii then (Ipv4.parse? ascii).map ipv4
    else return name (String.ofList ascii)

/-- Reads the host of an address whose scheme is of no known kind: its name may be any text without
characters that have a meaning in addresses. -/
def parseOpaque? (s : List Char) : Option Host :=
  match bracketed? s with
  | some host => host
  | none =>
    if s.any HostName.isForbidden then none
    else some (name (String.ofList (Percent.encode Percent.isForeign s)))

end Host

end VolumePlugin.Http
