import HolderGate.Bytes
import HolderGate.Net.Domain
import HolderGate.Net.IpAddress
import HolderGate.Text.Percent

/-! Hosts as addresses of the web name them, and what may be wrong with such addresses. -/
namespace HolderGate.Net

inductive UrlError where
  | relative
  | emptyHost
  | badPort
  | badIpv4
  | badIpv6
  | badDomain
  | badCharacter
  deriving DecidableEq, Repr

def UrlError.message : UrlError → String
  | relative => "relative URL without a base"
  | emptyHost => "empty host"
  | badPort => "invalid port number"
  | badIpv4 => "invalid IPv4 address"
  | badIpv6 => "invalid IPv6 address"
  | badDomain => "invalid international domain name"
  | badCharacter => "invalid domain character"

inductive Host where
  | domain (name : List Char)
  | ipv4 (number : Nat)
  | ipv6 (pieces : List Nat)
  deriving DecidableEq, Repr

namespace Host

def bracketed? (cs : List Char) : Option (Except UrlError Host) :=
  match cs with
  | '[' :: rest => some (
      if rest.getLast? = some ']' then
        match Ipv6.parse? rest.dropLast with
        | some pieces => .ok (.ipv6 pieces)
        | none => .error .badIpv6
      else .error .badIpv6)
  | _ => none

def parse (cs : List Char) : Except UrlError Host :=
  match bracketed? cs with
  | some result => result
  | none => do
    let some name := text? (Text.Percent.decode (utf8 (String.ofList cs))) | .error .badDomain
    let some name := Domain.parse? name.toList | .error .badDomain
    if name.isEmpty then .error .emptyHost
    else if Ipv4.isMeant name then
      match Ipv4.parse? name with
      | some number => .ok (.ipv4 number)
      | none => .error .badIpv4
    else .ok (.domain name)

def isForbidden (c : Char) : Bool := "\x00\t\n\r #/:<>?@[\\]^|".toList.contains c

def parseOpaque (cs : List Char) : Except UrlError Host :=
  match bracketed? cs with
  | some result => result
  | none => if cs.any isForbidden then .error .badCharacter else .ok (.domain cs)

end Host

end HolderGate.Net
