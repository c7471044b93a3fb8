import ODataBuilder.Url.Address
import ODataBuilder.Url.Encode
import ODataBuilder.Url.Idna
/-!
# Hosts

A domain, an IPv4 or IPv6 address, a verbatim host for schemes that are not special, or empty.
Under a special scheme the host is percent-decoded and brought to its ASCII form.
-/
namespace ODataBuilder

inductive Host where
  | domain (name : String)
  | ipv4 (address : Nat)
  | ipv6 (pieces : List Nat)
  | verbatim (text : String)
  | empty
  deriving Repr, DecidableEq

namespace Host

def text : Host → String
  | .domain name => name
  | .ipv4 address => Ipv4.text address
  | .ipv6 pieces => "[" ++ Ipv6.text pieces ++ "]"
  | .verbatim text => text
  | .empty => ""

def isForbiddenInHost (c : Char) : Bool :=
  c.toNat = 0 || c == '\t' || c == '\n' || c == '\r' || c == ' ' || c == '#' || c == '/' ||
    c == ':' || c == '<' || c == '>' || c == '?' || c == '@' || c == '[' || c == '\\' ||
    c == ']' || c == '^' || c == '|'

def bracketed (cs : List Char) : Except UrlError Host :=
  if cs.getLast? != some ']' then .error .invalidIpv6
  else (Ipv6.parse ((cs.drop 1).dropLast)).map .ipv6

def parseSpecial (cs : List Char) : Except UrlError Host :=
  match cs with
  | '[' :: _ => bracketed cs
  | _ =>
    match PercentDecode.text? cs with
    | none => .error .invalidDomain
    | some decoded =>
      match Idna.toAscii decoded.toList with
      | none => .error .invalidDomain
      | some ascii =>
        if ascii.isEmpty then .error .emptyHost
        else if Ipv4.endsInNumber ascii then (Ipv4.parse ascii).map .ipv4
        else .ok (.domain (String.ofList ascii))

def parseVerbatim (cs : List Char) : Except UrlError Host :=
  match cs with
  | '[' :: _ => bracketed cs
  | _ =>
    if cs.any isForbiddenInHost then .error .invalidDomainCharacter
    else if cs.isEmpty then .ok .empty
    else .ok (.verbatim (EncodeSet.controls.encode cs))

end Host

end ODataBuilder
