import TripClient.Url.Domain.Name
import TripClient.Url.Ipv4
import TripClient.Url.Ipv6
import TripClient.Url.Percent

/-!
# Hosts

A host on the web is an address or a domain name; a name that ends in a number has to be an address.
Other hosts are texts in which only some characters are refused.
-/

namespace TripClient.Url

/-- Why a text is no URL. -/
inductive Error where
  | noScheme
  | emptyHost
  | badDomain
  | badPort
  | badIpv4
  | badIpv6
  | badHostCharacter
  deriving DecidableEq

/-- An error in words. -/
def Error.message : Error → String
  | .noScheme => "relative URL without a base"
  | .emptyHost => "empty host"
  | .badDomain => "invalid international domain name"
  | .badPort => "invalid port number"
  | .badIpv4 => "invalid IPv4 address"
  | .badIpv6 => "invalid IPv6 address"
  | .badHostCharacter => "invalid domain character"

/-- Whom a URL leads to. -/
inductive Host where
  /-- A domain name, or any other name. -/
  | name (cs : List Char)
  | ipv4 (address : Nat)
  | ipv6 (groups : List Nat)
  deriving DecidableEq

namespace Host

/-- Reads the address between square brackets, of which the first has been seen. -/
def ofBracketed (cs : List Char) : Except Error Host :=
  if cs.getLast? == some ']' then
    match Ipv6.ofChars? cs.dropLast with
    | some gs => .ok (.ipv6 gs)
    | none => .error .badIpv6
  else .error .badIpv6

/-- The host that the ASCII form of a name stands for, if there is one. -/
def ofAscii : Option (List Char) → Except Error Host
  | none => .error .badDomain
  | some [] => .error .emptyHost
  | some (c :: cs) =>
    if Ipv4.endsInNumber (c :: cs) then
      match Ipv4.ofChars? (c :: cs) with
      | some address => .ok (.ipv4 address)
      | none => .error .badIpv4
    else .ok (.name (c :: cs))

/-- Reads a host on the web. -/
def ofWeb (cs : List Char) : Except Error Host :=
  match cs with
  | '[' :: rest => ofBracketed rest
  | _ => ofAscii ((Percent.decode? cs).bind Domain.toAscii?)

/-- Characters that no name holds, on the web or elsewhere. -/
def isRefused (c : Char) : Bool :=
  ['\x00', '\t', '\n', '\r', ' ', '#', '/', ':', '<', '>', '?', '@', '[', '\\', ']', '^',
    '|'].contains c

/-- Reads a host that is not on the web. -/
def ofOther (cs : List Char) : Except Error Host :=
  match cs with
  | '[' :: rest => ofBracketed rest
  | _ =>
    if cs.any isRefused then .error .badHostCharacter
    else .ok (.name (Percent.encode Percent.inAny cs))

/-- Writes a host. -/
def toChars : Host → List Char
  | .name cs => cs
  | .ipv4 address => Ipv4.toChars address
  | .ipv6 groups => '[' :: Ipv6.toChars groups ++ [']']

end Host

end TripClient.Url
