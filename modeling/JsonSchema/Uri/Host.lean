import JsonSchema.Uri.Address
import JsonSchema.Uri.Basic
import JsonSchema.Uri.Domain
import JsonSchema.Uri.Percent

/-!
# Hosts

The host of a special scheme is a domain or an address and is normalised; that of any other scheme is
kept as it is written.  An IPv6 address stands in brackets in both.
-/

set_option autoImplicit false

namespace JsonSchema.Host

/-- An IPv6 address behind its opening bracket. -/
def bracketed (cs : List Char) : Except UriError (List Char) :=
  match cs.reverse with
  | ']' :: inner =>
    match Ipv6.parse? inner.reverse with
    | some groups => .ok ('[' :: Ipv6.text groups ++ [']'])
    | none => .error .invalidIpv6Address
  | _ => .error .invalidIpv6Address

/-- The host of a special scheme. -/
def special (cs : List Char) : Except UriError (List Char) :=
  match cs with
  | '[' :: rest => bracketed rest
  | cs =>
    match Domain.toAscii? (Percent.decodeBytes cs) with
    | none => .error .invalidDomainName
    | some [] => .error .emptyHost
    | some domain =>
      if Ipv4.endsInNumber domain then
        match Ipv4.ofHost? domain with
        | some address => .ok (Ipv4.text address)
        | none => .error .invalidIpv4Address
      else .ok domain

/-- Characters that no host holds, whatever the scheme. -/
def isForbidden (c : Char) : Bool := "\x00\t\n\r #/:<>?@[\\]^|".toList.contains c

def isControl (c : Char) : Bool := c.toNat < 0x20 || c.toNat == 0x7F

/-- The host of a scheme that is not special. -/
def other (cs : List Char) : Except UriError (List Char) :=
  match cs with
  | '[' :: rest => bracketed rest
  | cs => if cs.any isForbidden then .error .invalidDomainCharacter else .ok (Percent.encode isControl cs)

end JsonSchema.Host
