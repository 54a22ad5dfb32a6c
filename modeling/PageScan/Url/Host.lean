import PageScan.Url.Address
import PageScan.Url.Domain
import PageScan.Url.Percent

/-!
# Hosts

The machine that an address names. In a special scheme a name is a domain name or a numeric
address; in another scheme it is any text without certain characters.
-/

namespace PageScan.Url

/-- Why a text is no address. -/
inductive Fault
  | emptyHost
  | domainName
  | port
  | ipv4
  | ipv6
  | domainCharacter
  | noScheme
  deriving DecidableEq

/-- The wording of a fault. -/
def Fault.message : Fault → String
  | .emptyHost => "empty host"
  | .domainName => "invalid international domain name"
  | .port => "invalid port number"
  | .ipv4 => "invalid IPv4 address"
  | .ipv6 => "invalid IPv6 address"
  | .domainCharacter => "invalid domain character"
  | .noScheme => "relative URL without a base"

/-- What an address names a machine by. -/
inductive Host
  | domain (name : String)
  | ipv4 (address : Ipv4)
  | ipv6 (address : Ipv6)
  deriving DecidableEq

namespace Host

/-- The host as it is printed. -/
def text : Host → String
  | .domain name => name
  | .ipv4 address => address.text
  | .ipv6 address => "[" ++ address.text ++ "]"

/-- Reads an address in brackets; `cs` starts after the first bracket. -/
def ofBrackets (cs : List Char) : Except Fault Host :=
  match cs.reverse with
  | ']' :: inner =>
    match Ipv6.ofText? inner.reverse with
    | some address => .ok (.ipv6 address)
    | none => .error .ipv6
  | _ => .error .ipv6

/-- Reads the host of a special scheme. -/
def ofSpecial (cs : List Char) : Except Fault Host :=
  match cs with
  | '[' :: rest => ofBrackets rest
  | _ =>
    let name := (Text.lossy (percentDecode (Text.utf8 (String.ofList cs)))).toList
    match Domain.toAscii? name with
    | none => .error .domainName
    | some [] => .error .emptyHost
    | some ascii =>
      if Ipv4.isMeant ascii then
        match Ipv4.ofText? ascii with
        | some address => .ok (.ipv4 address)
        | none => .error .ipv4
      else .ok (.domain (String.ofList ascii))

/-- The characters that the host of another scheme cannot hold. -/
def isForbidden (c : Char) : Bool :=
  ['\x00', '\t', '\n', '\r', ' ', '#', '/', ':', '<', '>', '?', '@', '[', '\\', ']', '^',
    '|'].contains c

/-- Reads the host of a scheme that is not special. -/
def ofOther (cs : List Char) : Except Fault Host :=
  match cs with
  | '[' :: rest => ofBrackets rest
  | _ =>
    if cs.any isForbidden then .error .domainCharacter
    else .ok (.domain (String.ofList (percentEncode escapedAlways cs)))

end Host

end PageScan.Url
