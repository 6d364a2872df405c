import ChatAssistant.Url.Domain
import ChatAssistant.Url.Error
import ChatAssistant.Url.Ipv4
import ChatAssistant.Url.Ipv6

/-!
# Hosts

The host of an address. Where the scheme is one of the special ones, a host is a name or a numeric
address; elsewhere it is any text without the characters that delimit a host.
-/

namespace ChatAssistant
namespace Url

inductive Host where
  | name (ascii : Text)
  | ipv4 (address : Ipv4)
  | ipv6 (address : Ipv6)
  /-- The host of a scheme that is not special. -/
  | plain (text : Text)
  deriving DecidableEq, Repr

namespace Host

def toText : Host → Text
  | name s => s
  | ipv4 a => a.toText
  | ipv6 a => '[' :: a.toText ++ [']']
  | plain s => s

/-- A host in brackets; none if `s` does not start with one. -/
def bracketed? : Text → Option (Except Error Host)
  | '[' :: r => some <|
    if r.getLast? = some ']' then
      match Ipv6.parse? r.dropLast with
      | some a => .ok (ipv6 a)
      | none => .error .invalidIpv6
    else .error .invalidIpv6
  | _ => none

def ofSpecial (s : Text) : Except Error Host :=
  match bracketed? s with
  | some host => host
  | none =>
    match Domain.ofBytes? (Percent.decode s) with
    | none => .error .invalidDomain
    | some [] => .error .emptyHost
    | some ascii =>
      if Ipv4.endsInNumber ascii then
        match Ipv4.parse? ascii with
        | some a => .ok (ipv4 a)
        | none => .error .invalidIpv4
      else .ok (name ascii)

/-- A character that delimits hosts, or is blank. -/
def isForbidden (c : Char) : Bool := "\x00\t\n\r #/:<>?@[\\]^|".toList.contains c

def ofPlain (s : Text) : Except Error Host :=
  match bracketed? s with
  | some host => host
  | none =>
    if s.any isForbidden then .error .invalidHostCharacter
    else .ok (plain (Percent.encode Percent.isControl s))

end Host
end Url
end ChatAssistant
