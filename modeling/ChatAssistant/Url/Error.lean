import ChatAssistant.Fault

/-!
# Why a text is no address

The faults that the reader of addresses finds, and their wording.
-/

namespace ChatAssistant
namespace Url

inductive Error where
  /-- The host is missing where there has to be one. -/
  | emptyHost
  /-- The name of the host cannot be brought into its form for the network. -/
  | invalidDomain
  | invalidPort
  | invalidIpv4
  | invalidIpv6
  /-- The host holds a character that no host may hold. -/
  | invalidHostCharacter
  /-- The text names no scheme. -/
  | noScheme
  deriving DecidableEq, Repr

def Error.message : Error → Text
  | .emptyHost => "empty host".toList
  | .invalidDomain => "invalid international domain name".toList
  | .invalidPort => "invalid port number".toList
  | .invalidIpv4 => "invalid IPv4 address".toList
  | .invalidIpv6 => "invalid IPv6 address".toList
  | .invalidHostCharacter => "invalid domain character".toList
  | .noScheme => "relative URL without a base".toList

def Error.fault (e : Error) : Fault := .validation ("URL parse error: ".toList ++ e.message)

end Url
end ChatAssistant
