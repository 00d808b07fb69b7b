/-!
# Faults of URLs

Why a text is no URL. Each fault has one wording.
-/

namespace Newsstand

/-- Why a text is no URL. -/
inductive UrlFault where
  | emptyHost
  | invalidName
  | invalidPort
  | invalidIpv4
  | invalidIpv6
  | invalidCharacter
  | relativeWithoutBase
  | relativeToBarePath
  deriving DecidableEq, Repr

/-- The wording of a fault. -/
def UrlFault.message : UrlFault → String
  | .emptyHost => "empty host"
  | .invalidName => "invalid international domain name"
  | .invalidPort => "invalid port number"
  | .invalidIpv4 => "invalid IPv4 address"
  | .invalidIpv6 => "invalid IPv6 address"
  | .invalidCharacter => "invalid domain character"
  | .relativeWithoutBase => "relative URL without a base"
  | .relativeToBarePath => "relative URL with a cannot-be-a-base base"

end Newsstand
