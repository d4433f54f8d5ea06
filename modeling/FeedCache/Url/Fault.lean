/-
This file names the reasons why a text is no URL.
-/
namespace FeedCache.Url

/-- The reasons why a text is no URL. -/
inductive Fault where
  | relativeWithoutBase
  | emptyHost
  | invalidPort
  | invalidFourBytes
  | invalidEightPieces
  | invalidName
  | invalidHostCharacter
  deriving DecidableEq, Repr

def Fault.message : Fault → String
  | .relativeWithoutBase => "relative URL without a base"
  | .emptyHost => "empty host"
  | .invalidPort => "invalid port number"
  | .invalidFourBytes => "invalid IPv4 address"
  | .invalidEightPieces => "invalid IPv6 address"
  | .invalidName => "invalid international domain name"
  | .invalidHostCharacter => "invalid domain character"

end FeedCache.Url
