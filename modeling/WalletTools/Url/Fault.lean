/-! Why a text is no URL. -/
namespace WalletTools.Url

inductive Fault
  /-- There is no scheme, so the text could only continue another URL. -/
  | relative
  | emptyHost
  | port
  | ipv4
  | ipv6
  /-- A host of a network scheme is no domain name. -/
  | domain
  /-- A host of another scheme holds a character that no host may hold. -/
  | hostCharacter
deriving DecidableEq, Repr

def Fault.message : Fault → String
  | .relative => "relative URL without a base"
  | .emptyHost => "empty host"
  | .port => "invalid port number"
  | .ipv4 => "invalid IPv4 address"
  | .ipv6 => "invalid IPv6 address"
  | .domain => "invalid international domain name"
  | .hostCharacter => "invalid domain character"

end WalletTools.Url
