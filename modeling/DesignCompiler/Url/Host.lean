import DesignCompiler.Text.Utf8
import DesignCompiler.Url.Domain.Label
import DesignCompiler.Url.Ip
import DesignCompiler.Url.Percent

set_option autoImplicit false

namespace DesignCompiler.Url

inductive Fault where
  | noScheme
  | emptyHost
  | portNumber
  | ipv4
  | ipv6
  | hostCharacter
  | domain
deriving DecidableEq, Repr

def Fault.message : Fault → String
  | .noScheme => "relative URL without a base"
  | .emptyHost => "empty host"
  | .portNumber => "invalid port number"
  | .ipv4 => "invalid IPv4 address"
  | .ipv6 => "invalid IPv6 address"
  | .hostCharacter => "invalid domain character"
  | .domain => "invalid international domain name"

def readBracketed (cs : List Char) : Except Fault (List Char) :=
  if cs.getLast? = some ']' && isIpv6 cs.dropLast then .ok ('[' :: cs) else .error .ipv6

def readWebHost : List Char → Except Fault (List Char)
  | '[' :: cs => readBracketed cs
  | cs => do
    let written ← (Text.decode? (percentDecode (Text.encode cs))).elim (.error .domain) .ok
    let host ← (Domain.read? written).elim (.error .domain) .ok
    if host.isEmpty then throw .emptyHost
    if endsInNumber host && !isIpv4 host then throw .ipv4
    return host

def isRefusedInHost (c : Char) : Bool :=
  c = '\x00' || c = '\t' || c = '\n' || c = '\x0D' || "\x20#/:<>?@[\\]^|".toList.contains c

def readOpaqueHost : List Char → Except Fault (List Char)
  | '[' :: cs => readBracketed cs
  | cs => if cs.any isRefusedInHost then .error .hostCharacter else .ok cs

end DesignCompiler.Url
