import Reconnect.Endpoint.Parser
import Reconnect.Fault

/-!
# Looking up hosts

A host is looked up by a function that gives its addresses, or none if the host is not known. Here
hosts are known only by their addresses: the text of an endpoint, or the bare text of an address
and a port behind the last colon.
-/

namespace Reconnect.Lookup

/-- Gives the addresses of a host, or `none` if the host is not known. -/
abbrev Resolver := String → Option (List Endpoint)

/-- The endpoints of all hosts that are known, in order. -/
def endpointsOf (resolve : Resolver) (hosts : List String) : Except HostFault (List Endpoint) :=
  match hosts.flatMap fun host => (resolve host).getD [] with
  | [] => .error (.unresolvable hosts)
  | endpoints => .ok endpoints

/-- Reads a port, which may have a plus sign in front. -/
def port? (text : List Char) : Option UInt16 :=
  let digits := if text.head? = some '+' then text.drop 1 else text
  (Reader.whole (Reader.number 10 65536) digits).map UInt16.ofNat

/-- Reads a bare address and the port behind the last colon. -/
def bare? (text : List Char) : Option Endpoint := do
  let back := text.reverse
  let port ← port? (back.takeWhile (· ≠ ':')).reverse
  match back.dropWhile (· ≠ ':') with
  | [] => none
  | _ :: front =>
    let host ← Host.ofText? front.reverse
    return { host, port }

/-- Knows a host by its address. -/
def literal : Resolver := fun host =>
  (Endpoint.ofText? host.toList <|> bare? host.toList).map fun e => [e]

end Reconnect.Lookup
