/-!
# Endpoints

An address names a host, with or without a port.  Its canonical endpoint has a
port: the one that is written, or else the default port of its family.  Inside
brackets colons belong to the host, so there a port follows `]:`.
-/

namespace Switchboard

/-- The two families of endpoints. -/
inductive Family
  | agent
  | authentication
  deriving DecidableEq, Repr

namespace Family

/-- The port of a family's endpoints when an address has none. -/
def defaultPort : Family → Nat
  | .agent => 55000
  | .authentication => 65000

/-- The name of a family. -/
def name : Family → String
  | .agent => "Agent"
  | .authentication => "Authentication"

end Family

namespace Endpoint

/-- Whether a bracket is closed with a colon behind it. -/
def bracketColon : List Char → Bool
  | ']' :: ':' :: _ => true
  | _ :: rest => bracketColon rest
  | [] => false

/-- Whether an address has a port. -/
def hasPort (address : List Char) : Bool :=
  match address with
  | '[' :: _ => bracketColon address
  | _ => address.contains ':'

/-- The canonical endpoint of an address under a default port. -/
def resolve
    (address : String)
    (port : Nat) : String :=
  if hasPort address.toList then address else address ++ ":" ++ toString port

end Endpoint

/-- The canonical endpoint of an address in a family. -/
def Family.resolve
    (family : Family)
    (address : String) : String :=
  Endpoint.resolve address family.defaultPort

end Switchboard
