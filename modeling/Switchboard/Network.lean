import Switchboard.Dial.Config
import Switchboard.Fault.Connect
import Switchboard.Uri

/-!
# Networks

Beyond a dialer there are the operating system, a library that secures connections, and the
peers.  A network says what they do: how opening a TCP connection ends, which transport
credentials can be used, and what becomes of a transport that is to be established.
-/

namespace Switchboard

/-- What a transport is made of.  Call credentials are no part of it: they go with requests. -/
structure Blueprint where
  /-- Where it leads. -/
  uri : Uri
  /-- How it is secured. -/
  security : Security
  /-- The pings that keep it alive. -/
  keepalive : Keepalive
  /-- Its timeouts. -/
  timeouts : Timeouts

/-- What becomes of a transport that is to be established, as far as the TCP connection under it
leaves a choice. -/
inductive Establishment
  /-- It is given up before the TCP connection has been opened or refused. -/
  | overdue (cause : String)
  /-- It fails over the open TCP connection. -/
  | broken (cause : String)
  /-- It can be used as soon as the TCP connection is open and both sides have shaken hands. -/
  | usable
  deriving DecidableEq

/-- What there is beyond a dialer. -/
structure Network where
  /-- The end of opening a TCP connection to a host and a port. -/
  connect : List Char → Nat → Except SystemFault Unit
  /-- Whether transport credentials can be used to connect to a URI. -/
  accept : TlsSettings → Uri → Except TransportFault Unit
  /-- What becomes of a transport that is to be established. -/
  establish : Blueprint → Establishment

end Switchboard
