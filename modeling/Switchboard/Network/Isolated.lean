import Switchboard.Network
import Switchboard.Tls.Pem
import Switchboard.Tls.ServerName

/-!
# A network without any route

The program runs where there is nothing to dial into.  What is left of transport security is that
unusable credentials are refused before the dial.
-/

namespace Switchboard

/-- Whether transport credentials look as if they could be used to connect to a URI: the texts of
certificates and keys have sections with one sequence of octets each, and the name of the server
is well-formed.  What is inside of the sequences is not looked at. -/
def TlsSettings.looksSoundFor (settings : TlsSettings) (uri : Uri) : Bool :=
  let name := (settings.domain?.map String.toList).getD uri.bareHost
  settings.authority?.all Pem.holdsCertificates &&
    settings.identity?.all (fun identity =>
      Pem.hasCertificate identity.certificate && Pem.hasKey identity.key) &&
    ServerName.isValid name

/-- A network without any route.  It does not even have an address from which a host with an
eight-part address could be called.  No transport gets as far as an open TCP connection. -/
def Network.isolated : Network where
  connect host _ :=
    if ServerName.isEightPart host then .error .addressUnavailable
    else .error .networkUnreachable
  accept settings uri :=
    if settings.looksSoundFor uri then .ok () else .error .security
  establish _ := .usable

end Switchboard
