import Switchboard.Metadata
import Switchboard.Text.Quoted
import Switchboard.Text.Record

/-!
# Credentials

Transport credentials secure a connection, call credentials go with every
request on it.  No text shows what they hold.
-/

namespace Switchboard

/-- A client's certificate and private key. -/
structure Identity where
  /-- The certificate. -/
  certificate : String
  /-- The private key. -/
  key : String
  deriving DecidableEq

/-- The transport credentials of a connection. -/
structure TlsSettings where
  /-- The certificate authority that the server's certificate is checked against. -/
  authority? : Option String
  /-- The identity that the client shows. -/
  identity? : Option Identity
  /-- The server name to expect in place of the dialed host. -/
  domain? : Option String
  deriving DecidableEq

/-- Transport credentials that leave everything open. -/
def TlsSettings.empty : TlsSettings :=
  ⟨none, none, none⟩

/-- What is shown in place of a secret. -/
def redaction : String :=
  "<redacted>"

/-- A token that its bearer shows with every request. -/
structure BearerToken where
  /-- The secret. -/
  secret : String
  deriving DecidableEq

namespace BearerToken

/-- The key under which a token is sent. -/
def key : String :=
  "authorization"

/-- The value in which a token is sent. -/
def value (token : BearerToken) : Text.Octets :=
  Text.octets ("Bearer " ++ token.secret)

/-- The status of a request whose token cannot be sent. -/
def rejection : Status :=
  ⟨.unauthenticated, "bearer token is not valid metadata"⟩

/-- A token is written into metadata in place, and takes the place of any other. -/
def write (token : BearerToken) : Edit Status Metadata Unit :=
  Metadata.write key token.value rejection

/-- The metadata of a request that shows a token. -/
def apply
    (token : BearerToken)
    (metadata : Metadata) : Except Status Metadata :=
  token.write.result metadata

/-- The text of a token, the same for all tokens. -/
def render (_ : BearerToken) : String :=
  Text.record "BearerToken" [("token", Text.quoted redaction)]

end BearerToken
end Switchboard
