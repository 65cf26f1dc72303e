import Switchboard.Credentials
import Switchboard.Fault.Connect
import Switchboard.Text.Blank

/-!
# Authorizers

An authorizer is asked for transport credentials and for call credentials; it
gives them or refuses.
-/

namespace Switchboard

/-- What an authorizer answers to the two questions. -/
structure Authorizer where
  /-- The answer when transport credentials are asked for. -/
  transport : Except ConnectError TlsSettings
  /-- The answer when call credentials are asked for. -/
  call : Except ConnectError BearerToken

/-- The authorizer without credentials. -/
def Authorizer.insecure : Authorizer where
  transport := .error (.authorization .insecureTransport)
  call := .error (.authorization .insecureCall)

/-- An authorizer's material: certificates, a server name and a token. -/
structure TlsMaterial where
  /-- The certificate authority. -/
  authority : String
  /-- The client's identity. -/
  identity? : Option Identity
  /-- The server name to expect. -/
  domain? : Option String
  /-- The bearer token. -/
  token? : Option String
  deriving DecidableEq

namespace TlsMaterial

/-- The transport credentials, if there is a certificate authority. -/
def transport (material : TlsMaterial) : Except ConnectError TlsSettings :=
  if Text.allBlank material.authority then
    .error (.authorization .noAuthority)
  else
    .ok ⟨some material.authority, material.identity?, material.domain?⟩

/-- The call credentials, if there is a token. -/
def call (material : TlsMaterial) : Except ConnectError BearerToken :=
  match material.token? with
  | none => .error (.authorization .noToken)
  | some secret => .ok ⟨secret⟩

/-- The authorizer that answers from the material. -/
def authorizer (material : TlsMaterial) : Authorizer :=
  ⟨material.transport, material.call⟩

/-- The text of the material, which shows no secret. -/
def render (material : TlsMaterial) : String :=
  Text.record "TlsAuthorizer"
    [("has_identity", Text.truth material.identity?.isSome),
     ("domain", Text.optional Text.quoted material.domain?),
     ("has_token", Text.truth material.token?.isSome)]

end TlsMaterial
end Switchboard
