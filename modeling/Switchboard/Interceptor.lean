import Switchboard.Correlation
import Switchboard.Credentials

/-!
# Interceptors

An interceptor completes the metadata of every request on a connection: first
the id that is attached to the request, then the call credentials of the
connection.
-/

namespace Switchboard

/-- What a connection adds to its requests. -/
structure Interceptor where
  /-- The call credentials of the connection. -/
  credentials? : Option BearerToken
  deriving DecidableEq

namespace Interceptor

/-- The interceptor that adds no credentials. -/
def plain : Interceptor :=
  ⟨none⟩

/-- The metadata with which a request is sent. -/
def send
    (interceptor : Interceptor)
    (request : Request) : Except Status Metadata := do
  let identified ←
    match request.id? with
    | some id => id.apply request.metadata
    | none => .ok request.metadata
  match interceptor.credentials? with
  | some token => token.apply identified
  | none => .ok identified

/-- The text of an interceptor. -/
def render (interceptor : Interceptor) : String :=
  Text.record "ConnectionInterceptor"
    [("call_credentials",
      Text.optional BearerToken.render interceptor.credentials?)]

end Interceptor
end Switchboard
