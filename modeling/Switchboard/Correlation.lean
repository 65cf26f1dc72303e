import Switchboard.Metadata
import Switchboard.Text.Quoted

/-!
# Correlation ids

A correlation id ties a request to the operation that issued it.  It is attached
to the request and sent in the request's metadata; the receiver reads it back
from there.
-/

namespace Switchboard

/-- The id of the operation that issued a request. -/
structure CorrelationId where
  /-- The text of the id. -/
  text : String
  deriving DecidableEq

namespace CorrelationId

/-- The key under which an id is sent. -/
def key : String :=
  "x-correlation-id"

/-- The value in which an id is sent. -/
def value (id : CorrelationId) : Text.Octets :=
  Text.octets id.text

/-- The status of a request whose id cannot be sent. -/
def rejection : Status :=
  ⟨.invalidArgument, "correlation id is not valid metadata"⟩

/-- An id is written into metadata in place, and takes the place of any other. -/
def write (id : CorrelationId) : Edit Status Metadata Unit :=
  Metadata.write key id.value rejection

/-- The metadata of a request that has an id. -/
def apply
    (id : CorrelationId)
    (metadata : Metadata) : Except Status Metadata :=
  id.write.result metadata

/-- The id in received metadata: the first value, if it can be read. -/
def ofMetadata? (metadata : Metadata) : Option CorrelationId :=
  ((metadata.values key).head?.bind Metadata.read?).map CorrelationId.mk

/-- The text of an id as records show it. -/
def render (id : CorrelationId) : String :=
  "CorrelationId(" ++ Text.quoted id.text ++ ")"

end CorrelationId

/-- A request before it is sent. -/
structure Request where
  /-- Its metadata. -/
  metadata : Metadata
  /-- The id that is attached to it. -/
  id? : Option CorrelationId

namespace Request

/-- A request without an id. -/
def ofMetadata (metadata : Metadata) : Request :=
  ⟨metadata, none⟩

/-- The request with an id attached in place of any earlier one. -/
def attach
    (request : Request)
    (id : CorrelationId) : Request :=
  { request with id? := some id }

end Request
end Switchboard
