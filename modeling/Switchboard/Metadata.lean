import Switchboard.Edit
import Switchboard.Status
import Switchboard.Text.Octets
import Switchboard.Text.Blank

/-!
# Metadata of requests

A request carries keys, each with one or more values in order.  A value may be
sent when it has no control but the tab; it can be read as a text when all its
octets are visible ASCII characters, spaces or tabs.
-/

namespace Switchboard

/-- The keys and values of a request, in the order in which they were added. -/
structure Metadata where
  /-- One entry for each value. -/
  entries : List (String × Text.Octets)
  deriving DecidableEq

namespace Metadata

/-- No key has a value. -/
def empty : Metadata :=
  ⟨[]⟩

/-- A key in the form in which it is kept: without ASCII capitals. -/
def foldKey (key : String) : String :=
  String.ofList (key.toList.map Text.lowerAscii)

/-- One more value for a key, behind the values that it has. -/
def add
    (metadata : Metadata)
    (key : String)
    (value : Text.Octets) : Metadata :=
  ⟨metadata.entries ++ [(foldKey key, value)]⟩

/-- The values of a key, in order. -/
def values
    (metadata : Metadata)
    (key : String) : List Text.Octets :=
  (metadata.entries.filter fun (other, _) => other == key).map (·.2)

/-- The metadata without a key. -/
def remove
    (metadata : Metadata)
    (key : String) : Metadata :=
  ⟨metadata.entries.filter fun (other, _) => !(other == key)⟩

/-- The metadata in which a key has exactly one value. -/
def put
    (metadata : Metadata)
    (key : String)
    (value : Text.Octets) : Metadata :=
  ⟨(metadata.remove key).entries ++ [(key, value)]⟩

/-- Whether an octet may be sent in a value. -/
def isSendableOctet (octet : UInt8) : Bool :=
  octet == 9 || (32 ≤ octet && octet != 127)

/-- Whether octets may be sent as a value. -/
def isSendable (value : Text.Octets) : Bool :=
  value.all isSendableOctet

/-- A value is judged and then written under a key, in place of all others. -/
def write
    (key : String)
    (value : Text.Octets)
    (rejection : Status) : Edit Status Metadata Unit := do
  unless isSendable value do
    throw rejection
  modify (·.put key value)

/-- Whether an octet of a value can be read as a character. -/
def isReadableOctet (octet : UInt8) : Bool :=
  octet == 9 || (32 ≤ octet && octet < 127)

/-- The text of a value, if all its octets can be read. -/
def read? (value : Text.Octets) : Option String :=
  if value.all isReadableOctet then
    some (String.ofList (value.map fun octet => Char.ofNat octet.toNat))
  else
    none

/-- The entries, sorted by key, the values of a key staying in order. -/
def sorted (metadata : Metadata) : List (String × Text.Octets) :=
  metadata.entries.mergeSort fun left right => decide (left.1 ≤ right.1)

end Metadata
end Switchboard
