import Switchboard.Text.Fields

/-!
# Server names

A certificate is checked against a server name, which is a name of the domain
name system or an IP address.
-/

namespace Switchboard
namespace ServerName

/-- A character of a label. -/
def isLabelChar (char : Char) : Bool :=
  char.isAlphanum || char == '-' || char == '_'

/-- A label: 1 to 63 letters, digits, lines and hyphens, no hyphen at either end. -/
def isLabel (label : List Char) : Bool :=
  !label.isEmpty && label.length ≤ 63 && label.all isLabelChar &&
    label.head? != some '-' && label.getLast? != some '-'

/-- The labels of a name; a dot at the end of a name begins no label. -/
def labels (name : List Char) : List (List Char) :=
  let parts := Text.fields '.' name
  if parts.length > 1 && parts.getLast? == some [] then parts.dropLast else parts

/-- Whether characters are a domain name: at most 253 of them, in labels, the last
of which is not a number. -/
def isDomain (name : List Char) : Bool :=
  let parts := labels name
  name.length ≤ 253 && parts.all isLabel &&
    !(parts.getLast?.getD []).all Char.isDigit

/-- One of the four numbers of an address: below 256, without zeros in front. -/
def isOctet (part : List Char) : Bool :=
  (part.length == 1 || part.head? != some '0') && part.length ≤ 3 &&
    (Text.decimal? part).any (· < 256)

/-- Whether characters are an address of four numbers. -/
def isFourPart (address : List Char) : Bool :=
  let parts := Text.fields '.' address
  parts.length == 4 && parts.all isOctet

/-- A digit in hexadecimal notation. -/
def isHexDigit (char : Char) : Bool :=
  char.isDigit || ('a' ≤ char && char ≤ 'f') || ('A' ≤ char && char ≤ 'F')

/-- A group of an address in hexadecimal notation. -/
def isGroup (part : List Char) : Bool :=
  !part.isEmpty && part.length ≤ 4 && part.all isHexDigit

/-- How many groups a sequence stands for; only at the end of an address four
numbers may stand for two groups. -/
def groupCount? (final : Bool) : List (List Char) → Option Nat
  | [] => some 0
  | [part] =>
      if isGroup part then some 1
      else if final && isFourPart part then some 2
      else none
  | part :: rest => do
      guard (isGroup part)
      return (← groupCount? final rest) + 1

/-- The two sides of the first pair of colons, if there is one. -/
def gap? : List Char → Option (List Char × List Char)
  | ':' :: ':' :: rest => some ([], rest)
  | char :: rest => (gap? rest).map fun (left, right) => (char :: left, right)
  | [] => none

/-- The parts between colons; an empty text has none. -/
def groups (chars : List Char) : List (List Char) :=
  if chars.isEmpty then [] else Text.fields ':' chars

/-- Whether characters are an address of eight groups, of which a pair of colons
may leave out some. -/
def isEightPart (address : List Char) : Bool :=
  match gap? address with
  | none => groupCount? true (groups address) == some 8
  | some (left, right) =>
      match groupCount? false (groups left), groupCount? true (groups right) with
      | some before, some after => before + after ≤ 7
      | _, _ => false

/-- Whether characters are an IP address. -/
def isAddress (chars : List Char) : Bool :=
  isFourPart chars || isEightPart chars

/-- Whether characters are a server name. -/
def isValid (chars : List Char) : Bool :=
  isDomain chars || isAddress chars

end ServerName
end Switchboard
