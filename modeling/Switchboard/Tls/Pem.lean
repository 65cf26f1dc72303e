import Switchboard.Text.Fields

/-!
# Sections of certificates and keys

Certificates and keys are texts of labelled sections between a line that begins
and a line that ends each of them; what stands outside sections is ignored.
Inside there are base64 digits.  The octets that they stand for are one sequence
in a certificate or a key: an identifying octet, a length, and so many octets.
-/

namespace Switchboard
namespace Pem

/-- A section that has been begun. -/
structure OpenSection where
  /-- Its label. -/
  label : List Char
  /-- The characters inside. -/
  body : List Char

/-- A complete section: its label and the characters inside. -/
abbrev Section := List Char × List Char

/-- What a line that begins a section begins with. -/
def opening : List Char := "-----BEGIN ".toList

/-- What the line that ends a section begins with. -/
def closing (label : List Char) : List Char :=
  "-----END ".toList ++ label ++ "-----".toList

/-- The label of a line that begins a section: it stands before five hyphens,
behind which there are at most blanks. -/
def labelOf? (line : List Char) : Option (List Char) :=
  let kept :=
    line.reverse.dropWhile fun char => char == '-' || char == '\r' || char == ' '
  let tail := line.drop kept.length
  let label := line.take kept.length ++ tail.takeWhile (· != '-')
  if tail.count '-' = 5 then some (label.drop opening.length) else none

/-- The sections of the lines of a text; none if a section is not begun or ended
properly. -/
def sectionsOf? : Option OpenSection → List (List Char) → Option (List Section)
  | none, [] => some []
  | some _, [] => none
  | open?, line :: rest =>
      if opening.isPrefixOf line then
        match labelOf? line with
        | some label => sectionsOf? (some ⟨label, []⟩) rest
        | none => none
      else
        match open? with
        | none => sectionsOf? none rest
        | some current =>
            if (closing current.label).isPrefixOf line then
              (sectionsOf? none rest).map ((current.label, current.body) :: ·)
            else
              sectionsOf? (some { current with body := current.body ++ line }) rest

/-- The labels of sections that are certificates. -/
def certificateLabel : List Char := "CERTIFICATE".toList

/-- The labels of sections that are private keys. -/
def keyLabels : List (List Char) :=
  ["PRIVATE KEY".toList, "RSA PRIVATE KEY".toList, "EC PRIVATE KEY".toList]

/-- All labels of sections whose contents are looked at. -/
def knownLabels : List (List Char) :=
  certificateLabel :: keyLabels ++
    ["PUBLIC KEY".toList, "X509 CRL".toList, "CERTIFICATE REQUEST".toList]

/-- A digit in base64 notation. -/
def isDigit (char : Char) : Bool :=
  char.isAlphanum || char == '+' || char == '/'

/-- What a digit stands for. -/
def digitValue (char : Char) : Nat :=
  if char.isUpper then char.toNat - 'A'.toNat
  else if char.isLower then char.toNat - 'a'.toNat + 26
  else if char.isDigit then char.toNat - '0'.toNat + 52
  else if char == '+' then 62
  else 63

/-- The octets that digits stand for, three for four digits. -/
def octetsOf : List Char → List Nat
  | first :: second :: third :: fourth :: rest =>
      (digitValue first * 4 + digitValue second / 16) ::
        (digitValue second % 16 * 16 + digitValue third / 4) ::
        (digitValue third % 4 * 64 + digitValue fourth) :: octetsOf rest
  | [first, second, third] =>
      [digitValue first * 4 + digitValue second / 16,
        digitValue second % 16 * 16 + digitValue third / 4]
  | [first, second] => [digitValue first * 4 + digitValue second / 16]
  | [_] | [] => []

/-- Whether octets are one sequence.  A length from 128 on is written behind an octet
that tells the number of its own octets. -/
def isSequence : List Nat → Bool
  | 0x30 :: length :: rest =>
      if length < 128 then rest.length == length
      else
        let value := (rest.take (length - 128)).foldl (fun value octet => value * 256 + octet) 0
        length > 128 && rest.length == length - 128 + value
  | _ => false

/-- A character between the digits that means nothing. -/
def isFiller (char : Char) : Bool :=
  char == ' ' || char == '\t' || char == '\r' || char == '\n'

/-- Whether the characters inside a section are octets in base64 notation. -/
def isBody (body : List Char) : Bool :=
  let digits := body.filter (!isFiller ·)
  let padding := digits.reverse.takeWhile (· == '=')
  let rest := digits.take (digits.length - padding.length)
  rest.all isDigit && padding.length ≤ 2 && rest.length % 4 != 1

/-- Whether the characters inside a section stand for one sequence. -/
def holdsSequence (body : List Char) : Bool :=
  isSequence (octetsOf (body.filter isDigit))

/-- The sections of a text whose contents are looked at, if all of them are sound. -/
def sections? (text : String) : Option (List Section) :=
  ((sectionsOf? none (Text.fields '\n' text.toList)).map fun all =>
      all.filter fun (label, _) => knownLabels.contains label).filter
    fun known => known.all fun (_, body) => isBody body

/-- Whether certificates can be read from a text, even if there are none. -/
def holdsCertificates (text : String) : Bool :=
  (sections? text).isSome

/-- Whether there is a certificate in a text, the first one being a sequence. -/
def hasCertificate (text : String) : Bool :=
  (sections? text).any fun known =>
    (known.find? fun (label, _) => label == certificateLabel).any (holdsSequence ·.2)

/-- Whether there is a private key in a text, the first one being a sequence. -/
def hasKey (text : String) : Bool :=
  (sections? text).any fun known =>
    (known.find? fun (label, _) => keyLabels.contains label).any (holdsSequence ·.2)

end Pem
end Switchboard
