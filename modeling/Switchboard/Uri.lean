import Switchboard.Text.Fields
import Switchboard.Text.Octets

/-!
# URIs

A URI is a scheme, an authority, a path and a query.  The authority ends at the
first slash, question mark or number sign; a fragment is not kept.
-/

namespace Switchboard

/-- An absolute URI. -/
structure Uri where
  /-- The scheme. -/
  scheme : String
  /-- User, host and port. -/
  authority : List Char
  /-- The path. -/
  path : List Char
  /-- What follows the question mark, if there is one. -/
  query? : Option (List Char)
  deriving DecidableEq

namespace Uri

/-- The greatest number of octets of a URI. -/
def maxWidth : Nat := 65534

/-- A character that ends the authority. -/
def endsAuthority (char : Char) : Bool :=
  char == '/' || char == '?' || char == '#'

/-- A character that may stand in an authority wherever it likes. -/
def isAuthorityChar (char : Char) : Bool :=
  char.isAlphanum || "!$&'()*+,-.;=_~".toList.contains char

/-- What has been seen of an authority. -/
structure AuthorityScan where
  /-- The colons since the last user or bracket. -/
  colons : Nat
  /-- Whether a bracket has been opened. -/
  opened : Bool
  /-- Whether the bracket has been closed. -/
  closed : Bool
  /-- Whether there is a percent sign since the last user or bracket. -/
  percent : Bool

namespace AuthorityScan

/-- Nothing has been seen. -/
def initial : AuthorityScan :=
  ⟨0, false, false, false⟩

/-- The scan after one more character, unless the character may not stand there. -/
def next? (scan : AuthorityScan) (char : Char) : Option AuthorityScan :=
  if char = ':' then
    if scan.colons < 8 then some { scan with colons := scan.colons + 1 } else none
  else if char = '[' then
    if scan.percent || scan.opened then none else some { scan with opened := true }
  else if char = ']' then
    if !scan.opened || scan.closed then none
    else some { scan with closed := true, colons := 0, percent := false }
  else if char = '@' then
    some { scan with colons := 0, percent := false }
  else if char = '%' then
    some { scan with percent := true }
  else if isAuthorityChar char then
    some scan
  else
    none

/-- Whether an authority may end here. -/
def mayEnd (scan : AuthorityScan) : Bool :=
  scan.opened == scan.closed && scan.colons ≤ 1 && !scan.percent

end AuthorityScan

/-- Whether characters make an authority that is not empty. -/
def isAuthority (chars : List Char) : Bool :=
  !chars.isEmpty && chars.getLast? != some '@' &&
    (chars.foldlM AuthorityScan.next? .initial).any AuthorityScan.mayEnd

/-- Whether a character's code lies between two codes. -/
def codeIn (low high : Nat) (char : Char) : Bool :=
  low ≤ char.toNat && char.toNat ≤ high

/-- A character that may stand in a path. -/
def isPathChar (char : Char) : Bool :=
  char == '!' || codeIn 0x24 0x3B char || char == '=' || codeIn 0x40 0x5F char ||
    codeIn 0x61 0x7E char || 0x7F ≤ char.toNat || char == '"'

/-- A character that may stand in a query. -/
def isQueryChar (char : Char) : Bool :=
  char == '!' || codeIn 0x24 0x3B char || char == '=' || 0x3F ≤ char.toNat

/-- The URI of a scheme and what follows the two slashes, if it is one. -/
def parse? (scheme : String) (rest : String) : Option Uri :=
  let chars := rest.toList
  let authority := chars.takeWhile (!endsAuthority ·)
  let tail := chars.dropWhile (!endsAuthority ·)
  let path := tail.takeWhile fun char => char != '?' && char != '#'
  let query? :=
    match tail.dropWhile fun char => char != '?' && char != '#' with
    | '?' :: query => some (query.takeWhile (· != '#'))
    | _ => none
  let width := Text.width scheme.toList + 3 + Text.width chars
  if width ≤ maxWidth && isAuthority authority && path.all isPathChar &&
      query?.all (·.all isQueryChar) then
    some ⟨scheme, authority, path, query?⟩
  else
    none

/-- The host and the port as they are written. -/
def hostAndPort (uri : Uri) : List Char :=
  (Text.lastField? '@' uri.authority).getD uri.authority

/-- The host, with its brackets if it has any. -/
def host (uri : Uri) : List Char :=
  match uri.hostAndPort with
  | '[' :: _ => uri.hostAndPort.takeWhile (· != ']') ++ [']']
  | other => other.takeWhile (· != ':')

/-- The host without brackets. -/
def bareHost (uri : Uri) : List Char :=
  let unopened := uri.host.dropWhile (· == '[')
  (unopened.reverse.dropWhile (· == ']')).reverse

/-- The port: what stands behind the last colon, if it is a number below 65536. -/
def port? (uri : Uri) : Option Nat :=
  (Text.lastField? ':' uri.authority).bind (Text.unsigned? 65536)

/-- The text of a URI, in which an empty path is a slash. -/
def render (uri : Uri) : String :=
  let path := if uri.path.isEmpty then ['/'] else uri.path
  let query :=
    match uri.query? with
    | some query => '?' :: query
    | none => []
  uri.scheme ++ "://" ++ String.ofList (uri.authority ++ path ++ query)

end Uri
end Switchboard
