import Switchboard.Config.Basic
import Switchboard.Toml.Complaint
import Switchboard.Toml.Reader

/-!
# Reading a configuration from a document

The keys of a document are visited in the order of their names.  A key that a
configuration knows sets a field; any other key is ignored, as long as the numbers
behind it can be represented.  The first complaint counts.
-/

namespace Switchboard
namespace Toml

/-- A complaint about a value, with its place. -/
abbrev Located := Span × Complaint

/-- A whole number, if it is within 128 bits. -/
def checkInteger (value : Int) : Except Complaint Int :=
  if -(Int.pow 2 127) ≤ value ∧ value < Int.pow 2 128 then .ok value else .error .integerOverflow

/-- A number with a point, if it is within double precision. -/
def checkFloat (number : Float) : Except Complaint Binary :=
  match number.value? with
  | some value => .ok value
  | none => .error .floatOverflow

/-- The kind of a value. -/
def Value.kind : Value → Except Complaint Kind
  | .string text => .ok (.string text)
  | .integer value => (checkInteger value).map .integer
  | .float number => (checkFloat number).map .float
  | .boolean value => .ok (.boolean value)
  | .array _ _ => .ok .sequence
  | .table _ _ | .dateTime => .ok .map

/-- The complaint about a value that is of another kind than expected. -/
def Value.mismatch (value : Value) (expected : String) : Complaint :=
  match value.kind with
  | .ok kind => .wrongKind kind expected
  | .error complaint => complaint

/-- A truth value. -/
def Value.asTruth : Value → Except Complaint Bool
  | .boolean value => .ok value
  | other => .error (other.mismatch "a boolean")

/-- A text. -/
def Value.asText (expected : String) : Value → Except Complaint String
  | .string text => .ok text
  | other => .error (other.mismatch expected)

/-- A path. -/
def Value.asPath (value : Value) : Except Complaint Text.Octets :=
  (value.asText "path string").map Text.octets

/-- A number of seconds. -/
def Value.asSeconds : Value → Except Complaint UInt64
  | .integer value =>
      if 0 ≤ value ∧ value < Int.pow 2 64 then .ok (.ofNat value.toNat)
      else if -(Int.pow 2 63) ≤ value ∧ value < 0 then
        .error (.outOfRange (.integer value) "u64")
      else .error ((Value.integer value).mismatch "u64")
  | other => .error (other.mismatch "u64")

/-- What a value that stands behind a word is called. -/
def Value.label : Value → String
  | .string _ => "string"
  | .integer _ => "integer"
  | .float _ => "float"
  | .boolean _ => "boolean"
  | .dateTime => "datetime"
  | .array _ _ => "array"
  | .table _ _ => "table"

/-- The first of several complaints, by the names of their keys. -/
def leastKey : List (String × Located) → Option Located
  | [] => none
  | (key, located) :: rest =>
      if rest.all fun (other, _) => key ≤ other then some located else leastKey rest

mutual

/-- The complaint about the numbers in a value that is ignored, if there is one. -/
def ignored (span : Span) : Value → Option Located
  | .integer value =>
      match checkInteger value with
      | .error complaint => some (span, complaint)
      | .ok _ => none
  | .float number =>
      match checkFloat number with
      | .error complaint => some (span, complaint)
      | .ok _ => none
  | .array _ items => ignoredItems items
  | .table _ entries => leastKey (ignoredEntries entries)
  | .string _ | .boolean _ | .dateTime => none

/-- The first complaint about the items of an array. -/
def ignoredItems : List (Span × Value) → Option Located
  | [] => none
  | (span, value) :: rest => (ignored span value).or (ignoredItems rest)

/-- The complaints about the values of a table. -/
def ignoredEntries : List (Key × Span × Value) → List (String × Located)
  | [] => []
  | (key, span, value) :: rest =>
      match ignored span value with
      | some located => (key.text, located) :: ignoredEntries rest
      | none => ignoredEntries rest

end

/-- The entries of a table in the order of their keys. -/
def sortedEntries (entries : Entries) : Entries :=
  entries.mergeSort fun left right => left.1.text ≤ right.1.text

/-- What a value gives, with the place of a complaint. -/
def located (span : Span) (result : Except Complaint α) : Except Located α :=
  result.mapError fun complaint => (span, complaint)

/-- An ignored value. -/
def ignore (span : Span) (value : Value) : Except Located Unit :=
  match ignored span value with
  | some complaint => .error complaint
  | none => .ok ()

end Toml

open Toml

namespace Level

/-- A level, by its word or by a table whose one key is the word. -/
def ofValue (span : Span) : Value → Except Located Level
  | .string text => located span (ofWord text)
  | .table _ [] => .error (span, .noEntry)
  | .table _ [(key, place, value)] => do
      let level ← located key.span (ofWord key.text)
      match value with
      | .array _ [] | .table _ [] => return level
      | .array _ _ => .error (place, .fullArray)
      | .table _ _ => .error (place, .fullTable)
      | other => .error (place, .wordValue other.label)
  | .table _ _ => .error (span, .manyEntries)
  | _ => .error (span, .noWord)
where
  /-- The level that a word stands for. -/
  ofWord (word : String) : Except Complaint Level :=
    match Level.ofWord? word with
    | some level => .ok level
    | none => .error (.unknownWord word (Level.all.map Level.word))

end Level

namespace TlsFiles

/-- What has been read of the files so far. -/
structure Draft where
  /-- The file of the certificate authority. -/
  authority? : Option Text.Octets
  /-- The file of the client's certificate. -/
  certificate? : Option Text.Octets
  /-- The file of the client's private key. -/
  key? : Option Text.Octets
  /-- The server name to expect. -/
  domain? : Option String

/-- Nothing has been read. -/
def Draft.empty : Draft :=
  ⟨none, none, none, none⟩

/-- What has been read after one more entry. -/
def Draft.add (draft : Draft) : Key × Span × Value → Except Located Draft
  | (key, span, value) =>
      match key.text with
      | "ca_cert" => do
          return { draft with authority? := some (← located span value.asPath) }
      | "client_cert" => do
          return { draft with certificate? := some (← located span value.asPath) }
      | "client_key" => do
          return { draft with key? := some (← located span value.asPath) }
      | "domain" => do
          return { draft with domain? := some (← located span (value.asText "a string")) }
      | _ => do
          ignore span value
          return draft

/-- The files, if the one that is needed is among them. -/
def Draft.complete (draft : Draft) : Except Complaint TlsFiles :=
  match draft.authority? with
  | some authority => .ok ⟨authority, draft.certificate?, draft.key?, draft.domain?⟩
  | none => .error (.missing "ca_cert")

/-- The optional items of an array behind the first one. -/
def item?
    (items : List (Span × Value))
    (index : Nat)
    (read : Value → Except Complaint α) : Except Located (Option α) :=
  match items[index]? with
  | some (span, value) => (located span (read value)).map some
  | none => .ok none

/-- The files, from the entries of a table or the items of an array in order. -/
def ofValue (span : Span) : Value → Except Located TlsFiles
  | .table _ entries => do
      located span (← (sortedEntries entries).foldlM Draft.add .empty).complete
  | .dateTime => .error (span, .missing "ca_cert")
  | .array _ items => do
      match ← item? items 0 Value.asPath with
      | none => .error (span, .tooShort 0 "struct TlsConfig with 4 elements")
      | some authority =>
          let certificate? ← item? items 1 Value.asPath
          let key? ← item? items 2 Value.asPath
          let domain? ← item? items 3 (Value.asText "a string")
          return ⟨authority, certificate?, key?, domain?⟩
  | other => .error (span, other.mismatch "struct TlsConfig")

end TlsFiles

namespace Config

/-- The configuration after one more entry of a document. -/
def add (config : Config) : Key × Span × Value → Except Located Config
  | (key, span, value) =>
      match key.text with
      | "debug_mode" => do
          return { config with debugMode := ← located span value.asTruth }
      | "auth_staleness_check" => do
          return { config with authenticationCheck := ← located span value.asTruth }
      | "connect_timeout_secs" => do
          return { config with connectSeconds? := some (← located span value.asSeconds) }
      | "request_timeout_secs" => do
          return { config with requestSeconds := ← located span value.asSeconds }
      | "tls" => do
          return { config with tls? := some (← TlsFiles.ofValue span value) }
      | "token" => do
          return { config with token? := some (← located span (value.asText "a string")) }
      | "log_level" => do
          return { config with logLevel := ← Level.ofValue span value }
      | "log_file" => do
          return { config with logFile? := some (← located span value.asPath) }
      | "verbose" => do
          return { config with verbose := ← located span value.asTruth }
      | _ => do
          ignore span value
          return config

/-- What each field is when its key is missing. -/
def unset : Config where
  debugMode := false
  authenticationCheck := false
  connectSeconds? := none
  requestSeconds := defaultRequestSeconds
  tls? := none
  token? := none
  logLevel := Level.default
  logFile? := none
  verbose := false

/-- The configuration that the table of a document describes. -/
def ofEntries (entries : Entries) : Except Located Config :=
  (sortedEntries entries).foldlM add unset

/-- The configuration that a document describes. -/
def parse (source : List Char) : Except Fault Config :=
  match document? source with
  | none => .error .malformed
  | some entries =>
      (ofEntries entries).mapError fun (span, complaint) =>
        .complaint (.of source span) complaint

end Config
end Switchboard
