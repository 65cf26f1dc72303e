import Switchboard.Config.Basic
import Switchboard.Toml.Writer

/-!
# Writing a configuration as a document

Fields are written in a fixed order, those without a value are left out, and the
table of certificates and keys comes last.  A path that is no text cannot be
written.
-/

namespace Switchboard

open Toml

/-- A line of a document that may be left out. -/
def optionalPair (key : String) (value? : Option (List Char)) : List Char :=
  match value? with
  | some value => writePair key value
  | none => []

/-- A path as it is written, if it is a text. -/
def writePath? (path : Text.Octets) : Option (List Char) :=
  (Text.decode? path).map fun text => writeText text.toList

/-- An optional path as it is written; `none` if it cannot be. -/
def writeOptionalPath? (path? : Option Text.Octets) : Option (Option (List Char)) :=
  match path? with
  | some path => (writePath? path).map some
  | none => some none

namespace TlsFiles

/-- The table of certificates and keys. -/
def render? (files : TlsFiles) : Option (List Char) := do
  let authority ← writePath? files.authority
  let certificate? ← writeOptionalPath? files.certificate?
  let key? ← writeOptionalPath? files.key?
  let domain? := files.domain?.map fun domain => writeText domain.toList
  return "\n[tls]\n".toList ++ writePair "ca_cert" authority ++
    optionalPair "client_cert" certificate? ++ optionalPair "client_key" key? ++
    optionalPair "domain" domain?

end TlsFiles

namespace Config

/-- The document of a configuration, if all its paths are texts. -/
def render? (config : Config) : Option (List Char) := do
  let logFile? ← writeOptionalPath? config.logFile?
  let tls ←
    match config.tls? with
    | some files => files.render?
    | none => some []
  let seconds? := config.connectSeconds?.map fun seconds => writeNumber seconds.toNat
  let token? := config.token?.map fun token => writeText token.toList
  return writePair "debug_mode" (writeTruth config.debugMode) ++
    writePair "auth_staleness_check" (writeTruth config.authenticationCheck) ++
    optionalPair "connect_timeout_secs" seconds? ++
    writePair "request_timeout_secs" (writeNumber config.requestSeconds.toNat) ++
    optionalPair "token" token? ++
    writePair "log_level" (writeText config.logLevel.word.toList) ++
    optionalPair "log_file" logFile? ++
    writePair "verbose" (writeTruth config.verbose) ++ tls

end Config
end Switchboard
