import Switchboard.Config.Decode
import Switchboard.Config.Render
import Switchboard.Edit
import Switchboard.Fault.Client
import Switchboard.Files

/-!
# Configurations in files

A configuration is loaded from a file and saved to one.  The certificates and keys
that it names are read when its authorizer is made.
-/

namespace Switchboard
namespace Config

/-- The configuration that a file describes. -/
def load (files : FileTree) (path : Text.Octets) : Except ClientError Config :=
  match files.read path with
  | .error fault => .error (.config (.unreadable path fault))
  | .ok text => (parse text.toList).mapError fun fault => .config (.document fault)

/-- The document of a configuration. -/
def document (config : Config) : Except ClientError String :=
  match config.render? with
  | some text => .ok (String.ofList text)
  | none => .error (.config .pathNotText)

/-- A configuration is saved in a file: its document is made first and then written. -/
def saving
    (config : Config)
    (path : Text.Octets) : Edit ClientError FileTree Unit := do
  let text ← config.document
  Edit.remake fun files => (files.write path (Text.octets text)).mapError .ofFile

/-- The files with a configuration that has been saved. -/
def save
    (config : Config)
    (files : FileTree)
    (path : Text.Octets) : Except ClientError FileTree :=
  (config.saving path).result files

/-- The files once a configuration has been saved, or could not be. -/
def filesAfter
    (config : Config)
    (files : FileTree)
    (path : Text.Octets) : FileTree :=
  (config.saving path).after files

/-- The text of a certificate or a key. -/
def readSecret (files : FileTree) (path : Text.Octets) : Except ClientError String :=
  (files.read path).mapError fun fault => .config (.unreadable path fault)

/-- The client's identity, for which both files are needed or none. -/
def identity?
    (files : FileTree)
    (tls : TlsFiles) : Except ClientError (Option Identity) :=
  match tls.certificate?, tls.key? with
  | some certificate, some key => do
      let certificate ← readSecret files certificate
      let key ← readSecret files key
      return some ⟨certificate, key⟩
  | none, none => .ok none
  | _, _ => .error (.config .halfIdentity)

/-- The authorizer that a configuration describes: without certificates it is the
one without credentials. -/
def authorizer
    (config : Config)
    (files : FileTree) : Except ClientError Authorizer :=
  match config.tls? with
  | none => .ok .insecure
  | some tls => do
      let authority ← readSecret files tls.authority
      let identity? ← identity? files tls
      return (TlsMaterial.mk authority identity? tls.domain? config.token?).authorizer

end Config
end Switchboard
