import Switchboard.Config.Load
import Switchboard.Proofs.Outcome
import Switchboard.Proofs.Text.Octets

/-!
# Authorizers of configurations

A configuration has an authorizer unless a file that it names is no text that can be read, or
one of certificate and key is missing.  The authority is read first, and the certificate before
the key.  What the authorizer answers depends on the authority and the token only, and when it
refuses it says what is missing.
-/

namespace Switchboard

/-- A path leads to a file that is a text. -/
def FileTree.IsReadable
    (files : FileTree)
    (path : Text.Octets) : Prop :=
  ∃ text, files.readOctets path = .ok (Text.octets text)

/-- All files are texts that can be read, and certificate and key are both given or both not. -/
structure TlsFiles.AreReadable
    (tls : TlsFiles)
    (files : FileTree) : Prop where
  authority : files.IsReadable tls.authority
  identity : (tls.certificate? = none ∧ tls.key? = none) ∨
    ∃ certificate key, tls.certificate? = some certificate ∧ tls.key? = some key ∧
      files.IsReadable certificate ∧ files.IsReadable key

namespace Config

/-- A file cannot be read, and this is why there is no authorizer. -/
def StopsAt
    (config : Config)
    (files : FileTree)
    (path : Text.Octets) : Prop :=
  ∃ fault, files.read path = .error fault ∧
    config.authorizer files = .error (.config (.unreadable path fault))

/-- When a configuration has an authorizer, and what is reported otherwise. -/
structure Authorizes
    (config : Config)
    (files : FileTree) : Prop where
  /-- There is an authorizer if no certificates are wanted, or all can be read. -/
  succeeds : (∃ authorizer, config.authorizer files = .ok authorizer) ↔
    config.tls? = none ∨ ∃ tls, config.tls? = some tls ∧ tls.AreReadable files
  /-- An authority that cannot be read is reported whatever is wrong with the identity. -/
  authority : ∀ tls, config.tls? = some tls → ¬files.IsReadable tls.authority →
    config.StopsAt files tls.authority
  /-- Half an identity is reported whether or not the file that is given can be read. -/
  half : ∀ tls, config.tls? = some tls → files.IsReadable tls.authority →
    tls.certificate?.isSome ≠ tls.key?.isSome →
      config.authorizer files = .error (.config .halfIdentity)
  /-- A certificate that cannot be read is reported whether or not the key can be read. -/
  certificate : ∀ tls certificate, config.tls? = some tls → files.IsReadable tls.authority →
    tls.certificate? = some certificate → tls.key?.isSome → ¬files.IsReadable certificate →
      config.StopsAt files certificate
  /-- A key that cannot be read is reported last. -/
  key : ∀ tls certificate key, config.tls? = some tls → files.IsReadable tls.authority →
    tls.certificate? = some certificate → tls.key? = some key →
      files.IsReadable certificate → ¬files.IsReadable key → config.StopsAt files key

/-- The file of the authority is a text, and it has more than blanks. -/
def HasAuthority
    (config : Config)
    (files : FileTree) : Prop :=
  ∃ tls text, config.tls? = some tls ∧
    files.readOctets tls.authority = .ok (Text.octets text) ∧
      ∃ char ∈ text.toList, Text.isBlank char = false

/-- What is missing when transport credentials are asked for. -/
inductive LacksTransport
    (config : Config)
    (files : FileTree) : Refusal → Prop
  | certificates
      (unsecured : config.tls? = none) :
      LacksTransport config files .insecureTransport
  | authority
      (secured : config.tls?.isSome)
      (missing : ¬config.HasAuthority files) :
      LacksTransport config files .noAuthority

variable {config : Config} {files : FileTree} {path : Text.Octets} {tls : TlsFiles}
  {authorizer : Authorizer}

/-! ## Reading -/

theorem read_eq_ok_iff {text : String} :
    files.read path = .ok text ↔ files.readOctets path = .ok (Text.octets text) := by
  rw [FileTree.read]
  cases files.readOctets path with
  | error fault => simp [bind, Except.bind]
  | ok octets =>
      rw [Except.ok.injEq, ← Text.decode?_eq_some_iff]
      cases decoded : Text.decode? octets <;> simp [bind, Except.bind, decoded, pure, Except.pure]

theorem readSecret_eq_ok_iff {text : String} :
    readSecret files path = .ok text ↔ files.readOctets path = .ok (Text.octets text) := by
  rw [← read_eq_ok_iff, readSecret, mapError_eq_ok_iff]

theorem isReadable_iff : files.IsReadable path ↔ ∃ text, readSecret files path = .ok text := by
  simp only [readSecret_eq_ok_iff, FileTree.IsReadable]

/-- What cannot be read is reported with its path. -/
theorem readSecret_of_not_isReadable
    (unreadable : ¬files.IsReadable path) :
    ∃ fault, files.read path = .error fault ∧
      readSecret files path = .error (.config (.unreadable path fault)) := by
  cases found : files.read path with
  | ok text => exact absurd ⟨text, read_eq_ok_iff.mp found⟩ unreadable
  | error fault =>
      refine ⟨fault, rfl, ?_⟩
      rw [readSecret, found]
      rfl

/-! ## Making an authorizer -/

theorem identity?_of_both
    {certificate key : Text.Octets}
    (first : tls.certificate? = some certificate)
    (second : tls.key? = some key) :
    identity? files tls =
      (readSecret files certificate).bind fun certificate =>
        (readSecret files key).map fun key => some ⟨certificate, key⟩ := by
  rw [identity?, first, second]
  rfl

/-- Half an identity is none, whatever the file is that is given. -/
theorem identity?_of_half (half : tls.certificate?.isSome ≠ tls.key?.isSome) :
    identity? files tls = .error (.config .halfIdentity) := by
  cases first : tls.certificate? <;> cases second : tls.key? <;>
    simp [identity?, first, second] at half ⊢

theorem authorizer_of_some (present : config.tls? = some tls) :
    config.authorizer files =
      (readSecret files tls.authority).bind fun authority =>
        (identity? files tls).map fun identity? =>
          (TlsMaterial.mk authority identity? tls.domain? config.token?).authorizer := by
  rw [authorizer, present]
  rfl

/-- There is no authorizer without the authority. -/
theorem authorizer_of_not_isReadable
    (present : config.tls? = some tls)
    (unreadable : ¬files.IsReadable tls.authority) :
    config.StopsAt files tls.authority := by
  obtain ⟨fault, unread, reported⟩ := readSecret_of_not_isReadable unreadable
  refine ⟨fault, unread, ?_⟩
  rw [authorizer_of_some present, reported]
  rfl

/-- What is wrong with the identity is reported once the authority has been read. -/
theorem authorizer_of_identity?
    {error : ClientError}
    (present : config.tls? = some tls)
    (readable : files.IsReadable tls.authority)
    (failed : identity? files tls = .error error) :
    config.authorizer files = .error error := by
  obtain ⟨authority, found⟩ := isReadable_iff.mp readable
  rw [authorizer_of_some present, found, failed]
  rfl

/-- An identity can be had exactly if none is wanted, or both files can be read. -/
theorem exists_identity?_iff :
    (∃ identity, identity? files tls = .ok identity) ↔
      (tls.certificate? = none ∧ tls.key? = none) ∨
        ∃ certificate key, tls.certificate? = some certificate ∧ tls.key? = some key ∧
          files.IsReadable certificate ∧ files.IsReadable key := by
  cases first : tls.certificate? with
  | none => cases second : tls.key? <;> simp [identity?, first, second]
  | some certificate =>
      cases second : tls.key? with
      | none => simp [identity?, first, second]
      | some key =>
          simp [identity?_of_both first second, bind_eq_ok_iff, map_eq_ok_iff, isReadable_iff]

/-- An authorizer has been made of what was read. -/
theorem exists_material
    (made : config.authorizer files = .ok authorizer)
    (present : config.tls? = some tls) :
    ∃ authority identity, readSecret files tls.authority = .ok authority ∧
      identity? files tls = .ok identity ∧
      authorizer = (TlsMaterial.mk authority identity tls.domain? config.token?).authorizer := by
  rw [authorizer_of_some present, bind_eq_ok_iff] at made
  obtain ⟨authority, found, made⟩ := made
  obtain ⟨identity, identified, rfl⟩ := map_eq_ok_iff.mp made
  exact ⟨authority, identity, found, identified, rfl⟩

/-- Whether a configuration has an authorizer depends on its files, and so does what is
reported. -/
theorem authorizes
    (config : Config)
    (files : FileTree) :
    config.Authorizes files where
  succeeds := by
    cases present : config.tls? with
    | none => exact iff_of_true ⟨.insecure, by rw [authorizer, present]⟩ (Or.inl rfl)
    | some tls =>
        constructor
        · rintro ⟨authorizer, made⟩
          obtain ⟨authority, identity, found, identified, -⟩ := exists_material made present
          exact Or.inr ⟨tls, rfl, isReadable_iff.mpr ⟨authority, found⟩,
            exists_identity?_iff.mp ⟨identity, identified⟩⟩
        · rintro (impossible | ⟨other, same, readable⟩)
          · cases impossible
          · obtain rfl := Option.some.inj same
            obtain ⟨authority, found⟩ := isReadable_iff.mp readable.authority
            obtain ⟨identity, identified⟩ := exists_identity?_iff.mpr readable.identity
            rw [authorizer_of_some present, found, identified]
            exact ⟨_, rfl⟩
  authority := fun _ => authorizer_of_not_isReadable
  half := by
    intro tls present readable half
    exact authorizer_of_identity? present readable (identity?_of_half half)
  certificate := by
    intro tls certificate present readable first given unreadable
    obtain ⟨key, second⟩ := Option.isSome_iff_exists.mp given
    obtain ⟨fault, unread, reported⟩ := readSecret_of_not_isReadable unreadable
    refine ⟨fault, unread, authorizer_of_identity? present readable ?_⟩
    rw [identity?_of_both first second, reported]
    rfl
  key := by
    intro tls certificate key present readable first second certified unreadable
    obtain ⟨text, found⟩ := isReadable_iff.mp certified
    obtain ⟨fault, unread, reported⟩ := readSecret_of_not_isReadable unreadable
    refine ⟨fault, unread, authorizer_of_identity? present readable ?_⟩
    rw [identity?_of_both first second, found, reported]
    rfl

/-! ## What the authorizer answers -/

/-- The authority that has been read is blank, or there is one. -/
theorem hasAuthority_iff
    {authority : String}
    (present : config.tls? = some tls)
    (found : readSecret files tls.authority = .ok authority) :
    config.HasAuthority files ↔ Text.allBlank authority = false := by
  rw [Text.allBlank, List.all_eq_false]
  simp only [Bool.not_eq_true]
  constructor
  · rintro ⟨other, text, same, read, visible⟩
    obtain rfl := Option.some.inj (present.symm.trans same)
    obtain rfl := Except.ok.inj (found.symm.trans (readSecret_eq_ok_iff.mpr read))
    exact visible
  · intro visible
    exact ⟨tls, authority, present, readSecret_eq_ok_iff.mp found, visible⟩

/-- The authorizer gives transport credentials if there is an authority, and otherwise says what
is missing. -/
theorem transport_or_lacks (made : config.authorizer files = .ok authorizer) :
    (config.HasAuthority files ∧ ∃ settings, authorizer.transport = .ok settings) ∨
      ∃ refusal, config.LacksTransport files refusal ∧
        authorizer.transport = .error (.authorization refusal) := by
  cases present : config.tls? with
  | none =>
      rw [Config.authorizer, present] at made
      cases made
      exact Or.inr ⟨_, .certificates present, rfl⟩
  | some tls =>
      obtain ⟨authority, identity, found, -, rfl⟩ := exists_material made present
      have given := hasAuthority_iff present found
      change (_ ∧ ∃ settings, TlsMaterial.transport _ = .ok settings) ∨
        ∃ refusal, _ ∧ TlsMaterial.transport _ = .error _
      rw [TlsMaterial.transport]
      cases blank : Text.allBlank authority with
      | false => exact Or.inl ⟨given.mpr blank, _, if_neg Bool.false_ne_true⟩
      | true =>
          have missing : ¬config.HasAuthority files := by simp [given, blank]
          exact Or.inr ⟨_, .authority (present ▸ rfl) missing, if_pos rfl⟩

theorem LacksTransport.not_hasAuthority
    {refusal : Refusal}
    (lacks : config.LacksTransport files refusal) :
    ¬config.HasAuthority files := by
  cases lacks with
  | certificates unsecured => simp [HasAuthority, unsecured]
  | authority secured missing => exact missing

/-- The authorizer that has an authority gives call credentials if there is a token, and otherwise
says that there is none. -/
theorem call_eq
    (made : config.authorizer files = .ok authorizer)
    (given : config.HasAuthority files) :
    authorizer.call =
      match config.token? with
      | none => .error (.authorization .noToken)
      | some secret => .ok ⟨secret⟩ := by
  obtain ⟨tls, -, present, -⟩ := given
  obtain ⟨authority, identity, -, -, rfl⟩ := exists_material made present
  rfl

theorem hasAuthority_of_transport
    {settings : TlsSettings}
    (made : config.authorizer files = .ok authorizer)
    (granted : authorizer.transport = .ok settings) :
    config.HasAuthority files := by
  rcases transport_or_lacks made with ⟨given, -⟩ | ⟨refusal, -, refused⟩
  · exact given
  · simp [granted] at refused

theorem isSome_token?_of_call
    {token : BearerToken}
    (made : config.authorizer files = .ok authorizer)
    (given : config.HasAuthority files)
    (granted : authorizer.call = .ok token) :
    config.token?.isSome := by
  rw [call_eq made given] at granted
  cases present : config.token? with
  | none => simp [present] at granted
  | some secret => rfl

end Config
end Switchboard
