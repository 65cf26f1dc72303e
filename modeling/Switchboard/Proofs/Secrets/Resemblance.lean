import Switchboard.Channel.Dialer
import Switchboard.Config.Load
import Switchboard.Proofs.Interceptor

/-!
# What differs in secrets only

Two credentials resemble each other if they differ at most in the texts of a token, of a
certificate and of a key; both have such a text, or neither has.  No text shows a difference
between them, and what is made from them resembles again.
-/

namespace Switchboard

/-- Two results are the same error, or they are values that are related. -/
inductive Alike (related : α → β → Prop) : Except ε α → Except ε β → Prop
  | error (error : ε) : Alike related (.error error) (.error error)
  | ok {left : α} {right : β} (values : related left right) : Alike related (.ok left) (.ok right)

/-- Alike results are both errors, or both values. -/
theorem Alike.cases
    {related : α → β → Prop}
    {result : Except ε α}
    {other : Except ε β}
    (alike : Alike related result other) :
    (∃ error, result = .error error ∧ other = .error error) ∨
      ∃ value otherValue, result = .ok value ∧ other = .ok otherValue ∧
        related value otherValue := by
  cases alike with
  | error error => exact Or.inl ⟨error, rfl, rfl⟩
  | ok values => exact Or.inr ⟨_, _, rfl, rfl, values⟩

theorem Alike.map
    {related : α → β → Prop}
    {related' : γ → δ → Prop}
    {left : α → γ}
    {right : β → δ}
    (keeps : ∀ {value other}, related value other → related' (left value) (right other))
    {result : Except ε α}
    {other : Except ε β}
    (alike : Alike related result other) :
    Alike related' (result.map left) (other.map right) := by
  cases alike with
  | error error => exact .error error
  | ok values => exact .ok (keeps values)

/-! ## Credentials -/

/-- Transport credentials that differ at most in the texts of certificate and key. -/
structure TlsSettings.Resembles (settings other : TlsSettings) : Prop where
  authority : settings.authority? = other.authority?
  identity : settings.identity?.isSome = other.identity?.isSome
  domain : settings.domain? = other.domain?

/-- Both securities are plaintext, or their transport credentials resemble each other. -/
inductive Security.Resembles : Security → Security → Prop
  | plaintext : Resembles .plaintext .plaintext
  | tls {settings other : TlsSettings} (resembles : settings.Resembles other) :
      Resembles (.tls settings) (.tls other)

/-- Dial configurations that differ at most in secrets. -/
structure DialConfig.Resembles (config other : DialConfig) : Prop where
  security : config.security.Resembles other.security
  keepalive : config.keepalive = other.keepalive
  credentials : config.credentials?.isSome = other.credentials?.isSome
  timeouts : config.timeouts = other.timeouts

/-- Authorizers that refuse in the same way, or give credentials that differ at most in
secrets. -/
structure Authorizer.Resembles (authorizer other : Authorizer) : Prop where
  transport : Alike TlsSettings.Resembles authorizer.transport other.transport
  call : Alike (fun _ _ => True) authorizer.call other.call

/-- Connections that differ at most in the text of the token. -/
structure Connection.Resembles (connection other : Connection) : Prop where
  endpoint : connection.endpoint = other.endpoint
  uri : connection.uri = other.uri
  credentials : connection.credentials?.isSome = other.credentials?.isSome

/-- An authorizer's materials that differ at most in secrets. -/
structure TlsMaterial.Resembles (material other : TlsMaterial) : Prop where
  authority : material.authority = other.authority
  identity : material.identity?.isSome = other.identity?.isSome
  domain : material.domain? = other.domain?
  token : material.token?.isSome = other.token?.isSome

theorem TlsSettings.resembles_refl (settings : TlsSettings) : settings.Resembles settings :=
  ⟨rfl, rfl, rfl⟩

theorem Security.resembles_refl (security : Security) : security.Resembles security := by
  cases security with
  | plaintext => exact .plaintext
  | tls settings => exact .tls settings.resembles_refl

theorem DialConfig.resembles_refl (config : DialConfig) : config.Resembles config :=
  ⟨config.security.resembles_refl, rfl, rfl, rfl⟩

/-! ## Texts -/

theorem Security.Resembles.isPlaintext_eq
    {security other : Security}
    (resembles : security.Resembles other) :
    security.isPlaintext = other.isPlaintext := by
  cases resembles <;> rfl

theorem Security.Resembles.scheme_eq
    {security other : Security}
    (resembles : security.Resembles other) :
    security.scheme = other.scheme := by
  cases resembles <;> rfl

/-- The text of a dial configuration shows no secret. -/
theorem DialConfig.Resembles.render_eq
    {config other : DialConfig}
    (resembles : config.Resembles other) :
    config.render = other.render := by
  simp only [DialConfig.render, resembles.security.isPlaintext_eq, resembles.keepalive,
    resembles.credentials, resembles.timeouts]

/-- The text of a connection shows no secret, whatever its state is. -/
theorem Connection.Resembles.render_eq
    {connection other : Connection}
    (resembles : connection.Resembles other)
    (state : Connectivity) :
    connection.render state = other.render state := by
  simp only [Connection.render, resembles.endpoint, resembles.credentials]

/-- The text of an interceptor shows no secret. -/
theorem Connection.Resembles.render_interceptor_eq
    {connection other : Connection}
    (resembles : connection.Resembles other) :
    connection.interceptor.render = other.interceptor.render := by
  simp only [Connection.interceptor, Interceptor.render]
  rcases both_of_isSome_eq resembles.credentials with ⟨first, second⟩ | ⟨_, _, first, second⟩
  · rw [first, second]
  · rw [first, second]
    rfl

/-- The text of an authorizer's material shows no secret. -/
theorem TlsMaterial.Resembles.render_eq
    {material other : TlsMaterial}
    (resembles : material.Resembles other) :
    material.render = other.render := by
  simp only [TlsMaterial.render, resembles.identity, resembles.domain, resembles.token]

/-! ## What is made from credentials -/

theorem DialConfig.Resembles.withTimeouts
    {config other : DialConfig}
    (resembles : config.Resembles other)
    (timeouts : Timeouts) :
    (config.withTimeouts timeouts).Resembles (other.withTimeouts timeouts) where
  security := resembles.security
  keepalive := resembles.keepalive
  credentials := resembles.credentials
  timeouts := by simp only [DialConfig.withTimeouts, resembles.timeouts]

theorem DialConfig.resembles_ofSecurity
    {security other : Security}
    (resembles : security.Resembles other) :
    (DialConfig.ofSecurity security).Resembles (.ofSecurity other) :=
  ⟨resembles, rfl, rfl, rfl⟩

/-- Preparations that ask and note the same, and refuse in the same way or give configurations
that are related. -/
structure Preparation.Matches
    (related : DialConfig → DialConfig → Prop)
    (preparation other : Preparation) : Prop where
  questions : preparation.questions = other.questions
  notices : preparation.notices = other.notices
  outcome : Alike related preparation.outcome other.outcome

theorem Preparation.Matches.withTimeouts
    {preparation other : Preparation}
    (alike : Preparation.Matches DialConfig.Resembles preparation other)
    (timeouts : Timeouts) :
    Preparation.Matches DialConfig.Resembles (preparation.withTimeouts timeouts)
      (other.withTimeouts timeouts) :=
  ⟨alike.questions, alike.notices, alike.outcome.map (·.withTimeouts timeouts)⟩

/-- Authorizers that resemble each other are asked the same and make the same dial possible. -/
theorem Authorizer.Resembles.prepare
    {authorizer other : Authorizer}
    (resembles : authorizer.Resembles other)
    (family : Family)
    (debugMode : Bool)
    (timeouts : Timeouts) :
    Preparation.Matches DialConfig.Resembles (family.prepare authorizer debugMode timeouts)
      (family.prepare other debugMode timeouts) := by
  cases family with
  | agent =>
      apply Preparation.Matches.withTimeouts
      cases debugMode with
      | true => exact ⟨rfl, rfl, .ok (DialConfig.resembles_ofSecurity .plaintext)⟩
      | false =>
          refine ⟨rfl, rfl, resembles.transport.map ?_⟩
          exact fun settings => DialConfig.resembles_ofSecurity (.tls settings)
  | authentication =>
      apply Preparation.Matches.withTimeouts
      obtain ⟨transport, call⟩ := authorizer
      obtain ⟨otherTransport, otherCall⟩ := other
      obtain ⟨transports, calls⟩ := resembles
      cases transports with
      | error error => exact ⟨rfl, rfl, .error error⟩
      | ok settings =>
          refine ⟨rfl, rfl, calls.map ?_⟩
          exact fun _ => ⟨.tls settings, rfl, rfl, rfl⟩

/-- Materials that resemble each other make authorizers that do. -/
theorem TlsMaterial.Resembles.authorizer
    {material other : TlsMaterial}
    (resembles : material.Resembles other) :
    material.authorizer.Resembles other.authorizer := by
  constructor
  · simp only [TlsMaterial.authorizer, TlsMaterial.transport, resembles.authority]
    split
    · exact .error _
    · exact .ok ⟨rfl, resembles.identity, resembles.domain⟩
  · simp only [TlsMaterial.authorizer, TlsMaterial.call]
    rcases both_of_isSome_eq resembles.token with ⟨first, second⟩ | ⟨_, _, first, second⟩
    · rw [first, second]
      exact .error _
    · rw [first, second]
      exact .ok trivial

/-! ## Configurations -/

/-- Configurations that differ at most in the text of the token. -/
structure Config.Resembles (config other : Config) : Prop where
  rest : config = { other with token? := config.token? }
  token : config.token?.isSome = other.token?.isSome

/-- Two trees hold the same certificate authority for a client, and certificates and keys of
which only the texts differ. -/
structure TlsFiles.ReadsAlike (tls : TlsFiles) (files others : FileTree) : Prop where
  authority : Config.readSecret files tls.authority = Config.readSecret others tls.authority
  certificate : ∀ path ∈ tls.certificate?,
    Alike (fun _ _ => True) (Config.readSecret files path) (Config.readSecret others path)
  key : ∀ path ∈ tls.key?,
    Alike (fun _ _ => True) (Config.readSecret files path) (Config.readSecret others path)

/-- What may be shown of a configuration shows no secret. -/
theorem Config.Resembles.redacted_eq
    {config other : Config}
    (resembles : config.Resembles other) :
    config.redacted = other.redacted := by
  have covered : config.token?.map (fun _ => redaction) =
      other.token?.map (fun _ => redaction) := by
    rcases both_of_isSome_eq resembles.token with ⟨first, second⟩ | ⟨_, _, first, second⟩
    · rw [first, second]
    · rw [first, second, Option.map_some, Option.map_some]
  rw [Config.redacted, Config.redacted, covered, resembles.rest]

theorem TlsFiles.ReadsAlike.identity?
    {tls : TlsFiles}
    {files others : FileTree}
    (reads : tls.ReadsAlike files others) :
    Alike (fun identity? other? => identity?.isSome = other?.isSome)
      (Config.identity? files tls) (Config.identity? others tls) := by
  obtain ⟨-, certificates, keys⟩ := reads
  rw [Config.identity?, Config.identity?]
  cases certificate : tls.certificate? with
  | none =>
      cases key : tls.key? with
      | none => exact .ok rfl
      | some key => exact .error _
  | some certificatePath =>
      cases key : tls.key? with
      | none => exact .error _
      | some keyPath =>
          have certificates := certificates _ certificate
          have keys := keys _ key
          dsimp only
          generalize Config.readSecret files certificatePath = text at certificates ⊢
          generalize Config.readSecret others certificatePath = otherText at certificates ⊢
          generalize Config.readSecret files keyPath = keyText at keys ⊢
          generalize Config.readSecret others keyPath = otherKeyText at keys ⊢
          cases certificates with
          | error error => exact .error error
          | ok _ =>
              cases keys with
              | error error => exact .error error
              | ok _ => exact .ok rfl

/-- Configurations that resemble each other make authorizers that do, or fail in the same
way. -/
theorem Config.Resembles.authorizer
    {config other : Config}
    (resembles : config.Resembles other)
    {files others : FileTree}
    (reads : ∀ tls ∈ config.tls?, tls.ReadsAlike files others) :
    Alike Authorizer.Resembles (config.authorizer files) (other.authorizer others) := by
  have sameTls : other.tls? = config.tls? := by rw [resembles.rest]
  rw [Config.authorizer, Config.authorizer, sameTls]
  cases secured : config.tls? with
  | none => exact .ok ⟨.error _, .error _⟩
  | some tls =>
      have readsTls := reads tls secured
      have identities := readsTls.identity?
      dsimp only
      rw [readsTls.authority]
      generalize Config.readSecret others tls.authority = authority
      generalize Config.identity? files tls = identity at identities ⊢
      generalize Config.identity? others tls = otherIdentity at identities ⊢
      cases authority with
      | error error => exact .error error
      | ok authority =>
          cases identities with
          | error error => exact .error error
          | ok present =>
              have materials : TlsMaterial.Resembles ⟨authority, _, tls.domain?, config.token?⟩
                  ⟨authority, _, tls.domain?, other.token?⟩ :=
                ⟨rfl, present, rfl, resembles.token⟩
              exact .ok materials.authorizer

end Switchboard
