import Switchboard.Channel.Log
import Switchboard.Proofs.Secrets.Cache

/-!
# Dials that differ in secrets only

What a dialer notes about a dial shows no secret.  Where it answers two configurations in the
same way that differ in secrets only, all that it notes is the same, and the connections that
it makes differ in secrets only.  It never sees the call credentials of a configuration.
-/

namespace Switchboard

/-- What the log says by a notice: how grave it is, which part of the program speaks, and the
text. -/
def Notice.shown (notice : Notice) : Level × String × String :=
  (notice.level, notice.target, notice.message)

/-- Two notices are shown in the same way. -/
def Notice.ShownAlike (notice other : Notice) : Prop :=
  notice.shown = other.shown

/-- Dials that are noted in the same way, and that fail in the same way or make connections that
differ at most in the token. -/
structure Dialed.Resembles (dialed other : Dialed) : Prop where
  begun : List.Forall₂ Notice.ShownAlike dialed.begun other.begun
  ended : List.Forall₂ Notice.ShownAlike dialed.ended other.ended
  outcome : Alike (fun made otherMade => made.1.Resembles otherMade.1 ∧ made.2 = otherMade.2)
    dialed.outcome other.outcome

theorem shownAlike_refl (notices : List Notice) :
    List.Forall₂ Notice.ShownAlike notices notices :=
  List.forall₂_same.mpr fun _ _ => rfl

namespace Dialer

variable {dialer : Dialer} {endpoint : String} {config other : DialConfig}

/-! ## Waiting for a transport -/

/-- What is noted until the end of a wait for a transport is told by the end: a TCP connection
that is refused is noted, and nothing else is. -/
theorem notices_await
    (dialer : Dialer)
    (blueprint : Blueprint) :
    (dialer.await blueprint).notices =
      match (dialer.await blueprint).outcome with
      | .error (.socket fault) => [.unreachable blueprint.uri.render fault]
      | _ => [] := by
  rw [await]
  cases dialer.network.establish blueprint with
  | overdue cause => rfl
  | broken cause => cases Connection.connect dialer.network blueprint.uri <;> rfl
  | usable => cases Connection.connect dialer.network blueprint.uri <;> rfl

/-- Waits for transports to one URI that end in the same way are noted in the same way. -/
theorem await_eq
    {blueprint otherBlueprint : Blueprint}
    (uris : blueprint.uri = otherBlueprint.uri)
    (outcomes : (dialer.await blueprint).outcome = (dialer.await otherBlueprint).outcome) :
    dialer.await blueprint = dialer.await otherBlueprint := by
  have noted := notices_await dialer blueprint
  have otherNoted := notices_await dialer otherBlueprint
  rw [outcomes, uris, ← otherNoted] at noted
  exact congrArg₂ Awaited.mk noted outcomes

/-- What is waited for in the same way by eager dialers is so by all. -/
theorem establish_eq
    {blueprint otherBlueprint : Blueprint}
    (uris : blueprint.uri = otherBlueprint.uri)
    (outcomes :
      (dialer.establish blueprint).outcome = (dialer.establish otherBlueprint).outcome) :
    dialer.establish blueprint = dialer.establish otherBlueprint := by
  rw [establish, establish] at outcomes ⊢
  split
  · rfl
  · next eager =>
      rw [if_neg eager, if_neg eager] at outcomes
      exact await_eq uris outcomes

/-! ## Whole dials -/

/-- How a dial to an endpoint stands when the wait for its transport has ended. -/
def standing (endpoint : String) : Except TransportFault Connectivity → Answer
  | .error fault => .failed (.dial endpoint fault)
  | .ok state => .connected (some state)

theorem standing_injective (endpoint : String) : Function.Injective (standing endpoint) := by
  intro outcome other same
  cases outcome <;> cases other <;> cases same <;> rfl

theorem answer_of_blueprint_eq_ok
    {blueprint : Blueprint}
    (usable : dialer.blueprint endpoint config = .ok blueprint) :
    dialer.answer endpoint config = standing endpoint (dialer.establish blueprint).outcome := by
  rw [answer, dial, usable]
  dsimp only
  cases (dialer.establish blueprint).outcome <;> rfl

theorem answer_of_blueprint_eq_error
    {error : ConnectError}
    (unusable : dialer.blueprint endpoint config = .error error) :
    dialer.answer endpoint config = .failed error := by
  rw [answer, dial, unusable]

/-- Transport credentials that are accepted are not refused later. -/
theorem answer_ne_of_blueprint_eq_ok
    {blueprint : Blueprint}
    (usable : dialer.blueprint endpoint config = .ok blueprint)
    (fault : TransportFault) :
    dialer.answer endpoint config ≠ .failed (.tls fault) := by
  rw [answer_of_blueprint_eq_ok usable]
  cases (dialer.establish blueprint).outcome <;> nofun

/-- The transport to an endpoint is established without the call credentials, so that they cannot
change how a dial stands. -/
theorem answer_withCredentials
    (dialer : Dialer)
    (endpoint : String)
    (config : DialConfig)
    (credentials? : Option BearerToken) :
    dialer.answer endpoint { config with credentials? } = dialer.answer endpoint config := by
  have same : dialer.blueprint endpoint { config with credentials? } =
      dialer.blueprint endpoint config := rfl
  cases made : dialer.blueprint endpoint config with
  | error error =>
      rw [answer_of_blueprint_eq_error made, answer_of_blueprint_eq_error (same.trans made)]
  | ok blueprint =>
      rw [answer_of_blueprint_eq_ok made, answer_of_blueprint_eq_ok (same.trans made)]

/-! ## Dials in two runs -/

/-- Configurations that differ in secrets only make blueprints for the same URI, or are both
refused, or transport credentials are refused in one of them. -/
theorem blueprint_cases
    (resembles : config.Resembles other)
    (dialer : Dialer)
    (endpoint : String) :
    Alike (fun blueprint otherBlueprint => blueprint.uri = otherBlueprint.uri)
        (dialer.blueprint endpoint config) (dialer.blueprint endpoint other) ∨
      (∃ fault, dialer.blueprint endpoint config = .error (.tls fault)) ∨
      ∃ fault, dialer.blueprint endpoint other = .error (.tls fault) := by
  have securities := resembles.security
  rw [blueprint, blueprint, securities.scheme_eq]
  generalize config.security = security at securities ⊢
  generalize other.security = otherSecurity at securities ⊢
  cases Uri.parse? otherSecurity.scheme endpoint with
  | none => exact Or.inl (.error _)
  | some uri =>
      cases securities with
      | plaintext => exact Or.inl (.ok rfl)
      | @tls settings otherSettings _ =>
          dsimp only
          cases dialer.network.accept settings uri with
          | error fault => exact Or.inr (Or.inl ⟨fault, rfl⟩)
          | ok _ =>
              cases dialer.network.accept otherSettings uri with
              | error fault => exact Or.inr (Or.inr ⟨fault, rfl⟩)
              | ok _ => exact Or.inl (.ok rfl)

/-- Whoever refuses the transport credentials of one configuration, and answers another one in the
same way, refuses those of the other one. -/
theorem blueprint_eq_error_of_refused
    {fault : TransportFault}
    (refused : dialer.blueprint endpoint config = .error (.tls fault))
    (same : dialer.answer endpoint config = dialer.answer endpoint other) :
    dialer.blueprint endpoint other = .error (.tls fault) := by
  rw [answer_of_blueprint_eq_error refused] at same
  cases made : dialer.blueprint endpoint other with
  | error error =>
      rw [answer_of_blueprint_eq_error made] at same
      rw [Answer.failed.inj same]
  | ok blueprint => exact absurd same.symm (answer_ne_of_blueprint_eq_ok made fault)

/-- Whoever answers both configurations in the same way finds both usable, for the same URI, or
refuses both in the same way. -/
theorem blueprint_alike
    (resembles : config.Resembles other)
    (same : dialer.answer endpoint config = dialer.answer endpoint other) :
    Alike (fun blueprint otherBlueprint => blueprint.uri = otherBlueprint.uri)
      (dialer.blueprint endpoint config) (dialer.blueprint endpoint other) := by
  rcases blueprint_cases resembles dialer endpoint with alike | ⟨fault, refused⟩ | ⟨fault, refused⟩
  · exact alike
  · rw [refused, blueprint_eq_error_of_refused refused same]
    exact .error _
  · rw [refused, blueprint_eq_error_of_refused refused same.symm]
    exact .error _

/-- The begin of a dial is noted without secrets. -/
theorem shownAlike_dialing
    (resembles : config.Resembles other)
    (endpoint : String) :
    (Notice.dialing endpoint config).ShownAlike (.dialing endpoint other) := by
  have shows : ∀ config : DialConfig, (Notice.dialing endpoint config).shown =
      (.debug, "agentlink_connect::channel",
        "Dialing " ++ endpoint ++ " (" ++ config.render ++ ")") := fun _ => rfl
  exact (shows config).trans (resembles.render_eq ▸ (shows other).symm)

/-- Whoever answers both configurations in the same way dials with both in the same way. -/
theorem dial_resembles
    (resembles : config.Resembles other)
    (same : dialer.answer endpoint config = dialer.answer endpoint other) :
    (dialer.dial endpoint config).Resembles (dialer.dial endpoint other) := by
  rw [dial, dial]
  rcases (blueprint_alike resembles same).cases with
    ⟨error, made, otherMade⟩ | ⟨blueprint, otherBlueprint, made, otherMade, uris⟩
  · rw [made, otherMade]
    exact ⟨.nil, .nil, .error error⟩
  · rw [answer_of_blueprint_eq_ok made, answer_of_blueprint_eq_ok otherMade] at same
    have waits := establish_eq uris (standing_injective endpoint same)
    have connections : Connection.Resembles ⟨endpoint, blueprint.uri, config.credentials?⟩
        ⟨endpoint, otherBlueprint.uri, other.credentials?⟩ := ⟨rfl, uris, resembles.credentials⟩
    rw [made, otherMade]
    dsimp only
    rw [waits]
    refine ⟨.cons (shownAlike_dialing resembles endpoint) .nil, shownAlike_refl _, ?_⟩
    dsimp only
    cases (dialer.establish otherBlueprint).outcome with
    | error fault => exact .error _
    | ok state => exact .ok ⟨connections, rfl⟩

end Dialer
end Switchboard
