import Switchboard.Dial.Preparation

/-!
# What a preparation comes to

A dial to an agent is prepared without any question in debug mode, and with one question
otherwise.  A dial to the authentication service is prepared with two questions, the second
of which is put only when the first one has been answered.
-/

namespace Switchboard

variable {authorizer : Authorizer} {timeouts : Timeouts}

/-- A configuration without timeouts gets exactly the timeouts that are given. -/
theorem DialConfig.withTimeouts_of_none
    {config : DialConfig}
    (untimed : config.timeouts = .none) :
    config.withTimeouts timeouts = { config with timeouts } := by
  rw [withTimeouts, untimed]
  simp [Timeouts.none]

namespace Family

theorem prepare_agent_true :
    agent.prepare authorizer true timeouts =
      ⟨[], [.plaintext], .ok ⟨.plaintext, .default, none, timeouts⟩⟩ := by
  have timed : (DialConfig.ofSecurity .plaintext).withTimeouts timeouts = _ :=
    DialConfig.withTimeouts_of_none rfl
  simp only [prepare, Preparation.agent, Preparation.withTimeouts, if_true, Except.map, timed]
  rfl

theorem prepare_agent_false :
    agent.prepare authorizer false timeouts =
      ⟨[.transport], [], authorizer.transport.map fun settings =>
        ⟨.tls settings, .default, none, timeouts⟩⟩ := by
  have timed : ∀ settings, (DialConfig.ofSecurity (.tls settings)).withTimeouts timeouts = _ :=
    fun _ => DialConfig.withTimeouts_of_none rfl
  simp only [prepare, Preparation.agent, Preparation.withTimeouts, Bool.false_eq_true, if_false]
  cases authorizer.transport with
  | error error => rfl
  | ok settings =>
      simp only [Except.map, timed]
      rfl

theorem prepare_authentication_of_error
    {error : ConnectError}
    (refused : authorizer.transport = .error error)
    (debugMode : Bool) :
    authentication.prepare authorizer debugMode timeouts =
      ⟨[.transport], [], .error error⟩ := by
  rw [prepare, Preparation.authentication, refused]
  rfl

theorem prepare_authentication_of_ok
    {settings : TlsSettings}
    (granted : authorizer.transport = .ok settings)
    (debugMode : Bool) :
    authentication.prepare authorizer debugMode timeouts =
      ⟨[.transport, .call], [], authorizer.call.map fun token =>
        ⟨.tls settings, .default, some token, timeouts⟩⟩ := by
  rw [prepare, Preparation.authentication, granted]
  cases answer : authorizer.call with
  | error error => rfl
  | ok token =>
      have timed : ({ DialConfig.ofSecurity (.tls settings) with
          credentials? := some token }).withTimeouts timeouts = _ :=
        DialConfig.withTimeouts_of_none rfl
      simp only [Preparation.withTimeouts, Except.map, timed]
      rfl

/-- A dial to the authentication service is prepared with the answers to both questions. -/
theorem of_prepare_authentication_eq_ok
    {debugMode : Bool}
    {config : DialConfig}
    (prepared : (authentication.prepare authorizer debugMode timeouts).outcome = .ok config) :
    ∃ settings token, authorizer.transport = .ok settings ∧ authorizer.call = .ok token ∧
      config = ⟨.tls settings, .default, some token, timeouts⟩ ∧
      (authentication.prepare authorizer debugMode timeouts).questions =
        [.transport, .call] := by
  cases first : authorizer.transport with
  | error error =>
      rw [prepare_authentication_of_error first] at prepared
      cases prepared
  | ok settings =>
      rw [prepare_authentication_of_ok first] at prepared
      cases second : authorizer.call with
      | error error =>
          rw [second] at prepared
          cases prepared
      | ok token =>
          rw [second] at prepared
          cases prepared
          exact ⟨settings, token, rfl, rfl, rfl, by rw [prepare_authentication_of_ok first]⟩

/-- A dial to an agent is prepared with the answer to one question, unless debug mode is on. -/
theorem of_prepare_agent_eq_ok
    {debugMode : Bool}
    {config : DialConfig}
    (prepared : (agent.prepare authorizer debugMode timeouts).outcome = .ok config) :
    (debugMode = true ∧ config = ⟨.plaintext, .default, none, timeouts⟩) ∨
      (debugMode = false ∧ ∃ settings, authorizer.transport = .ok settings ∧
        config = ⟨.tls settings, .default, none, timeouts⟩) := by
  cases debugMode with
  | true =>
      rw [prepare_agent_true] at prepared
      cases prepared
      exact Or.inl ⟨rfl, rfl⟩
  | false =>
      rw [prepare_agent_false] at prepared
      cases answer : authorizer.transport with
      | error error =>
          rw [answer] at prepared
          cases prepared
      | ok settings =>
          rw [answer] at prepared
          cases prepared
          exact Or.inr ⟨rfl, settings, rfl, rfl⟩

/-- A preparation fails only with a refusal of the authorizer. -/
theorem of_prepare_eq_error
    {family : Family}
    {debugMode : Bool}
    {error : ConnectError}
    (refused : (family.prepare authorizer debugMode timeouts).outcome = .error error) :
    (authorizer.transport = .error error ∧ (family = .agent → debugMode = false)) ∨
      (family = .authentication ∧ (∃ settings, authorizer.transport = .ok settings) ∧
        authorizer.call = .error error) := by
  cases family with
  | agent =>
      cases debugMode with
      | true =>
          rw [prepare_agent_true] at refused
          cases refused
      | false =>
          rw [prepare_agent_false] at refused
          cases answer : authorizer.transport with
          | error other =>
              rw [answer] at refused
              cases refused
              exact Or.inl ⟨rfl, fun _ => rfl⟩
          | ok settings =>
              rw [answer] at refused
              cases refused
  | authentication =>
      cases first : authorizer.transport with
      | error other =>
          rw [prepare_authentication_of_error first] at refused
          cases refused
          exact Or.inl ⟨rfl, fun impossible => by cases impossible⟩
      | ok settings =>
          rw [prepare_authentication_of_ok first] at refused
          cases second : authorizer.call with
          | error other =>
              rw [second] at refused
              cases refused
              exact Or.inr ⟨rfl, ⟨settings, rfl⟩, rfl⟩
          | ok token =>
              rw [second] at refused
              cases refused

/-- No preparation asks for a token before transport credentials have been given. -/
theorem questions_prepare
    (family : Family)
    (authorizer : Authorizer)
    (debugMode : Bool)
    (timeouts : Timeouts) :
    (family.prepare authorizer debugMode timeouts).questions = [] ∨
      (family.prepare authorizer debugMode timeouts).questions = [.transport] ∨
      (family = .authentication ∧
        (family.prepare authorizer debugMode timeouts).questions = [.transport, .call] ∧
        ∃ settings, authorizer.transport = .ok settings) := by
  cases family with
  | agent =>
      cases debugMode with
      | true => exact Or.inl (by rw [prepare_agent_true])
      | false => exact Or.inr (Or.inl (by rw [prepare_agent_false]))
  | authentication =>
      cases answer : authorizer.transport with
      | error error =>
          exact Or.inr (Or.inl (by rw [prepare_authentication_of_error answer]))
      | ok settings =>
          refine Or.inr (Or.inr ⟨rfl, ?_, settings, rfl⟩)
          rw [prepare_authentication_of_ok answer]

end Family
end Switchboard
