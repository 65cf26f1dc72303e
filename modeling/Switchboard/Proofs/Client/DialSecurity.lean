import Switchboard.Config.Basic
import Switchboard.Proofs.Client.Families
import Switchboard.Proofs.DebugSwitch
import Switchboard.Proofs.Preparation

/-!
# Security of dials

Whatever a configuration says, whatever the authorizer answers and whatever is done to the
variables of the process, a client dials the authentication service only with transport
credentials and a token that the authorizer has given for this very dial.  It dials agents
unsecured exactly while debug mode is on, and never shows them a token.  The authorizer is
asked only when a dial is prepared, and never twice for one lookup.
-/

namespace Switchboard
namespace Config

open Client Trace

/-- Debug mode is on: the configuration says so, or the variable is the word `on`. -/
def IsDebugging
    (config : Config)
    (environment : Environment) : Prop :=
  config.debugMode = true ∨
    ∃ value, environment.get? debugVariable = some value ∧ DebugSwitch.IsOnWord value

/-- How a client asks and dials at an event.  The authorizer answers what is given for each
lookup, and the variables are those that the event finds. -/
structure DialsSecurely
    (config : Config)
    (answers : Ticket → Authorizer)
    (turn : ClientTurn)
    (event : ClientEvent) : Prop where
  /-- A dial to the authentication service is secured and carries a token, and the authorizer
  is asked for both at this event. -/
  authentication : ∀ ticket endpoint dial,
    (config.clientAnswering answers).Does turn event .authentication
        (.dialed ticket endpoint dial) →
      (∃ settings, (answers ticket).transport = .ok settings ∧
        dial.security = .tls settings) ∧
      (∃ token, (answers ticket).call = .ok token ∧ dial.credentials? = some token) ∧
      ∀ question, (config.clientAnswering answers).Does turn event .authentication
        (.consulted ticket question)
  /-- A dial to an agent carries no token.  It is unsecured in debug mode, and otherwise it is
  secured as the authorizer says, which is asked at this event. -/
  agent : ∀ ticket endpoint dial,
    (config.clientAnswering answers).Does turn event .agent
        (.dialed ticket endpoint dial) →
      dial.credentials? = none ∧
      (dial.security = .plaintext ↔ config.IsDebugging turn.surroundings.environment) ∧
      (¬config.IsDebugging turn.surroundings.environment →
        (∃ settings, (answers ticket).transport = .ok settings ∧
          dial.security = .tls settings) ∧
        (config.clientAnswering answers).Does turn event .agent
          (.consulted ticket .transport))
  /-- Every dial has the timeouts of the configuration. -/
  timeouts : ∀ family ticket endpoint dial,
    (config.clientAnswering answers).Does turn event family
        (.dialed ticket endpoint dial) →
      dial.timeouts = config.timeouts
  /-- Only a lookup that has the lock of its slot and finds no connection there that may be
  handed out asks the authorizer. -/
  consulted : ∀ family ticket question,
    (config.clientAnswering answers).Does turn event family
        (.consulted ticket question) →
      (config.clientAnswering answers).Redials turn event family ticket
  /-- Such a lookup dials, unless the authorizer refuses what it is asked for; then the lookup
  ends with the refusal. -/
  served : ∀ family ticket,
    (config.clientAnswering answers).Redials turn event family ticket →
      (∃ endpoint dial, (config.clientAnswering answers).Does turn event family
        (.dialed ticket endpoint dial)) ∨
      ∃ error,
        (config.clientAnswering answers).Does turn event family
          (.returned ticket (.error error)) ∧
        (((answers ticket).transport = .error error ∧
            (family = .agent → ¬config.IsDebugging turn.surroundings.environment)) ∨
          (family = .authentication ∧ (∃ settings, (answers ticket).transport = .ok settings) ∧
            (answers ticket).call = .error error))

/-- How a client asks and dials in a history, from any surroundings on. -/
structure DialSecurity
    (config : Config)
    (answers : Ticket → Authorizer)
    (surroundings : Surroundings)
    (events : List ClientEvent) : Prop where
  /-- Whatever the caches have done they have done at an event of the history. -/
  accounted : ∀ family effect,
    (family, effect) ∈
        ((config.clientAnswering answers).after surroundings events).effects →
      ∃ past event future, events = past ++ event :: future ∧
        (config.clientAnswering answers).Does
          ((config.clientAnswering answers).after surroundings past) event family effect
  /-- At every event they ask and dial securely. -/
  secure : ∀ past event future, events = past ++ event :: future →
    config.DialsSecurely answers
      ((config.clientAnswering answers).after surroundings past) event
  /-- A lookup asks for transport credentials at most once. -/
  once : ∀ ticket,
    ((config.clientAnswering answers).questionsFor surroundings events ticket).count
      .transport ≤ 1
  /-- A lookup that dials unsecured asks nothing. -/
  silent : ∀ family ticket endpoint dial,
    (family, .dialed ticket endpoint dial) ∈
        ((config.clientAnswering answers).after surroundings events).effects →
      dial.security = .plaintext →
        (config.clientAnswering answers).questionsFor surroundings events ticket = []
  /-- A token is asked for only by a lookup for the authentication service, and only after it
  has been given transport credentials. -/
  token : ∀ family ticket,
    (family, .consulted ticket .call) ∈
        ((config.clientAnswering answers).after surroundings events).effects →
      family = .authentication ∧
        (config.clientAnswering answers).questionsFor surroundings events ticket =
          [.transport, .call] ∧
        ∃ settings, (answers ticket).transport = .ok settings

/-- The caches of a client prepare their dials as the configuration says. -/
theorem prepare_cacheOf
    (config : Config)
    (answers : Ticket → Authorizer)
    (family : Family)
    (environment : Environment)
    (authorizer : Authorizer) :
    ((config.clientAnswering answers).cacheOf family).prepare environment authorizer =
      family.prepare authorizer (config.debugSwitch.isOn environment) config.timeouts := by
  cases family <;> rfl

theorem isOn_debugSwitch
    (config : Config)
    (environment : Environment) :
    config.debugSwitch.isOn environment = true ↔ config.IsDebugging environment :=
  DebugSwitch.isOn_ofFlag config.debugMode environment

/-- At every event after every history a client asks and dials securely. -/
theorem dialsSecurely
    (config : Config)
    (answers : Ticket → Authorizer)
    (surroundings : Surroundings)
    (past : List ClientEvent)
    (event : ClientEvent) :
    config.DialsSecurely answers
      ((config.clientAnswering answers).after surroundings past) event where
  authentication := by
    intro ticket endpoint dial dials
    obtain ⟨prepared, asks⟩ := prepared_of_dialed dials
    rw [prepare_cacheOf] at prepared asks
    obtain ⟨settings, token, granted, given, rfl, questions⟩ :=
      Family.of_prepare_authentication_eq_ok prepared
    refine ⟨⟨settings, granted, rfl⟩, ⟨token, given, rfl⟩, ?_⟩
    intro question
    apply asks
    rw [questions]
    cases question <;> decide
  agent := by
    intro ticket endpoint dial dials
    obtain ⟨prepared, asks⟩ := prepared_of_dialed dials
    rw [prepare_cacheOf] at prepared asks
    rw [← isOn_debugSwitch]
    rcases Family.of_prepare_agent_eq_ok prepared with
      ⟨debugging, rfl⟩ | ⟨normal, settings, granted, rfl⟩
    · exact ⟨rfl, iff_of_true rfl debugging, fun normal => absurd debugging normal⟩
    · rw [normal, Family.prepare_agent_false] at asks
      refine ⟨rfl, iff_of_false nofun (Bool.eq_false_iff.mp normal), ?_⟩
      intro _
      exact ⟨⟨settings, granted, rfl⟩, asks .transport List.mem_cons_self⟩
  timeouts := by
    intro family ticket endpoint dial dials
    have prepared := (prepared_of_dialed dials).1
    rw [prepare_cacheOf] at prepared
    cases family with
    | agent =>
        rcases Family.of_prepare_agent_eq_ok prepared with ⟨-, rfl⟩ | ⟨-, settings, -, rfl⟩
        · rfl
        · rfl
    | authentication =>
        obtain ⟨settings, token, -, -, rfl, -⟩ :=
          Family.of_prepare_authentication_eq_ok prepared
        rfl
  consulted := fun _ _ _ => redials_of_consulted
  served := by
    intro family ticket redials
    have does := dials_or_refuses redials
    rw [prepare_cacheOf] at does
    rcases does with ⟨dial, -, endpoint, dials⟩ | ⟨error, refused, returns⟩
    · exact Or.inl ⟨endpoint, dial, dials⟩
    · rw [← isOn_debugSwitch, Bool.not_eq_true]
      exact Or.inr ⟨error, returns, Family.of_prepare_eq_error refused⟩

/-- In a history a lookup asks nothing and does not dial, or one cache asks for it what one
preparation asks, and dials as it has been prepared. -/
theorem asks_once
    (config : Config)
    (answers : Ticket → Authorizer)
    (surroundings : Surroundings)
    (events : List ClientEvent)
    (ticket : Ticket) :
    let client := config.clientAnswering answers
    let effects := (client.after surroundings events).effects
    ∃ home, (∀ family effect, (family, effect) ∈ effects →
        effect.ticket? = some ticket → family = home) ∧
      ((client.questionsFor surroundings events ticket = [] ∧
          ∀ endpoint dial, (home, .dialed ticket endpoint dial) ∉ effects) ∨
        ∃ debugMode,
          client.questionsFor surroundings events ticket =
              (home.prepare (answers ticket) debugMode config.timeouts).questions ∧
            ∀ endpoint dial, (home, .dialed ticket endpoint dial) ∈ effects →
              (home.prepare (answers ticket) debugMode config.timeouts).outcome =
                .ok dial) := by
  intro client effects
  obtain ⟨home, belongs⟩ := client.exists_home surroundings events ticket
  refine ⟨home, belongs, ?_⟩
  have here : ∀ {effect}, (home, effect) ∈ effects → effect ∈ effectsIn effects home :=
    fun member => List.mem_filterMap.mpr ⟨_, member, if_pos rfl⟩
  have same : questionsOf (effectsIn effects home) ticket =
      client.questionsFor surroundings events ticket := questionsOf_effectsIn belongs
  rw [← same]
  rcases client.inquired_after surroundings events home ticket with
    ⟨silent, undialed⟩ | ⟨environment, asked, prepared⟩
  · exact Or.inl ⟨silent, fun endpoint dial member =>
      undialed ⟨endpoint, dial, here member⟩⟩
  · rw [prepare_cacheOf] at asked prepared
    exact Or.inr ⟨_, asked, fun endpoint dial member => prepared endpoint dial (here member)⟩

/-- In every history a client's dials are secure, whatever the configuration, the answers of the
authorizer and the surroundings are. -/
theorem dialSecurity_after
    (config : Config)
    (answers : Ticket → Authorizer)
    (surroundings : Surroundings)
    (events : List ClientEvent) :
    config.DialSecurity answers surroundings events where
  accounted := fun _ _ => exists_does _ surroundings
  secure := fun past event _ _ => config.dialsSecurely answers surroundings past event
  once := by
    intro ticket
    obtain ⟨home, -, ⟨nothing, -⟩ | ⟨debugMode, asked, -⟩⟩ :=
      config.asks_once answers surroundings events ticket
    · rw [nothing]
      decide
    · rw [asked]
      rcases home.questions_prepare (answers ticket) debugMode config.timeouts with
        nothing | one | ⟨-, both, -⟩
      · rw [nothing]
        decide
      · rw [one]
        decide
      · rw [both]
        decide
  silent := by
    intro family ticket endpoint dial dialed plain
    obtain ⟨home, belongs, ⟨nothing, -⟩ | ⟨debugMode, asked, prepared⟩⟩ :=
      config.asks_once answers surroundings events ticket
    · exact nothing
    · obtain rfl := belongs family _ dialed rfl
      have outcome := prepared endpoint dial dialed
      rw [asked]
      cases family with
      | agent =>
          rcases Family.of_prepare_agent_eq_ok outcome with
            ⟨rfl, -⟩ | ⟨-, settings, -, rfl⟩
          · rw [Family.prepare_agent_true]
          · cases plain
      | authentication =>
          obtain ⟨settings, token, -, -, rfl, -⟩ :=
            Family.of_prepare_authentication_eq_ok outcome
          cases plain
  token := by
    intro family ticket consulted
    have asks : Question.call ∈
        (config.clientAnswering answers).questionsFor surroundings events ticket :=
      mem_questionsOf.mpr (List.mem_map_of_mem consulted)
    obtain ⟨home, belongs, ⟨nothing, -⟩ | ⟨debugMode, asked, -⟩⟩ :=
      config.asks_once answers surroundings events ticket
    · rw [nothing] at asks
      cases asks
    · obtain rfl := belongs family _ consulted rfl
      rw [asked] at asks ⊢
      rcases family.questions_prepare (answers ticket) debugMode config.timeouts with
        nothing | one | ⟨authentication, both, granted⟩
      · rw [nothing] at asks
        cases asks
      · rw [one] at asks
        exact absurd asks (by decide)
      · exact ⟨authentication, both, granted⟩

-- What counts is the variable when the lock is passed on, not when the lookup is started.
example :
    let turn := (default.client ⟨.ok .empty, .ok ⟨"secret"⟩⟩).after .initial
      [.change (.answers fun _ _ => .pending), .start .agent 0 "host" none,
        .start .agent 1 "host" none,
        .change (.environment (Environment.empty.set debugVariable (Text.octets " On"))),
        .drop 0, .poll 1]
    (turn.effects.filterMap fun
      | (_, .dialed ticket _ dial) => some (ticket, dial.security.isPlaintext)
      | _ => none) = [(0, false), (1, true)] := by
  decide

end Config
end Switchboard
