import Switchboard.Proofs.Cache.Whereabouts
import Switchboard.Proofs.Client.DialSecurity
import Switchboard.Proofs.Config.Authorizing

/-!
# Dials that are let through

A lookup that finds no connection to be handed out is let through to a dial exactly if its
family has what it needs: debug mode or an authority for agents, an authority and a token for
the authentication service.  Any other such lookup is refused at once, never dials, and leaves
no slot behind.
-/

namespace Switchboard

namespace Cache

variable {cache : Cache} {span : Ticket → Option LookupSpan} {now : Nat} {turn : Turn}

/-- The slot of an endpoint that no lookup under way looks up holds a connection that was dialed
to the endpoint. -/
theorem Reached.exists_dialed_of_find?_places
    {endpoint : String}
    {number : Ticket}
    (reached : Reached cache span now turn)
    (unused : ∀ flight ∈ turn.state.flights,
      cache.family.resolve flight.lookup.address ≠ endpoint)
    (placed : turn.state.places.find? endpoint = some number) :
    ∃ connection config, (turn.state.slotAt number).connection? = some connection ∧
      .dialed connection endpoint config ∈ turn.effects := by
  have home := reached.charted.places_span endpoint number placed
  rcases reached.charted.occupied endpoint number placed with
    ⟨connection, held⟩ | ⟨flight, member, rfl⟩
  · obtain ⟨own, config, belongs, dialed⟩ :=
      reached.exists_dialed (reached.keeping.held number connection held)
    obtain ⟨common, slot, dialer⟩ := reached.charted.connections_span number connection held
    rw [home] at slot
    rw [belongs, ← slot] at dialer
    obtain rfl := Option.some.inj dialer
    exact ⟨connection, config, held, dialed⟩
  · obtain ⟨epoch, -, same⟩ := reached.charted.flights_span flight member
    rw [home, Option.some.injEq, LookupSpan.mk.injEq] at same
    rw [reached.endpoint_eq flight member] at same
    exact absurd same.1.symm (unused flight member)

end Cache

/-- No lookup of an endpoint is under way in the cache of a family. -/
def ClientTurn.IsQuietAt
    (turn : ClientTurn)
    (family : Family)
    (endpoint : String) : Prop :=
  ∀ flight ∈ (turn.state.of family).flights, family.resolve flight.lookup.address ≠ endpoint

namespace Config

open Client Trace

/-- A family has what its dials need. -/
def Admits
    (config : Config)
    (files : FileTree)
    (environment : Environment) : Family → Prop
  | .agent => config.IsDebugging environment ∨ config.HasAuthority files
  | .authentication => config.HasAuthority files ∧ config.token?.isSome

/-- What a family is refused for. -/
inductive Lacks
    (config : Config)
    (files : FileTree) : Family → Refusal → Prop
  | transport
      {family : Family}
      {refusal : Refusal}
      (lacks : config.LacksTransport files refusal) :
      Lacks config files family refusal
  | token
      (given : config.HasAuthority files)
      (missing : config.token? = none) :
      Lacks config files .authentication .noToken

/-- What becomes of a lookup that is refused at an event. -/
structure Refuses
    (config : Config)
    (files : FileTree)
    (client : Client)
    (surroundings : Surroundings)
    (past : List ClientEvent)
    (event : ClientEvent)
    (future : List ClientEvent)
    (family : Family)
    (ticket : Ticket) : Prop where
  /-- It ends at this event, and is told what is missing.  That is an error with which the program
  fails for good. -/
  returned : ∃ refusal, config.Lacks files family refusal ∧
    client.Does (client.after surroundings past) event family
      (.returned ticket (.error (.authorization refusal))) ∧
    (ClientError.connect (.authorization refusal)).exitCode = 2 ∧
    (ClientError.connect (.authorization refusal)).isTransient = false
  /-- It is under way no longer. -/
  gone : ticket ∉
    ((client.after surroundings (past ++ [event])).state.of family).inFlight
  /-- It does not dial, neither now nor ever. -/
  undialed : ∀ other endpoint dial, (other, .dialed ticket endpoint dial) ∉
    (client.after surroundings (past ++ event :: future)).effects
  /-- It leaves no slot for its endpoint, or for any other, where no lookup is under way, if the
  variables have been the same all the time. -/
  vacated :
    (∀ earlier later, past = earlier ++ later →
      (client.after surroundings earlier).surroundings.environment =
        (client.after surroundings past).surroundings.environment) →
      ∀ endpoint,
        (client.after surroundings (past ++ [event])).IsQuietAt family endpoint →
          ((client.after surroundings (past ++ [event])).state.of family).places.find?
            endpoint = none
  /-- In any case a slot that is there holds what was dialed while debug mode was on. -/
  left : ∀ endpoint number,
    (client.after surroundings (past ++ [event])).IsQuietAt family endpoint →
      ((client.after surroundings (past ++ [event])).state.of family).places.find?
          endpoint = some number →
        family = .agent ∧ ∃ connection dial,
          (((client.after surroundings (past ++ [event])).state.of family).slotAt
            number).connection? = some connection ∧
          (family, .dialed connection endpoint dial) ∈
            (client.after surroundings (past ++ [event])).effects ∧
          dial.security = .plaintext

/-- Credentials decide which lookups get to a dial, in every history of a client whose authorizer
its configuration makes of the files. -/
structure GatesDials
    (config : Config)
    (files : FileTree) : Prop where
  /-- When there is an authorizer, and what is reported otherwise. -/
  authorizes : config.Authorizes files
  /-- A lookup that finds no connection to be handed out dials exactly if its family has what its
  dials need. -/
  dials : ∀ authorizer, config.authorizer files = .ok authorizer →
    ∀ surroundings past event family ticket,
      (config.client authorizer).Redials
          ((config.client authorizer).after surroundings past) event family ticket →
        ((∃ endpoint dial, (config.client authorizer).Does
            ((config.client authorizer).after surroundings past) event family
              (.dialed ticket endpoint dial)) ↔
          config.Admits files
            ((config.client authorizer).after surroundings past).surroundings.environment
            family)
  /-- Any other such lookup is refused. -/
  refuses : ∀ authorizer, config.authorizer files = .ok authorizer →
    ∀ surroundings past event future family ticket,
      (config.client authorizer).Redials
          ((config.client authorizer).after surroundings past) event family ticket →
        ¬config.Admits files
            ((config.client authorizer).after surroundings past).surroundings.environment
            family →
          config.Refuses files (config.client authorizer) surroundings past event future
            family ticket

variable {config : Config} {files : FileTree} {authorizer : Authorizer}

/-! ## Preparations -/

/-- A dial can be prepared if the family has what it needs, and otherwise the preparation says
what is missing. -/
theorem admits_or_lacks
    (made : config.authorizer files = .ok authorizer)
    (environment : Environment)
    (family : Family) :
    let preparation :=
      family.prepare authorizer (config.debugSwitch.isOn environment) config.timeouts
    (config.Admits files environment family ∧ ∃ dial, preparation.outcome = .ok dial) ∨
      (¬config.Admits files environment family ∧ Question.transport ∈ preparation.questions ∧
        ∃ refusal, config.Lacks files family refusal ∧
          preparation.outcome = .error (.authorization refusal)) := by
  intro preparation
  cases family with
  | agent =>
      cases mode : config.debugSwitch.isOn environment with
      | true =>
          have debugging := (config.isOn_debugSwitch environment).mp mode
          refine Or.inl ⟨Or.inl debugging, ⟨.plaintext, .default, none, config.timeouts⟩, ?_⟩
          simp [preparation, mode, Family.prepare_agent_true]
      | false =>
          have normal : ¬config.IsDebugging environment := by
            simp [← isOn_debugSwitch, mode]
          rcases transport_or_lacks made with ⟨given, settings, granted⟩ | ⟨refusal, lacks, refused⟩
          · exact Or.inl ⟨Or.inr given, by
              simp [preparation, mode, Family.prepare_agent_false, granted, Except.map]⟩
          · refine Or.inr ⟨not_or.mpr ⟨normal, lacks.not_hasAuthority⟩, ?_, refusal,
              .transport lacks, ?_⟩
            · simp [preparation, mode, Family.prepare_agent_false]
            · simp [preparation, mode, Family.prepare_agent_false, refused, Except.map]
  | authentication =>
      rcases transport_or_lacks made with ⟨given, settings, granted⟩ | ⟨refusal, lacks, refused⟩
      · have answer := call_eq made given
        cases token : config.token? with
        | none =>
            refine Or.inr ⟨?_, ?_, .noToken, .token given token, ?_⟩
            · simp [Admits, token]
            · simp [preparation, Family.prepare_authentication_of_ok granted]
            · simp [preparation, Family.prepare_authentication_of_ok granted, answer, token,
                Except.map]
        | some secret =>
            refine Or.inl ⟨⟨given, by simp [token]⟩,
              ⟨.tls settings, .default, some ⟨secret⟩, config.timeouts⟩, ?_⟩
            simp [preparation, Family.prepare_authentication_of_ok granted, answer, token,
              Except.map]
      · refine Or.inr ⟨fun admits => lacks.not_hasAuthority admits.1, ?_, refusal,
          .transport lacks, ?_⟩
        · simp [preparation, Family.prepare_authentication_of_error refused]
        · simp [preparation, Family.prepare_authentication_of_error refused]

/-- A family that has been given what it asked for has what it needs, whatever the variables
are. -/
theorem admits_of_asked
    {family : Family}
    {debugMode : Bool}
    {dial : DialConfig}
    (made : config.authorizer files = .ok authorizer)
    (prepared : (family.prepare authorizer debugMode config.timeouts).outcome = .ok dial)
    (asked : Question.transport ∈
      (family.prepare authorizer debugMode config.timeouts).questions)
    (environment : Environment) :
    config.Admits files environment family := by
  cases family with
  | agent =>
      rcases Family.of_prepare_agent_eq_ok prepared with ⟨rfl, -⟩ | ⟨-, settings, granted, -⟩
      · simp [Family.prepare_agent_true] at asked
      · exact Or.inr (hasAuthority_of_transport made granted)
  | authentication =>
      obtain ⟨settings, token, granted, answered, -, -⟩ :=
        Family.of_prepare_authentication_eq_ok prepared
      have given := hasAuthority_of_transport made granted
      exact ⟨given, isSome_token?_of_call made given answered⟩

theorem prepare_client
    (config : Config)
    (authorizer : Authorizer)
    (family : Family)
    (environment : Environment)
    (ticket : Ticket) :
    ((config.client authorizer).cacheOf family).prepare environment
        ((config.client authorizer).authorizer ticket) =
      family.prepare authorizer (config.debugSwitch.isOn environment) config.timeouts :=
  config.prepare_cacheOf _ family environment authorizer

/-! ## Lookups -/

section Lookups

variable {surroundings : Surroundings} {past : List ClientEvent} {event : ClientEvent}
  {family : Family} {ticket : Ticket}

/-- Only a family that has what it needs dials. -/
theorem admits_of_dialed
    {endpoint : String}
    {dial : DialConfig}
    (made : config.authorizer files = .ok authorizer)
    (dials : (config.client authorizer).Does
      ((config.client authorizer).after surroundings past) event family
        (.dialed ticket endpoint dial)) :
    config.Admits files
      ((config.client authorizer).after surroundings past).surroundings.environment family := by
  obtain ⟨prepared, -⟩ := prepared_of_dialed dials
  rw [prepare_client] at prepared
  rcases admits_or_lacks made _ family with ⟨admits, -⟩ | ⟨-, -, refusal, -, refused⟩
  · exact admits
  · rw [prepared] at refused
    cases refused

/-- A lookup that finds nothing to be handed out dials if its family has what it needs, and
otherwise it is told what is missing. -/
theorem dials_or_lacks
    (made : config.authorizer files = .ok authorizer)
    (redials : (config.client authorizer).Redials
      ((config.client authorizer).after surroundings past) event family ticket) :
    let turn := (config.client authorizer).after surroundings past
    (config.Admits files turn.surroundings.environment family ∧ ∃ endpoint dial,
        (config.client authorizer).Does turn event family (.dialed ticket endpoint dial)) ∨
      (¬config.Admits files turn.surroundings.environment family ∧
        (config.client authorizer).Does turn event family (.consulted ticket .transport) ∧
        ∃ refusal, config.Lacks files family refusal ∧
          (config.client authorizer).Does turn event family
            (.returned ticket (.error (.authorization refusal)))) := by
  intro turn
  have does := dials_or_refuses redials
  have asks := asks_of_redials redials
  rw [prepare_client] at does asks
  rcases admits_or_lacks made turn.surroundings.environment family with
    ⟨admits, dial, prepared⟩ | ⟨lacking, asked, refusal, lacks, refused⟩
  · rcases does with ⟨dial, -, endpoint, dials⟩ | ⟨error, refused, -⟩
    · exact Or.inl ⟨admits, endpoint, dial, dials⟩
    · rw [prepared] at refused
      cases refused
  · rcases does with ⟨dial, prepared, -⟩ | ⟨error, reported, returns⟩
    · rw [prepared] at refused
      cases refused
    · rw [refused] at reported
      cases reported
      exact Or.inr ⟨lacking, asks _ asked, refusal, lacks, returns⟩

/-- A lookup that asks for transport credentials in vain never dials. -/
theorem undialed_of_lacks
    (made : config.authorizer files = .ok authorizer)
    (lacking : ¬config.Admits files
      ((config.client authorizer).after surroundings past).surroundings.environment family)
    (asks : (config.client authorizer).Does
      ((config.client authorizer).after surroundings past) event family
        (.consulted ticket .transport))
    (future : List ClientEvent)
    (other : Family)
    (endpoint : String)
    (dial : DialConfig) :
    (other, .dialed ticket endpoint dial) ∉
      ((config.client authorizer).after surroundings (past ++ event :: future)).effects := by
  intro dialed
  have consulted := mem_effects_of_does asks future
  have member : Question.transport ∈ (config.client authorizer).questionsFor surroundings
      (past ++ event :: future) ticket :=
    mem_questionsOf.mpr (List.mem_map_of_mem consulted)
  obtain ⟨home, belongs, ⟨nothing, -⟩ | ⟨debugMode, asked, prepared⟩⟩ :=
    config.asks_once (fun _ => authorizer) surroundings (past ++ event :: future) ticket
  · rw [Config.client, nothing] at member
    cases member
  · rw [Config.client, asked] at member
    obtain rfl := belongs family _ consulted rfl
    obtain rfl := belongs other _ dialed rfl
    exact lacking (admits_of_asked made (prepared endpoint dial dialed) member _)

theorem family_client
    (config : Config)
    (authorizer : Authorizer)
    (family : Family) :
    ((config.client authorizer).cacheOf family).family = family := by
  cases family <;> rfl

/-- The slot of an endpoint that nobody looks up holds a connection that was dialed to the
endpoint, at this event or before. -/
theorem exists_dialed_of_slot
    {endpoint : String}
    {number : Ticket}
    (quiet : ((config.client authorizer).after surroundings
      (past ++ [event])).IsQuietAt family endpoint)
    (placed : (((config.client authorizer).after surroundings
      (past ++ [event])).state.of family).places.find? endpoint = some number) :
    ∃ connection dial,
      ((((config.client authorizer).after surroundings
        (past ++ [event])).state.of family).slotAt number).connection? = some connection ∧
      (family, .dialed connection endpoint dial) ∈
        ((config.client authorizer).after surroundings (past ++ [event])).effects ∧
      ∃ earlier later other, past = earlier ++ later ∧
        (config.client authorizer).Does ((config.client authorizer).after surroundings earlier)
          other family (.dialed connection endpoint dial) := by
  have reached := (config.client authorizer).reached_view surroundings (past ++ [event]) [] family
  obtain ⟨connection, dial, held, dialed⟩ := reached.exists_dialed_of_find?_places
    (by rw [family_client]; exact quiet) placed
  have done := mem_effectsIn.mp dialed
  obtain ⟨earlier, other, future, split, does⟩ :=
    (config.client authorizer).exists_does surroundings done
  have before : earlier <+: past := by
    refine List.prefix_of_prefix_length_le ⟨_, split.symm⟩ (List.prefix_append past [event]) ?_
    have lengths := congrArg List.length split
    simp at lengths
    omega
  obtain ⟨later, rfl⟩ := before
  exact ⟨connection, dial, held, done, earlier, later, other, rfl, does⟩

/-- A lookup that lacks what its dial needs is refused. -/
theorem refuses_of_not_admits
    (made : config.authorizer files = .ok authorizer)
    (redials : (config.client authorizer).Redials
      ((config.client authorizer).after surroundings past) event family ticket)
    (lacking : ¬config.Admits files
      ((config.client authorizer).after surroundings past).surroundings.environment family)
    (future : List ClientEvent) :
    config.Refuses files (config.client authorizer) surroundings past event future family
      ticket := by
  rcases dials_or_lacks made redials with ⟨admits, -⟩ | ⟨-, asks, refusal, lacks, returns⟩
  · exact absurd admits lacking
  constructor
  case returned => exact ⟨refusal, lacks, returns, rfl, rfl⟩
  case gone =>
    have reached :=
      (config.client authorizer).reached_view surroundings (past ++ [event]) [] family
    have ended := mem_effectsIn.mpr (mem_effects_of_does returns [])
    exact (reached.endings.gone ticket ⟨_, ended⟩).2
  case undialed => exact undialed_of_lacks made lacking asks future
  case vacated =>
    intro unchanged endpoint quiet
    rw [Option.eq_none_iff_forall_ne_some]
    intro number placed
    obtain ⟨connection, dial, -, -, earlier, later, other, split, does⟩ :=
      exists_dialed_of_slot quiet placed
    have admitted := admits_of_dialed made does
    rw [unchanged earlier later split] at admitted
    exact lacking admitted
  case left =>
    intro endpoint number quiet placed
    obtain ⟨connection, dial, held, dialed, earlier, later, other, split, does⟩ :=
      exists_dialed_of_slot quiet placed
    have admitted := admits_of_dialed made does
    cases family with
    | agent =>
        have debugging := admitted.resolve_right fun given => lacking (Or.inr given)
        have secure := config.dialsSecurely (fun _ => authorizer) surroundings earlier other
        have plain := (secure.agent connection endpoint dial does).2.1.mpr debugging
        exact ⟨rfl, connection, dial, held, dialed, plain⟩
    | authentication => exact absurd admitted lacking

end Lookups

/-- Whatever the configuration, the files and the history are, credentials decide which lookups
get to a dial. -/
theorem gates_dials
    (config : Config)
    (files : FileTree) :
    config.GatesDials files where
  authorizes := config.authorizes files
  dials := by
    intro authorizer made surroundings past event family ticket redials
    rcases dials_or_lacks made redials with ⟨admits, dials⟩ | ⟨lacking, -⟩
    · exact iff_of_true dials admits
    · refine iff_of_false ?_ lacking
      rintro ⟨endpoint, dial, dials⟩
      exact lacking (admits_of_dialed made dials)
  refuses := by
    intro authorizer made surroundings past event future family ticket redials lacking
    exact refuses_of_not_admits made redials lacking future

-- In debug mode a lookup waits when the cache is cleared, and another one dials; then the variable
-- is taken away, and the first lookup is refused while the slot of the other stays.
example :
    let debugging := Environment.empty.set debugVariable (Text.octets "on")
    let turn := (default.client .insecure).after .initial
      [.change (.environment debugging), .change (.answers fun _ _ => .pending),
        .start .agent 0 "host" none, .start .agent 1 "host" none, .clear,
        .change (.answers fun _ _ => .connected none), .start .agent 2 "host" none,
        .change (.environment .empty), .drop 0, .poll 1]
    (turn.view .agent).outcomeOf? 1 = some (.error (.authorization .insecureTransport)) ∧
      turn.state.agents.inFlight = [] ∧
      turn.state.agents.places.find? (Family.agent.resolve "host") = some 2 := by
  decide

end Config
end Switchboard
