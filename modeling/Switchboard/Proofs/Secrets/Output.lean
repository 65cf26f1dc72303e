import Switchboard.Proofs.Client.View
import Switchboard.Proofs.Secrets.Dialing

/-!
# Secrets stay out of the output

Whoever watches two clients that have been set up with different secrets sees the same: what
the log says, how lookups end, and how configurations, tokens, authorizers, connections and
interceptors are shown.  Only the metadata of the requests differs, by the token.
-/

namespace Switchboard

variable {answers : Answers}

/-! ## What can be seen of a run -/

/-- Two sequences of effects look the same from outside. -/
structure LooksLike (answers : Answers) (effects others : List Effect) : Prop where
  /-- The caches note the same. -/
  notices : effects.filterMap Effect.notice? = others.filterMap Effect.notice?
  /-- Every lookup ends in the same way, with the same connection or the same error. -/
  outcomes : ∀ ticket, effects.filterMap (·.outcomeOf? ticket) =
    others.filterMap (·.outcomeOf? ticket)
  /-- With what dialers note about the begins and the ends of dials, the log says the same. -/
  log : ∀ dialers : Dialers, (∀ ticket, answers (dialers ticket).answer) →
    (dialers.log effects).map Notice.shown = (dialers.log others).map Notice.shown
  /-- The connections that dialers make differ at most in the token. -/
  connections : ∀ dialers : Dialers, (∀ ticket, answers (dialers ticket).answer) →
    List.Forall₂ (fun made other => made.1 = other.1 ∧ made.2.Resembles other.2)
      (dialers.connections effects) (dialers.connections others)

/-- Two lookups dial the same endpoint with configurations that no dial tells apart. -/
def Answers.DialsAlike (answers : Answers) (dial other : String × DialConfig) : Prop :=
  dial.1 = other.1 ∧ answers.Overlooks dial.2 other.2

theorem Answers.dialsAlike_refl (dial : String × DialConfig) :
    answers.DialsAlike dial dial :=
  ⟨rfl, DialConfig.resembles_refl _, fun _ _ _ => rfl⟩

theorem Effect.Resembles.dialOf?
    {effect other : Effect}
    (resembles : effect.Resembles answers other)
    (ticket : Ticket) :
    Option.Rel answers.DialsAlike (effect.dialOf? ticket) (other.dialOf? ticket) := by
  cases resembles with
  | same effect =>
      cases effect.dialOf? ticket with
      | none => exact .none
      | some dial => exact .some (Answers.dialsAlike_refl dial)
  | dialed dialing endpoint overlooks =>
      rw [Effect.dialOf?, Effect.dialOf?]
      split
      · exact .some ⟨rfl, overlooks⟩
      · exact .none

/-- Lookups that have begun to dial before they end have dialed alike. -/
theorem endedDial?_alike
    {before otherBefore : List Effect}
    (pasts : List.Forall₂ (Effect.Resembles answers) before otherBefore)
    (ticket : Ticket)
    (outcome : Outcome) :
    Option.Rel answers.DialsAlike (endedDial? before ticket outcome)
      (endedDial? otherBefore ticket outcome) := by
  rw [endedDial?, endedDial?]
  split
  · exact .none
  · induction pasts with
    | nil => exact .none
    | @cons effect other _ _ first _ inductionHypothesis =>
        have dials := first.dialOf? ticket
        rw [List.findSome?_cons, List.findSome?_cons]
        generalize effect.dialOf? ticket = dial? at dials ⊢
        generalize other.dialOf? ticket = otherDial? at dials ⊢
        cases dials with
        | none => exact inductionHypothesis
        | some dials => exact .some dials

/-- Two effects resemble each other, and so does all that comes before them. -/
def ResembleSoFar (answers : Answers) (entry other : List Effect × Effect) : Prop :=
  List.Forall₂ (Effect.Resembles answers) entry.1 other.1 ∧ entry.2.Resembles answers other.2

theorem resembleSoFar_withPasts
    {effects others : List Effect}
    (resemble : List.Forall₂ (Effect.Resembles answers) effects others)
    {before otherBefore : List Effect}
    (pasts : List.Forall₂ (Effect.Resembles answers) before otherBefore) :
    List.Forall₂ (ResembleSoFar answers) (Effect.withPasts before effects)
      (Effect.withPasts otherBefore others) := by
  induction resemble generalizing before otherBefore with
  | nil => exact .nil
  | cons first _ inductionHypothesis =>
      exact .cons ⟨pasts, first⟩
        (inductionHypothesis (List.rel_append pasts (.cons first .nil)))

namespace Dialers

variable {dialers : Dialers}

/-- Dialers that overlook a difference dial in the same way. -/
theorem dialed_alike
    (known : ∀ ticket, answers (dialers ticket).answer)
    (ticket : Ticket)
    {dial other : String × DialConfig}
    (dials : answers.DialsAlike dial other) :
    (dialers.dialed ticket dial).Resembles (dialers.dialed ticket other) := by
  obtain ⟨endpoints, overlooks⟩ := dials
  rw [dialed, dialed, ← endpoints]
  exact Dialer.dial_resembles overlooks.resembles (overlooks.same _ (known ticket) _)

theorem notices_alike
    (known : ∀ ticket, answers (dialers ticket).answer)
    {entry other : List Effect × Effect}
    (resemble : ResembleSoFar answers entry other) :
    List.Forall₂ Notice.ShownAlike (dialers.notices entry.1 entry.2)
      (dialers.notices other.1 other.2) := by
  obtain ⟨before, effect⟩ := entry
  obtain ⟨otherBefore, otherEffect⟩ := other
  obtain ⟨pasts, effects⟩ := resemble
  cases effects with
  | @dialed ticket endpoint config otherConfig overlooks =>
      have dials : answers.DialsAlike (endpoint, config) (endpoint, otherConfig) :=
        ⟨rfl, overlooks⟩
      exact (dialed_alike known ticket dials).begun
  | same effect =>
      cases effect with
      | returned ticket outcome =>
          have dials := endedDial?_alike pasts ticket outcome
          rw [notices, notices]
          generalize endedDial? before ticket outcome = dial? at dials ⊢
          generalize endedDial? otherBefore ticket outcome = otherDial? at dials ⊢
          cases dials with
          | none => exact .nil
          | some dials => exact (dialed_alike known ticket dials).ended
      | notice | consulted | dialed | closed => exact shownAlike_refl _

theorem made?_alike
    (known : ∀ ticket, answers (dialers ticket).answer)
    {entry other : List Effect × Effect}
    (resemble : ResembleSoFar answers entry other) :
    Option.Rel (fun made otherMade => made.1 = otherMade.1 ∧ made.2.Resembles otherMade.2)
      (dialers.made? entry.1 entry.2) (dialers.made? other.1 other.2) := by
  obtain ⟨before, effect⟩ := entry
  obtain ⟨otherBefore, otherEffect⟩ := other
  obtain ⟨pasts, effects⟩ := resemble
  cases effects with
  | dialed => exact .none
  | same effect =>
      cases effect with
      | returned ticket outcome =>
          have dials := endedDial?_alike pasts ticket outcome
          rw [made?, made?]
          generalize endedDial? before ticket outcome = dial? at dials ⊢
          generalize endedDial? otherBefore ticket outcome = otherDial? at dials ⊢
          cases dials with
          | none => exact .none
          | @some dial otherDial dials =>
              have outcomes := (dialed_alike known ticket dials).outcome
              dsimp only [Option.bind_eq_bind, Option.bind_some]
              generalize (dialers.dialed ticket dial).outcome = result at outcomes ⊢
              generalize (dialers.dialed ticket otherDial).outcome = otherResult at outcomes ⊢
              cases outcomes with
              | error error => exact .none
              | ok made => exact .some ⟨rfl, made.1⟩
      | notice | consulted | dialed | closed => exact .none

end Dialers

/-- What is seen of effects that differ at most in the secrets of dials is the same, if nothing is
seen of the dials. -/
theorem filterMap_eq_of_resemble
    {seen : Effect → Option α}
    (unseen : ∀ ticket endpoint config, seen (.dialed ticket endpoint config) = none)
    {effects others : List Effect}
    (resemble : List.Forall₂ (Effect.Resembles answers) effects others) :
    effects.filterMap seen = others.filterMap seen := by
  induction resemble with
  | nil => rfl
  | cons resembles _ inductionHypothesis =>
      cases resembles with
      | same effect => rw [List.filterMap_cons, List.filterMap_cons, inductionHypothesis]
      | dialed =>
          rw [List.filterMap_cons_none (unseen _ _ _), List.filterMap_cons_none (unseen _ _ _),
            inductionHypothesis]

/-- Effects that differ at most in the secrets of dials look the same. -/
theorem looksLike_of_resemble
    {effects others : List Effect}
    (resemble : List.Forall₂ (Effect.Resembles answers) effects others) :
    LooksLike answers effects others where
  notices := filterMap_eq_of_resemble (fun _ _ _ => rfl) resemble
  outcomes _ := filterMap_eq_of_resemble (fun _ _ _ => rfl) resemble
  log dialers known := by
    have entries := resembleSoFar_withPasts resemble .nil
    have noted : List.Forall₂ Notice.ShownAlike (dialers.log effects) (dialers.log others) :=
      List.rel_flatMap entries fun _ _ alike => Dialers.notices_alike known alike
    rw [← List.forall₂_eq_eq_eq, List.forall₂_map_left_iff, List.forall₂_map_right_iff]
    exact noted
  connections dialers known :=
    List.rel_filterMap (fun _ _ alike => Dialers.made?_alike known alike)
      (resembleSoFar_withPasts resemble .nil)

/-! ## Clients -/

/-- Clients that differ at most in the secrets that their authorizers give. -/
structure Client.Resembles (answers : Answers) (client other : Client) : Prop where
  agents : client.agents = other.agents
  authentication : client.authentication = other.authentication
  authorizer : ∀ ticket,
    answers.OverlooksAll (client.authorizer ticket) (other.authorizer ticket)

/-- Turns of clients that differ at most in secrets. -/
structure ClientTurn.Resembles (answers : Answers) (turn other : ClientTurn) : Prop where
  surroundings : turn.surroundings = other.surroundings
  answer : answers turn.surroundings.answer
  state : ∀ family, (turn.state.of family).Resembles answers (other.state.of family)
  effects : List.Forall₂ (Effect.Resembles answers) (turn.effects.map Prod.snd)
    (other.effects.map Prod.snd)

namespace ClientTurn.Resembles

variable {client otherClient : Client} {turn other : ClientTurn}

theorem stepOne
    (turns : turn.Resembles answers other)
    (clients : client.Resembles answers otherClient)
    {event otherEvent : Event}
    (events : event.Resembles answers otherEvent)
    (family : Family) :
    (client.stepOne family turn event).Resembles answers
      (otherClient.stepOne family other otherEvent) := by
  have caches : otherClient.cacheOf family = client.cacheOf family := by
    cases family
    · exact clients.agents.symm
    · exact clients.authentication.symm
  have stepped := (turns.state family).step turns.answer events (client.cacheOf family)
  rw [Client.stepOne, Client.stepOne, caches, ← turns.surroundings]
  refine ⟨stepped.surroundings, stepped.answer, fun seen => ?_, ?_⟩
  · rw [Client.of_replace, Client.of_replace]
    split
    · exact stepped.state
    · exact turns.state seen
  · simp only [List.map_append, List.map_map, Function.comp_def, List.map_id']
    exact List.rel_append turns.effects stepped.effects

theorem stepBoth
    (turns : turn.Resembles answers other)
    (clients : client.Resembles answers otherClient)
    {event otherEvent : Event}
    (events : event.Resembles answers otherEvent) :
    (client.stepBoth turn event).Resembles answers (otherClient.stepBoth other otherEvent) :=
  (turns.stepOne clients events .agent).stepOne clients events .authentication

theorem next
    (turns : turn.Resembles answers other)
    (clients : client.Resembles answers otherClient)
    {event : ClientEvent}
    (changes : ∀ answer, event = .change (.answers answer) → answers answer) :
    (client.next turn event).Resembles answers (otherClient.next other event) := by
  cases event with
  | start family ticket address token? =>
      have lookups : Lookup.Resembles answers
          ⟨ticket, address, client.authorizer ticket, token?⟩
          ⟨ticket, address, otherClient.authorizer ticket, token?⟩ :=
        ⟨rfl, rfl, clients.authorizer ticket, rfl⟩
      exact turns.stepOne clients (.start lookups) family
  | poll ticket => exact turns.stepBoth clients (.poll ticket)
  | drop ticket => exact turns.stepBoth clients (.drop ticket)
  | clearOne family => exact turns.stepOne clients .clear family
  | clear => exact turns.stepBoth clients .clear
  | change change =>
      rw [Client.next, Client.next, ← turns.surroundings]
      refine ⟨rfl, Surroundings.answers_apply turns.answer ?_, turns.state, turns.effects⟩
      rintro answer rfl
      exact changes answer rfl

/-- Runs of clients that differ at most in secrets go hand in hand. -/
theorem run
    (turns : turn.Resembles answers other)
    (clients : client.Resembles answers otherClient)
    {events : List ClientEvent}
    (changes : ∀ answer, .change (.answers answer) ∈ events → answers answer) :
    (client.run turn events).Resembles answers (otherClient.run other events) := by
  induction events generalizing turn other with
  | nil => exact turns
  | cons event more inductionHypothesis =>
      refine inductionHypothesis (turns.next clients ?_) ?_
      · rintro answer rfl
        exact changes answer List.mem_cons_self
      · exact fun answer member => changes answer (List.mem_cons_of_mem _ member)

end ClientTurn.Resembles

/-! ## Indifferent dials -/

/-- The outcome of a dial does not depend on secrets. -/
def Indifferent (answer : String → DialConfig → Answer) : Prop :=
  ∀ endpoint config other, DialConfig.Resembles config other →
    answer endpoint config = answer endpoint other

/-- Indifferent dials overlook all differences in secrets. -/
theorem overlooksAll_of_indifferent
    (indifferent : ∀ answer, answers answer → Indifferent answer)
    {authorizer other : Authorizer}
    (resembles : authorizer.Resembles other) :
    answers.OverlooksAll authorizer other := by
  refine ⟨resembles, fun family debugMode timeouts config otherConfig made otherMade answer known
    endpoint => ?_⟩
  have outcome := (resembles.prepare family debugMode timeouts).outcome
  rw [made, otherMade] at outcome
  cases outcome with
  | ok configs => exact indifferent answer known endpoint config otherConfig configs

/-- Blueprints that differ at most in secrets. -/
structure Blueprint.Resembles (blueprint other : Blueprint) : Prop where
  uri : blueprint.uri = other.uri
  security : blueprint.security.Resembles other.security
  keepalive : blueprint.keepalive = other.keepalive
  timeouts : blueprint.timeouts = other.timeouts

/-- A network accepts credentials and establishes transports without regard to secrets. -/
structure Network.IsIndifferent (network : Network) : Prop where
  accept : ∀ settings other uri, TlsSettings.Resembles settings other →
    network.accept settings uri = network.accept other uri
  establish : ∀ blueprint other, Blueprint.Resembles blueprint other →
    network.establish blueprint = network.establish other

namespace Dialer

variable {dialer : Dialer} {config other : DialConfig}

theorem blueprint_resembles
    (indifferent : dialer.network.IsIndifferent)
    (resembles : config.Resembles other)
    (endpoint : String) :
    Alike Blueprint.Resembles (dialer.blueprint endpoint config)
      (dialer.blueprint endpoint other) := by
  have securities := resembles.security
  rw [blueprint, blueprint, securities.scheme_eq, resembles.keepalive, resembles.timeouts]
  generalize config.security = security at securities ⊢
  generalize other.security = otherSecurity at securities ⊢
  cases Uri.parse? otherSecurity.scheme endpoint with
  | none => exact .error _
  | some uri =>
      cases securities with
      | plaintext => exact .ok ⟨rfl, .plaintext, rfl, rfl⟩
      | @tls settings otherSettings resembles =>
          dsimp only
          rw [indifferent.accept settings otherSettings uri resembles]
          cases dialer.network.accept otherSettings uri with
          | error fault => exact .error _
          | ok _ => exact .ok ⟨rfl, .tls resembles, rfl, rfl⟩

/-- A dialer is indifferent to secrets as soon as its network is. -/
theorem indifferent_answer
    (indifferent : dialer.network.IsIndifferent) :
    Indifferent dialer.answer := by
  intro endpoint config other resembles
  rcases (blueprint_resembles indifferent resembles endpoint).cases with
    ⟨error, made, otherMade⟩ | ⟨blueprint, otherBlueprint, made, otherMade, blueprints⟩
  · rw [answer_of_blueprint_eq_error made, answer_of_blueprint_eq_error otherMade]
  · have establishes := indifferent.establish blueprint otherBlueprint blueprints
    rw [answer_of_blueprint_eq_ok made, answer_of_blueprint_eq_ok otherMade, establish, establish,
      await, await, establishes, blueprints.uri]

end Dialer

/-! ## Secrets -/

/-- Runs of a cache with lookups that differ at most in secrets look the same. -/
theorem Cache.looksLike
    (cache : Cache)
    {surroundings : Surroundings}
    (known : answers surroundings.answer)
    {events others : List Event}
    (resemble : List.Forall₂ (Event.Resembles answers) events others) :
    LooksLike answers (cache.run ⟨surroundings, .empty, []⟩ events).effects
      (cache.run ⟨surroundings, .empty, []⟩ others).effects := by
  have begun : Turn.Resembles answers ⟨surroundings, .empty, []⟩ ⟨surroundings, .empty, []⟩ :=
    ⟨rfl, known, CacheState.resembles_empty, .nil⟩
  exact looksLike_of_resemble (begun.run resemble cache).effects

/-- Runs of clients with authorizers that differ at most in secrets look the same. -/
theorem Client.Resembles.looksLike
    {client other : Client}
    (resembles : client.Resembles answers other)
    {surroundings : Surroundings}
    (known : answers surroundings.answer)
    {events : List ClientEvent}
    (changes : ∀ answer, .change (.answers answer) ∈ events → answers answer) :
    LooksLike answers ((client.run ⟨surroundings, .empty, []⟩ events).effects.map Prod.snd)
      ((other.run ⟨surroundings, .empty, []⟩ events).effects.map Prod.snd) := by
  have empty : ∀ family, (ClientState.empty.of family).Resembles answers
      (ClientState.empty.of family) := by
    intro family
    cases family <;> exact CacheState.resembles_empty
  have begun : ClientTurn.Resembles answers ⟨surroundings, .empty, []⟩
      ⟨surroundings, .empty, []⟩ := ⟨rfl, known, empty, .nil⟩
  exact looksLike_of_resemble (begun.run resembles changes).effects

/-- Clients of the same kind are ready in the same way. -/
theorem Client.Resembles.readiness_eq
    {client other : Client}
    (resembles : client.Resembles answers other) :
    client.readiness = other.readiness := by
  rw [Client.readiness, Client.readiness, resembles.agents, resembles.authentication]

/-- Clients of configurations that resemble each other resemble each other. -/
theorem Config.Resembles.client
    {config other : Config}
    (resembles : config.Resembles other)
    {authorizer otherAuthorizer : Authorizer}
    (overlooks : answers.OverlooksAll authorizer otherAuthorizer) :
    (config.client authorizer).Resembles answers (other.client otherAuthorizer) := by
  rw [resembles.rest]
  exact ⟨rfl, rfl, fun _ => overlooks⟩

/-- Configurations that resemble each other describe clients that do, over authorizers that do,
or there are no authorizers for the same reason. -/
theorem Config.Resembles.clients
    {config other : Config}
    (resembles : config.Resembles other)
    {files otherFiles : FileTree}
    (reads : ∀ tls ∈ config.tls?, tls.ReadsAlike files otherFiles) :
    Alike (fun authorizer otherAuthorizer => authorizer.Resembles otherAuthorizer ∧
        (answers.OverlooksAll authorizer otherAuthorizer →
          (config.client authorizer).Resembles answers (other.client otherAuthorizer)))
      (config.authorizer files) (other.authorizer otherFiles) := by
  have authorizers := resembles.authorizer reads
  generalize config.authorizer files = result at authorizers ⊢
  generalize other.authorizer otherFiles = otherResult at authorizers ⊢
  cases authorizers with
  | error error => exact .error error
  | ok authorizer => exact .ok ⟨authorizer, resembles.client⟩

/-- Two connections look the same from outside, but for the token in their requests. -/
structure Connection.LooksLike (connection other : Connection) : Prop where
  /-- Their texts are the same. -/
  text : ∀ state, connection.render state = other.render state
  /-- So are the texts of their interceptors. -/
  interceptor : connection.interceptor.render = other.interceptor.render
  /-- What is noted when a request opens the TCP connection is the same, -/
  requested : ∀ network state, connection.request network state = other.request network state
  /-- when a request has ended, -/
  observed : ∀ state status, connection.observe state status = other.observe state status
  /-- and when they are closed. -/
  closed : ∀ state, connection.close state = other.close state
  /-- The metadata of requests differ at most in the token, and in whether it is legal. -/
  sent : ∀ request, connection.interceptor.SendsAlike other.interceptor request

theorem Connection.Resembles.looksLike
    {connection other : Connection}
    (resembles : connection.Resembles other) :
    connection.LooksLike other where
  text := resembles.render_eq
  interceptor := resembles.render_interceptor_eq
  requested network state := by rw [request, request, resembles.uri]
  observed state status := by rw [observe, observe, resembles.endpoint]
  closed state := by rw [close, close, resembles.endpoint]
  sent := Interceptor.sendsAlike resembles.credentials

/-- What holds secrets shows none, while dials stand in certain ways. -/
structure HidesSecrets (answers : Answers) : Prop where
  /-- Where dials are indifferent to secrets, all authorizers that differ at most in secrets are
  overlooked. -/
  overlooked : (∀ answer, answers answer → Indifferent answer) →
    ∀ authorizer other : Authorizer, authorizer.Resembles other →
      answers.OverlooksAll authorizer other
  /-- The dials of a dialer are indifferent to secrets as soon as its network is. -/
  indifferent : ∀ dialer : Dialer, dialer.network.IsIndifferent → Indifferent dialer.answer
  /-- Whatever its network is, they are indifferent to the token. -/
  untold : ∀ (dialer : Dialer) endpoint (config : DialConfig) credentials?,
    dialer.answer endpoint { config with credentials? } = dialer.answer endpoint config
  /-- Runs of a cache with lookups that differ at most in secrets look the same. -/
  caches : ∀ (cache : Cache) (surroundings : Surroundings) (events others : List Event),
    answers surroundings.answer → List.Forall₂ (Event.Resembles answers) events others →
      LooksLike answers (cache.run ⟨surroundings, .empty, []⟩ events).effects
        (cache.run ⟨surroundings, .empty, []⟩ others).effects
  /-- Clients that differ at most in secrets are ready in the same way. -/
  ready : ∀ client other : Client, client.Resembles answers other →
    client.readiness = other.readiness
  /-- Their runs look the same. -/
  clients : ∀ (client other : Client) (surroundings : Surroundings) (events : List ClientEvent),
    client.Resembles answers other → answers surroundings.answer →
    (∀ answer, .change (.answers answer) ∈ events → answers answer) →
      LooksLike answers ((client.run ⟨surroundings, .empty, []⟩ events).effects.map Prod.snd)
        ((other.run ⟨surroundings, .empty, []⟩ events).effects.map Prod.snd)
  /-- What may be shown of configurations that differ at most in the token is the same, as it is
  and as a document. -/
  redacted : ∀ config other : Config, config.Resembles other →
    config.redacted = other.redacted ∧ config.redacted.document = other.redacted.document
  /-- They describe clients that differ at most in secrets, if the files that they name do. -/
  configurations : ∀ config other : Config, config.Resembles other →
    ∀ files otherFiles, (∀ tls ∈ config.tls?, tls.ReadsAlike files otherFiles) →
      Alike (fun authorizer otherAuthorizer => authorizer.Resembles otherAuthorizer ∧
          (answers.OverlooksAll authorizer otherAuthorizer →
            (config.client authorizer).Resembles answers (other.client otherAuthorizer)))
        (config.authorizer files) (other.authorizer otherFiles)
  /-- Materials that differ at most in secrets have the same text, and make such authorizers. -/
  materials : ∀ material other : TlsMaterial, material.Resembles other →
    material.render = other.render ∧ material.authorizer.Resembles other.authorizer
  /-- Dial configurations that differ at most in secrets have the same text. -/
  dials : ∀ config other : DialConfig, config.Resembles other → config.render = other.render
  /-- All tokens have the same text. -/
  tokens : ∀ token other : BearerToken, token.render = other.render
  /-- Connections that differ at most in the token look the same. -/
  connections : ∀ connection other : Connection, connection.Resembles other →
    connection.LooksLike other

/-- No secret reaches the output, in whatever ways dials may stand. -/
theorem secrets_hidden (answers : Answers) : HidesSecrets answers where
  overlooked indifferent _ _ := overlooksAll_of_indifferent indifferent
  indifferent _ := Dialer.indifferent_answer
  untold := Dialer.answer_withCredentials
  caches cache _ _ _ known resemble := cache.looksLike known resemble
  ready _ _ := Client.Resembles.readiness_eq
  clients _ _ _ _ resembles known changes := resembles.looksLike known changes
  redacted _ _ resembles := ⟨resembles.redacted_eq, by rw [resembles.redacted_eq]⟩
  configurations _ _ resembles _ _ := resembles.clients
  materials _ _ resembles := ⟨resembles.render_eq, resembles.authorizer⟩
  dials _ _ := DialConfig.Resembles.render_eq
  tokens _ _ := rfl
  connections _ _ := Connection.Resembles.looksLike

/-- A lookup asks for a key and a token, and its dial stays open for a while before it makes a
connection; another one is refused.  With other secrets the dials are other ones, and still the
runs look the same. -/
theorem secrets_hidden_authentication :
    let network : Network :=
      ⟨fun _ port => if port = 65000 then .ok () else .error .connectionRefused,
        fun settings _ => if settings.identity?.isSome then .ok () else .error .security,
        fun _ => .usable⟩
    let dialer : Dialer := ⟨network, false⟩
    let answers : Answers := fun answer => answer = dialer.answer ∨ answer = fun _ _ => .pending
    let authorizer (secret : String) : Authorizer :=
      ⟨.ok ⟨none, some ⟨"certificate", secret⟩, none⟩, .ok ⟨secret⟩⟩
    let run (secret : String) : Turn :=
      (Cache.ofFamily .authentication .default).run
        ⟨{ Surroundings.initial with answer := fun _ _ => .pending }, .empty, []⟩
        [.start ⟨0, "node", authorizer secret, none⟩, .change (.answers dialer.answer), .poll 0,
          .start ⟨1, "node:7", authorizer secret, none⟩]
    let dialers : Dialers := fun _ => dialer
    answers.OverlooksAll (authorizer "first") (authorizer "second") ∧
      (run "first").effects ≠ (run "second").effects ∧
      LooksLike answers (run "first").effects (run "second").effects ∧
      (dialers.connections (run "first").effects).map Prod.fst = [0] ∧
      (dialers.log (run "first").effects).getLast? =
        some (.unreachable "https://node:7/" (.system .connectionRefused)) := by
  intro network dialer answers authorizer run dialers
  have hidden := secrets_hidden answers
  have networks : network.IsIndifferent := by
    refine ⟨fun settings other _ resembles => ?_, fun _ _ _ => rfl⟩
    change (if settings.identity?.isSome then _ else _) = if other.identity?.isSome then _ else _
    rw [resembles.identity]
  have indifferent : ∀ answer, answers answer → Indifferent answer := by
    rintro answer (rfl | rfl)
    · exact hidden.indifferent dialer networks
    · exact fun _ _ _ _ => rfl
  have overlooks := hidden.overlooked indifferent (authorizer "first") (authorizer "second")
    ⟨.ok ⟨rfl, rfl, rfl⟩, .ok trivial⟩
  have starts : ∀ ticket address, Event.Resembles answers
      (.start ⟨ticket, address, authorizer "first", none⟩)
      (.start ⟨ticket, address, authorizer "second", none⟩) :=
    fun _ _ => .start ⟨rfl, rfl, overlooks, rfl⟩
  have changes : Event.Resembles answers (.change (.answers dialer.answer))
      (.change (.answers dialer.answer)) := by
    refine .change _ ?_
    rintro answer ⟨⟩
    exact Or.inl rfl
  have dials : ∀ secret, ((run secret).effects.findSome? (·.dialOf? 0)).map (·.2.credentials?) =
      some (some ⟨secret⟩) := fun _ => rfl
  refine ⟨overlooks, fun same => ?_, ?_, ?_, ?_⟩
  · have first := dials "first"
    rw [same, dials "second"] at first
    exact absurd first (by decide)
  · refine hidden.caches (.ofFamily .authentication .default)
      { Surroundings.initial with answer := fun _ _ => .pending } _ _ (Or.inr rfl) ?_
    exact .cons (starts 0 "node") (.cons changes (.cons (.poll 0)
      (.cons (starts 1 "node:7") .nil)))
  · dsimp only [dialers, run, authorizer, dialer, network]
    rfl
  · dsimp only [dialers, run, authorizer, dialer, network]
    rfl

end Switchboard
