import Switchboard.Proofs.Cache.Attempt
import Switchboard.Proofs.Cache.Eviction
import Switchboard.Proofs.Channel.Occurrences

/-!
# Replacement of broken connections

Once a request has found the connection in a slot broken, nobody gets it any more: the next
lookup that has its turn at the slot closes it and makes an attempt of its own.  A connection
that has been closed stays shutdown, whatever happens to it later.
-/

namespace Switchboard
namespace Cache

open Trace

/-- What has become of a connection that was broken in a slot: nobody has got it since, and
whoever has the next turn at the slot replaces it. -/
structure Replaces
    (cache : Cache)
    (broken turn : Turn)
    (since : List Occurrence)
    (number connection : Ticket) : Prop where
  /-- Nobody has got the connection since it was found broken. -/
  withheld : ∃ more, turn.effects = broken.effects ++ more ∧
    ∀ ticket, .returned ticket (.ok connection) ∉ more
  /-- It is stale in its slot, or it has been closed. -/
  stale_or_closed :
    ((turn.state.slotAt number).connection? = some connection ∧
      (turn.surroundings.stateOf connection).isStale = true) ∨
    WasClosed turn.effects connection
  /-- Unless the cache has been cleared, the slot stays at the place of the endpoint until
  the connection is closed. -/
  placed : (∀ occurrence ∈ since, occurrence.isClear = false) →
    ∀ endpoint, broken.state.places.find? endpoint = some number →
      turn.state.places.find? endpoint = some number ∨ WasClosed turn.effects connection
  /-- The next lookup that has its turn at the slot closes the connection, which is shutdown
  then, and makes an attempt of its own. -/
  replaced : ∀ event moment flight, cache.Polls turn event moment flight →
    Enters moment.surroundings moment.state flight →
    (moment.state.slotAt flight.slot).connection? = some connection →
      (cache.step turn.surroundings turn.state event).effects =
        .notice (.evicting flight.endpoint (turn.surroundings.stateOf connection)) ::
          .closed flight.ticket connection flight.endpoint
            (turn.surroundings.stateOf connection) ::
          cache.ownAttempt moment.surroundings flight.lookup flight.endpoint ∧
      (cache.next turn event).surroundings.stateOf connection = .shutdown

/-- What a cache makes of the states that its connections report. -/
structure Heeds
    (cache : Cache)
    (connections : Ticket → Connection)
    (surroundings : Surroundings)
    (past : List Occurrence) : Prop where
  /-- A connection that has been closed is shutdown, is in no slot, and nobody gets it
  any more. -/
  closed_forever : ∀ earlier closer connection endpoint state later,
    (cache.lived connections surroundings past).effects =
        earlier ++ .closed closer connection endpoint state :: later →
      (cache.lived connections surroundings past).surroundings.stateOf connection =
          .shutdown ∧
        (∀ number, ((cache.lived connections surroundings past).state.slotAt
          number).connection? ≠ some connection) ∧
        ∀ ticket, .returned ticket (.ok connection) ∉ later
  /-- If the states of connections count, a connection is replaced that has been found
  broken in its slot and that has not been tried since. -/
  replaces : cache.policy = .transportState →
    ∀ earlier connection status later number,
      past = earlier ++ .happens connection (.observed status) :: later →
      ((connections connection).observe
        ((cache.lived connections surroundings earlier).surroundings.stateOf connection)
        status).failed = true →
      ((cache.lived connections surroundings earlier).state.slotAt number).connection? =
        some connection →
      (∀ occurrence ∈ later, occurrence.isAttemptOf connection = false) →
        cache.Replaces (cache.lived connections surroundings earlier)
          (cache.lived connections surroundings past) later number connection

variable {cache : Cache} {span : Ticket → Option LookupSpan} {now : Nat} {turn next : Turn}
  {number connection : Ticket} {home : String → Prop}

/-! ## Connections that are withheld -/

/-- A connection is not handed out any more: it has been closed, or it is stale in its slot,
which is at the places of certain endpoints. -/
def Withheld
    (turn : Turn)
    (number connection : Ticket)
    (home : String → Prop) : Prop :=
  WasClosed turn.effects connection ∨
    turn.state.Keeps number connection home ∧
      (turn.surroundings.stateOf connection).isStale = true

theorem Withheld.of_keeps
    (withheld : Withheld turn number connection home)
    (grows : ∃ more, next.effects = turn.effects ++ more)
    (keeps : turn.state.Keeps number connection home →
      next.state.Keeps number connection home)
    (same : next.surroundings.stateOf connection = turn.surroundings.stateOf connection) :
    Withheld next number connection home := by
  rcases withheld with closed | ⟨kept, stale⟩
  · obtain ⟨more, done⟩ := grows
    rw [Withheld, done, wasClosed_append]
    exact Or.inl (Or.inl closed)
  · exact Or.inr ⟨keeps kept, same ▸ stale⟩

theorem Reached.withheld_act
    (reached : Reached cache span now turn)
    (act : Act cache turn next)
    (withheld : Withheld turn number connection home) :
    Withheld next number connection home := by
  rcases withheld with closed | ⟨keeps, stale⟩
  · rcases act.mindsItself_or_evicts with ⟨flight, -, minds⟩ | ⟨flight, other, rfl⟩
    · obtain ⟨more, done⟩ := minds.grows
      rw [Withheld, done, wasClosed_append]
      exact Or.inl (Or.inl closed)
    · exact Or.inl ((wasClosed_evict _ _ _ _).mpr (Or.inl closed))
  · rcases reached.keeps_act act keeps with ⟨kept, same⟩ | ⟨flight, rfl, -⟩
    · exact Or.inr ⟨kept, same ▸ stale⟩
    · exact Or.inl ((wasClosed_evict _ _ _ _).mpr (Or.inr rfl))

/-- No event brings a connection back that is withheld. -/
theorem Reached.withheld_next
    (reached : Reached cache span now turn)
    {event : Event}
    (silent : event.isReport = false)
    (unclearing : event.isClear = false ∨ ∀ endpoint, ¬home endpoint)
    (belongs : ∀ lookup, event = .start lookup →
      lookup.ticket ∉ turn.surroundings.started →
        span lookup.ticket = some ⟨cache.family.resolve lookup.address, now⟩)
    (withheld : Withheld turn number connection home) :
    Withheld (cache.next turn event) number connection home := by
  refine reached.kept_by_next Reached.withheld_act event belongs withheld
    ?board ?decline ?leave ?clear ?change
  case board =>
    intro lookup starts new unfired
    exact withheld.of_keeps ⟨[], (List.append_nil _).symm⟩
      (fun keeps => keeps.board reached.queued new _) rfl
  case decline =>
    intro lookup
    exact withheld.of_keeps ⟨_, rfl⟩ (fun keeps => ⟨keeps.held, keeps.placed⟩) rfl
  case leave =>
    intro flight flies
    exact withheld.of_keeps ⟨[], (List.append_nil _).symm⟩ (fun keeps => keeps.leave flight) rfl
  case clear =>
    rintro rfl
    refine withheld.of_keeps ⟨_, rfl⟩ (fun keeps => ⟨keeps.held, ?_⟩) rfl
    intro endpoint belongs
    exact absurd belongs (unclearing.resolve_left Bool.noConfusion endpoint)
  case change =>
    rintro change rfl
    rw [next_change]
    refine withheld.of_keeps ⟨[], (List.append_nil _).symm⟩
      (fun keeps => ⟨keeps.held, keeps.placed⟩) ?_
    rw [Surroundings.stateOf, turn.surroundings.states_apply silent]
    rfl

/-- Nothing that happens to a connection brings it back if it is withheld, but for the begin or
the end of an attempt to connect. -/
theorem Withheld.happens
    (withheld : Withheld turn number connection home)
    (cache : Cache)
    (connections : Ticket → Connection)
    {other : Ticket}
    {happening : Happening}
    (passive : Occurrence.isAttemptOf connection (.happens other happening) = false) :
    Withheld (cache.occur connections turn (.happens other happening)) number connection
      home := by
  rw [occur, Occurrence.toEvent, next_change]
  rcases withheld with closed | ⟨keeps, stale⟩
  · exact Or.inl closed
  · refine Or.inr ⟨⟨keeps.held, keeps.placed⟩, ?_⟩
    by_cases same : connection = other
    · subst same
      have idle : happening.isAttempt = false := by
        simpa [Occurrence.isAttemptOf] using passive
      dsimp only
      rw [Surroundings.apply]
      split
      · rw [Surroundings.stateOf_report_self]
        exact Connection.isStale_undergo stale _ idle
      · exact stale
    · exact (turn.surroundings.stateOf_apply_of_ne same _).symm ▸ stale

theorem Polls.withheld
    {event : Event}
    {moment : Turn}
    {flight : Flight}
    (polls : cache.Polls turn event moment flight)
    (reached : Reached cache span now turn)
    (withheld : Withheld turn number connection home) :
    Withheld moment number connection home := by
  cases polls with
  | again member => exact withheld
  | first new unfired =>
      exact withheld.of_keeps ⟨[], (List.append_nil _).symm⟩
        (fun keeps => keeps.board reached.queued new _) rfl

/-- Nobody gets a connection that is withheld. -/
theorem Reached.not_returned_of_withheld
    (reached : Reached cache span now turn)
    {event : Event}
    (belongs : ∀ lookup, event = .start lookup →
      lookup.ticket ∉ turn.surroundings.started →
        span lookup.ticket = some ⟨cache.family.resolve lookup.address, now⟩)
    (trusts : cache.policy = .transportState)
    (withheld : Withheld turn number connection home)
    (ticket : Ticket) :
    .returned ticket (.ok connection) ∉
      (cache.step turn.surroundings turn.state event).effects := by
  intro returns
  rcases grounds_step returns with
    ⟨moment, flight, polls, rfl, ends⟩ | ⟨lookup, -, -, equal⟩ | ⟨notice, equal⟩
  · have reachedThen := polls.reached reached belongs
    have withheldThen := polls.withheld reached withheld
    rcases ends with ⟨rfl, -⟩ | ⟨enters, held, reusable⟩
    · -- Its own lookup has ended, or else it could neither be closed nor be in a slot.
      have flies : flight.ticket ∈ moment.state.inFlight :=
        List.mem_map_of_mem polls.mem_flights
      rcases withheldThen with closed | ⟨keeps, -⟩
      · exact (reachedThen.deeds.closed _ closed).2.1 flies
      · exact (reachedThen.queued.connections_over _ _ keeps.held).2 flies
    · rcases withheldThen with closed | ⟨-, stale⟩
      · exact (reachedThen.deeds.closed _ closed).2.2 _ held
      · rw [trusts, HealthPolicy.reusable, stale] at reusable
        cases reusable
  · cases equal
  · cases equal

/-- Whoever has the turn at the slot of a connection that is withheld closes it and makes an
attempt of its own. -/
theorem Reached.replaced_of_withheld
    (reached : Reached cache span now turn)
    {event : Event}
    (belongs : ∀ lookup, event = .start lookup →
      lookup.ticket ∉ turn.surroundings.started →
        span lookup.ticket = some ⟨cache.family.resolve lookup.address, now⟩)
    (trusts : cache.policy = .transportState)
    (withheld : Withheld turn number connection home)
    {moment : Turn}
    {flight : Flight}
    (polls : cache.Polls turn event moment flight)
    (enters : Enters moment.surroundings moment.state flight)
    (held : (moment.state.slotAt flight.slot).connection? = some connection) :
    (cache.step turn.surroundings turn.state event).effects =
      .notice (.evicting flight.endpoint (turn.surroundings.stateOf connection)) ::
        .closed flight.ticket connection flight.endpoint
          (turn.surroundings.stateOf connection) ::
        cache.ownAttempt moment.surroundings flight.lookup flight.endpoint := by
  have reachedThen := polls.reached reached belongs
  have sameState : moment.surroundings.stateOf connection =
      turn.surroundings.stateOf connection := by
    rw [polls.surroundings_eq]
    rfl
  have stale : (moment.surroundings.stateOf connection).isStale = true := by
    rcases polls.withheld reached withheld with closed | ⟨-, stale⟩
    · exact absurd held ((reachedThen.deeds.closed _ closed).2.2 _)
    · exact stale
  have redials : cache.Redials moment.surroundings moment.state flight := by
    refine ⟨enters, ?_⟩
    intro other found
    obtain rfl := Option.some.inj (held.symm.trans found)
    rw [trusts, HealthPolicy.reusable, stale]
    rfl
  let silent : Turn := { moment with effects := [] }
  have redialsThen : cache.Redials silent.surroundings silent.state flight := redials
  rw [polls.effects_step reached.queued.distinct, redialsThen.effects_advance, ← sameState]
  simp only [evictions, silent, held]
  rfl

/-! ## Runs -/

theorem withheld_lived
    (cache : Cache)
    (connections : Ticket → Connection)
    (surroundings : Surroundings)
    (earlier later : List Occurrence)
    (withheld : Withheld (cache.lived connections surroundings earlier) number connection home)
    (passive : ∀ occurrence ∈ later, occurrence.isAttemptOf connection = false)
    (unclearing : (∀ occurrence ∈ later, occurrence.isClear = false) ∨
      ∀ endpoint, ¬home endpoint) :
    Withheld (cache.lived connections surroundings (earlier ++ later)) number connection
      home := by
  -- Only an attempt of the connection could mend it; everything else leaves it withheld.
  induction later using List.reverseRecOn with
  | nil => rwa [List.append_nil]
  | append_singleton later occurrence inductionHypothesis =>
      have before := inductionHypothesis
        (fun other member => passive other (List.mem_append_left _ member))
        (unclearing.imp_left fun none other member => none other (List.mem_append_left _ member))
      have idle := passive occurrence List.mem_concat_self
      rw [← List.append_assoc, lived_concat]
      cases occurrence with
      | event event silent =>
          obtain ⟨span, now, reached, belongs⟩ :=
            cache.exists_reached connections surroundings (earlier ++ later) event
          refine reached.withheld_next silent ?_ belongs before
          exact unclearing.imp_left fun none => none _ List.mem_concat_self
      | happens other happening => exact before.happens cache connections idle

/-- As long as no attempt to connect is recorded, nobody gets a connection that is withheld. -/
theorem not_returned_lived
    (cache : Cache)
    (connections : Ticket → Connection)
    (surroundings : Surroundings)
    (trusts : cache.policy = .transportState)
    (earlier later : List Occurrence)
    (withheld : Withheld (cache.lived connections surroundings earlier) number connection
      fun _ => False)
    (passive : ∀ occurrence ∈ later, occurrence.isAttemptOf connection = false) :
    ∃ more, (cache.lived connections surroundings (earlier ++ later)).effects =
        (cache.lived connections surroundings earlier).effects ++ more ∧
      ∀ ticket, .returned ticket (.ok connection) ∉ more := by
  induction later using List.reverseRecOn with
  | nil => exact ⟨[], by simp, fun _ => List.not_mem_nil⟩
  | append_singleton later occurrence inductionHypothesis =>
      have idle : ∀ other ∈ later, other.isAttemptOf connection = false :=
        fun other member => passive other (List.mem_append_left _ member)
      obtain ⟨more, done, absent⟩ := inductionHypothesis idle
      have before := cache.withheld_lived connections surroundings earlier later withheld idle
        (Or.inr fun _ => id)
      let event := occurrence.toEvent connections
        (cache.lived connections surroundings (earlier ++ later)).surroundings
      obtain ⟨span, now, reached, belongs⟩ :=
        cache.exists_reached connections surroundings (earlier ++ later) event
      rw [← List.append_assoc, lived_concat]
      refine ⟨more ++ (cache.step
        (cache.lived connections surroundings (earlier ++ later)).surroundings
        (cache.lived connections surroundings (earlier ++ later)).state event).effects, ?_, ?_⟩
      · rw [← List.append_assoc, ← done]
        rfl
      · intro ticket returned
        rcases List.mem_append.mp returned with earlier | now
        · exact absent ticket earlier
        · exact reached.not_returned_of_withheld belongs trusts before ticket now

/-- A connection in a slot that a request finds broken is withheld from then on. -/
theorem withheld_of_observed
    (cache : Cache)
    (connections : Ticket → Connection)
    (surroundings : Surroundings)
    (past : List Occurrence)
    (keeps : (cache.lived connections surroundings past).state.Keeps number connection home)
    {status : Status}
    (failure : status.isConnectionFailure = true) :
    Withheld (cache.lived connections surroundings
      (past ++ [.happens connection (.observed status)])) number connection home := by
  obtain ⟨span, now, reached, -⟩ := cache.exists_reached connections surroundings past .clear
  obtain ⟨before, endpoint, config, after, whole, -⟩ :=
    reached.keeping.held_succeeds number connection keeps.held
  have begun : .dialed connection endpoint config ∈
      (cache.lived connections surroundings past).effects := by
    rw [whole]
    exact List.mem_append_right _ List.mem_cons_self
  have dialed := (cache.statesTell_lived connections surroundings past).dialed connection
    ⟨endpoint, config, begun⟩
  rw [lived_concat, occur, Occurrence.toEvent, next_change]
  refine Or.inr ⟨⟨keeps.held, keeps.placed⟩, ?_⟩
  dsimp only
  rw [Surroundings.stateOf_apply_self _ dialed]
  exact Connection.isStale_observed _ _ failure

/-- An event that polls a lookup reports nothing for a connection. -/
theorem Polls.isReport_eq_false
    {event : Event}
    {moment : Turn}
    {flight : Flight}
    (polls : cache.Polls turn event moment flight) :
    event.isReport = false := by
  cases polls with
  | again member => rfl
  | first new unfired => rfl

/-- What has been closed is shutdown, is in no slot, and is not handed out any more. -/
theorem closed_lived
    (cache : Cache)
    (connections : Ticket → Connection)
    (surroundings : Surroundings)
    (past : List Occurrence)
    {earlier later : List Effect}
    {closer connection : Ticket}
    {endpoint : String}
    {state : Connectivity}
    (whole : (cache.lived connections surroundings past).effects =
      earlier ++ .closed closer connection endpoint state :: later) :
    (cache.lived connections surroundings past).surroundings.stateOf connection = .shutdown ∧
      (∀ number, ((cache.lived connections surroundings past).state.slotAt
        number).connection? ≠ some connection) ∧
      ∀ ticket, .returned ticket (.ok connection) ∉ later := by
  obtain ⟨span, now, reached, -⟩ := cache.exists_reached connections surroundings past .clear
  have closed : WasClosed (cache.lived connections surroundings past).effects connection := by
    refine ⟨closer, endpoint, state, ?_⟩
    rw [whole]
    exact List.mem_append_right _ List.mem_cons_self
  have orderly := reached.orderly
  rw [whole] at orderly
  exact ⟨(cache.statesTell_lived connections surroundings past).closed connection closed,
    (reached.deeds.closed connection closed).2.2, orderly.not_returned_later⟩

/-- A connection that is closed at an event is shutdown after the event. -/
theorem shutdown_of_closes
    (cache : Cache)
    (connections : Ticket → Connection)
    (surroundings : Surroundings)
    (past : List Occurrence)
    {event : Event}
    (silent : event.isReport = false)
    {closer connection : Ticket}
    {endpoint : String}
    {state : Connectivity}
    (closes : .closed closer connection endpoint state ∈
      (cache.step (cache.lived connections surroundings past).surroundings
        (cache.lived connections surroundings past).state event).effects) :
    (cache.next (cache.lived connections surroundings past) event).surroundings.stateOf
      connection = .shutdown := by
  have tell := cache.statesTell_lived connections surroundings (past ++ [.event event silent])
  rw [lived_concat] at tell
  exact tell.closed connection ⟨closer, endpoint, state, List.mem_append_right _ closes⟩

/-- A cache that trusts the states of its connections replaces those that are broken. -/
theorem replaces_lived
    (cache : Cache)
    (connections : Ticket → Connection)
    (surroundings : Surroundings)
    (trusts : cache.policy = .transportState)
    (earlier later : List Occurrence)
    {status : Status}
    (failure : status.isConnectionFailure = true)
    (held : ((cache.lived connections surroundings earlier).state.slotAt number).connection? =
      some connection)
    (passive : ∀ occurrence ∈ later, occurrence.isAttemptOf connection = false) :
    cache.Replaces (cache.lived connections surroundings earlier)
      (cache.lived connections surroundings
        (earlier ++ .happens connection (.observed status) :: later))
      later number connection := by
  have broken : ∀ home : String → Prop,
      (∀ endpoint, home endpoint → (cache.lived connections surroundings
        earlier).state.places.find? endpoint = some number) →
      Withheld (cache.lived connections surroundings
        (earlier ++ [.happens connection (.observed status)])) number connection home :=
    fun home placed =>
      cache.withheld_of_observed connections surroundings earlier ⟨held, placed⟩ failure
  have homeless := broken (fun _ => False) fun _ => False.elim
  have withheld := cache.withheld_lived connections surroundings _ later homeless passive
    (Or.inr fun _ => id)
  rw [List.append_cons]
  constructor
  case withheld =>
    obtain ⟨more, done, absent⟩ := cache.not_returned_lived connections surroundings trusts _
      later homeless passive
    refine ⟨more, done.trans ?_, absent⟩
    rw [lived_concat]
    exact congrArg (· ++ more) (List.append_nil _)
  case stale_or_closed => exact withheld.symm.imp_left fun kept => ⟨kept.1.held, kept.2⟩
  case placed =>
    intro unclearing endpoint placed
    have atHome := cache.withheld_lived connections surroundings _ later
      (broken (· = endpoint) fun other same => same ▸ placed) passive (Or.inl unclearing)
    exact atHome.symm.imp_left fun kept => kept.1.placed endpoint rfl
  case replaced =>
    intro event moment flight polls enters heldThen
    obtain ⟨span, now, reached, belongs⟩ := cache.exists_reached connections surroundings
      (earlier ++ [.happens connection (.observed status)] ++ later) event
    have done := reached.replaced_of_withheld belongs trusts withheld polls enters heldThen
    refine ⟨done, ?_⟩
    apply cache.shutdown_of_closes connections surroundings _ polls.isReport_eq_false
    rw [done]
    exact List.mem_cons_of_mem _ List.mem_cons_self

/-- Connections live as they should, and caches heed what the connections report. -/
theorem heeds_lived
    (cache : Cache)
    (connections : Ticket → Connection)
    (surroundings : Surroundings)
    (past : List Occurrence) :
    (∀ connection happenings, (connections connection).Lives happenings) ∧
      cache.Heeds connections surroundings past := by
  refine ⟨fun connection happenings => (connections connection).lives happenings, ?_⟩
  constructor
  case closed_forever =>
    intro earlier closer connection endpoint state later whole
    exact cache.closed_lived connections surroundings past whole
  case replaces =>
    rintro trusts earlier connection status later number rfl failure held passive
    rw [Connection.failed_observe] at failure
    exact cache.replaces_lived connections surroundings trusts earlier later failure held passive

end Cache
end Switchboard
