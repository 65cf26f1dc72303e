import Switchboard.Proofs.Cache.Attempt
import Switchboard.Proofs.Cache.Endings
import Switchboard.Proofs.Cache.Inspection

/-!
# Where connections are

A dial that is seen to succeed gives its connection to the slot and to the lookup at once.
From then on the connection is at the place of the endpoint that was dialed, or it has been
closed and is in no slot, unless the cache has been cleared since.
-/

namespace Switchboard

namespace Effect

/-- An effect has to do with the endpoint of its lookup only, and a connection is closed by a
lookup of its own span. -/
def IsAtHome (span : Ticket → Option LookupSpan) : Effect → Prop
  | .dialed ticket endpoint _ => (span ticket).map (·.endpoint) = some endpoint
  | .closed ticket connection endpoint _ =>
      (span ticket).map (·.endpoint) = some endpoint ∧ span connection = span ticket
  | .notice _ | .consulted _ _ | .returned _ _ => True

variable {span : Ticket → Option LookupSpan}

theorem isAtHome_of_isIdle
    {effect : Effect}
    (idle : effect.isIdle = true) :
    effect.IsAtHome span := by
  cases effect with
  | notice notice => exact trivial
  | consulted ticket question => exact trivial
  | returned ticket outcome => exact trivial
  | dialed ticket endpoint config => exact absurd idle Bool.false_ne_true
  | closed ticket connection endpoint state => exact absurd idle Bool.false_ne_true

end Effect

/-- An event that clears the cache is a clear. -/
theorem Event.eq_clear
    {event : Event}
    (cleared : event.isClear = true) :
    event = .clear := by
  cases event with
  | clear => rfl
  | start lookup => cases cleared
  | poll ticket => cases cleared
  | drop ticket => cases cleared
  | change change => cases cleared

namespace History

/-- The cache has been cleared after a lookup was polled for the first time. -/
def PrecedesClear
    (events : List Event)
    (ticket : Ticket) : Prop :=
  ∃ past future, events = past ++ .clear :: future ∧ (lookup? past ticket).isSome

/-- The lookups that were polled for the first time before a clear are those of former
epochs. -/
theorem precedesClear_iff
    {events : List Event}
    {ticket : Ticket}
    (known : (lookup? events ticket).isSome) :
    PrecedesClear events ticket ↔ epoch events ticket < clears events := by
  constructor
  · rintro ⟨past, future, rfl, earlier⟩
    have before := epoch_le_clears past ticket
    have opened : clears (.clear :: future) = 1 + clears future := clears_append [.clear] future
    rw [epoch_append_of_isSome earlier, clears_append, opened]
    omega
  · intro later
    obtain ⟨lookup, found⟩ := Option.isSome_iff_exists.mp known
    obtain ⟨past, event, future, rfl, starts, before⟩ := List.findSome?_eq_some_iff.mp found
    have unknown : lookup? past ticket = none := List.findSome?_eq_none_iff.mpr before
    have atOnce : epoch (event :: future) ticket = 0 := by
      rw [epoch, List.takeWhile_cons, starts]
      rfl
    have unclear : clears [event] = 0 := by
      apply clears_eq_zero
      intro member
      rw [← List.mem_singleton.mp member] at starts
      cases starts
    have rest : clears (event :: future) = clears future := by
      rw [← List.singleton_append, clears_append, unclear, Nat.zero_add]
    rw [epoch_append_of_eq_none unknown, atOnce, clears_append, rest] at later
    obtain ⟨cleared, member, isClear⟩ :=
      List.countP_pos_iff.mp (by omega : 0 < clears future)
    obtain rfl := Event.eq_clear isClear
    obtain ⟨between, after, rfl⟩ := List.append_of_mem member
    refine ⟨past ++ event :: between, after, ?_, ?_⟩
    · rw [List.append_assoc, List.cons_append]
    · rw [lookup?_append, unknown, Option.none_or, lookup?, List.findSome?_cons, starts]
      rfl

end History

namespace Cache

open History Trace

/-- At an event a lookup sees that its dial has succeeded. -/
def Establishes
    (cache : Cache)
    (turn : Turn)
    (event : Event)
    (ticket : Ticket) : Prop :=
  ∃ moment flight config state?,
    cache.Polls turn event moment flight ∧ flight.ticket = ticket ∧
      moment.surroundings.hasFired flight.lookup.token? = false ∧
      cache.Awaits moment.surroundings moment.state flight config ∧
      moment.surroundings.answer flight.endpoint config = .connected state?

/-- A dial has established a connection, which has the number of the lookup. -/
def HasEstablished
    (cache : Cache)
    (surroundings : Surroundings)
    (events : List Event)
    (connection : Ticket) : Prop :=
  ∃ past event future, events = past ++ event :: future ∧
    cache.Establishes (cache.after surroundings past) event connection

/-- A connection is in one of three places. -/
inductive Sits
    (events : List Event)
    (turn : Turn)
    (endpoint : String)
    (connection : Ticket) : Prop
  /-- It is at the place of the endpoint and nowhere else. -/
  | cached
      (here : turn.state.cached? endpoint = some connection)
      (nowhereElse : ∀ other, turn.state.cached? other = some connection → other = endpoint)
      (unclosed : ¬WasClosed turn.effects connection)
      (present : ¬PrecedesClear events connection)
  /-- It has been closed, and is in no slot. -/
  | closed
      (closed : WasClosed turn.effects connection)
      (nowhere : ∀ number, (turn.state.slotAt number).connection? ≠ some connection)
  /-- It has been dialed before a clear, and has lost its place. -/
  | left
      (former : PrecedesClear events connection)
      (unclosed : ¬WasClosed turn.effects connection)
      (displaced : ∀ other, turn.state.cached? other ≠ some connection)

/-- No connection is lost, and none is handed out to a lookup of another endpoint. -/
structure Conserved
    (cache : Cache)
    (surroundings : Surroundings)
    (events : List Event)
    (turn : Turn) : Prop where
  /-- When a dial is seen to succeed, its connection is in a slot and the lookup has it, at
  the same event. -/
  delivered : ∀ past event future connection, events = past ++ event :: future →
    cache.Establishes (cache.after surroundings past) event connection →
      .returned connection (.ok connection) ∈
          (cache.step (cache.after surroundings past).surroundings
            (cache.after surroundings past).state event).effects ∧
        ∃ number, ((cache.after surroundings (past ++ [event])).state.slotAt
          number).connection? = some connection
  /-- Every connection that has been established was dialed to one endpoint, and is in one
  place. -/
  sits : ∀ connection, cache.HasEstablished surroundings events connection →
    ∃ endpoint config, .dialed connection endpoint config ∈ turn.effects ∧
      (∀ other otherConfig, .dialed connection other otherConfig ∈ turn.effects →
        other = endpoint) ∧
      Sits events turn endpoint connection
  /-- Without a clear the connections that have not been closed are those that are cached. -/
  unbroken : .clear ∉ events → ∀ connection,
    cache.HasEstablished surroundings events connection ∧
        ¬WasClosed turn.effects connection ↔
      ∃ endpoint, turn.state.cached? endpoint = some connection
  /-- Without a clear there is one such connection for an endpoint at most. -/
  single : .clear ∉ events → ∀ left right endpoint leftConfig rightConfig,
    cache.HasEstablished surroundings events left → ¬WasClosed turn.effects left →
      .dialed left endpoint leftConfig ∈ turn.effects →
        cache.HasEstablished surroundings events right → ¬WasClosed turn.effects right →
          .dialed right endpoint rightConfig ∈ turn.effects → left = right
  /-- A connection that is cached has been established and handed out. -/
  received : ∀ endpoint connection, turn.state.cached? endpoint = some connection →
    cache.HasEstablished surroundings events connection ∧
      ∃ ticket, .returned ticket (.ok connection) ∈ turn.effects
  /-- A lookup gets a connection that was dialed to the endpoint of its address, and to no
  other. -/
  directed : ∀ ticket connection, .returned ticket (.ok connection) ∈ turn.effects →
    ∃ lookup, lookup? events ticket = some lookup ∧
      (∃ config, .dialed connection (cache.family.resolve lookup.address) config ∈
        turn.effects) ∧
      ∀ endpoint config, .dialed connection endpoint config ∈ turn.effects →
        endpoint = cache.family.resolve lookup.address

variable {cache : Cache} {span : Ticket → Option LookupSpan} {now : Nat} {turn : Turn}
  {surroundings : Surroundings} {events : List Event}

/-! ## Effects at home -/

theorem Reached.isAtHome_act
    {next : Turn}
    (reached : Reached cache span now turn)
    (act : Act cache turn next)
    (home : ∀ effect ∈ turn.effects, effect.IsAtHome span) :
    ∀ effect ∈ next.effects, effect.IsAtHome span := by
  have charted := reached.charted
  have endpoint : ∀ flight ∈ turn.state.flights,
      (span flight.ticket).map (·.endpoint) = some flight.endpoint := by
    intro flight member
    obtain ⟨epoch, own, -⟩ := charted.flights_span flight member
    rw [own]
    rfl
  have idle : ∀ {effects : List Effect}, IsIdle effects →
      ∀ effect ∈ effects, effect.IsAtHome span :=
    fun quiet effect member => Effect.isAtHome_of_isIdle (quiet effect member)
  have returns : ∀ ticket outcome effect,
      effect ∈ [Effect.returned ticket outcome] → effect.IsAtHome span :=
    fun ticket outcome => idle (isIdle_returned ticket outcome)
  have notes : ∀ notice effect,
      effect ∈ [Effect.notice notice] → effect.IsAtHome span :=
    fun notice => idle (isQuiet_notice notice).isIdle
  have asks : ∀ flight effect, effect ∈ (cache.consult turn flight).effects →
      effect.IsAtHome span := by
    intro flight
    obtain ⟨asked, quiet, done⟩ := exists_effects_consult cache turn flight
    rw [done, List.forall_mem_append]
    exact ⟨home, idle quiet.isIdle⟩
  cases act with
  | @cancel flight member fired => exact List.forall_mem_append.mpr ⟨home, returns _ _⟩
  | @reuse flight connection member waiting owns held reusable =>
      exact List.forall_mem_append.mpr
        ⟨List.forall_mem_append.mpr ⟨home, notes _⟩, returns _ _⟩
  | @evict flight connection member waiting owns held stale =>
      obtain ⟨own, slot, dialer⟩ := charted.connections_span _ _ held
      have same : span connection = span flight.ticket := by
        rw [dialer, ← slot, charted.span_slot member]
      rw [effects_evict, List.forall_mem_append, List.forall_mem_append]
      refine ⟨⟨home, notes _⟩, fun effect closes => ?_⟩
      rw [List.mem_singleton.mp closes]
      exact ⟨endpoint flight member, same⟩
  | @refuse flight error member waiting owns empty refused =>
      exact List.forall_mem_append.mpr ⟨asks flight, returns _ _⟩
  | @dial flight config member waiting owns empty prepared =>
      refine List.forall_mem_append.mpr ⟨asks flight, ?_⟩
      rw [List.forall_mem_singleton]
      exact endpoint flight member
  | @fail flight config error member dialing failed =>
      exact List.forall_mem_append.mpr ⟨home, returns _ _⟩
  | @establish flight config state? member dialing connected =>
      rw [effects_establish, List.forall_mem_append, List.forall_mem_append]
      exact ⟨⟨home, notes _⟩, returns _ _⟩

/-- At every moment the effects have to do with the endpoints of their lookups only. -/
theorem Reached.isAtHome
    (reached : Reached cache span now turn) :
    ∀ effect ∈ turn.effects, effect.IsAtHome span := by
  induction reached with
  | fresh surroundings =>
      intro effect member
      exact absurd member List.not_mem_nil
  | elsewhere _ surroundings grown home => exact home
  | decline _ new fired belongs home =>
      refine List.forall_mem_append.mpr ⟨home, fun effect member => ?_⟩
      exact Effect.isAtHome_of_isIdle (isIdle_returned _ _ effect member)
  | board _ new belongs home => exact home
  | act before act home => exact before.isAtHome_act act home
  | drop _ member home => exact home
  | clear _ home =>
      refine List.forall_mem_append.mpr ⟨home, fun effect member => ?_⟩
      exact Effect.isAtHome_of_isIdle ((isQuiet_notice _).isIdle effect member)

/-! ## Dials that succeed -/

/-- A dial is seen to succeed at the event at which its lookup gets its own connection. -/
theorem Reached.establishes_iff
    (reached : Reached cache span now turn)
    (event : Event)
    (belongs : ∀ lookup, event = .start lookup →
      lookup.ticket ∉ turn.surroundings.started →
        span lookup.ticket = some ⟨cache.family.resolve lookup.address, now⟩)
    (ticket : Ticket) :
    cache.Establishes turn event ticket ↔
      .returned ticket (.ok ticket) ∈
        (cache.step turn.surroundings turn.state event).effects := by
  have distinct := reached.queued.distinct
  constructor
  · rintro ⟨moment, flight, config, state?, polls, rfl, unfired, awaits, connected⟩
    let silent : Turn := { moment with effects := [] }
    have awaitsThen : cache.Awaits silent.surroundings silent.state flight config := awaits
    obtain ⟨begun, establishes⟩ := awaitsThen.exists_establish unfired connected
    rw [polls.effects_step distinct, establishes, effects_establish]
    exact List.mem_concat_self
  · intro returned
    rcases grounds_step returned with
      ⟨moment, flight, polls, rfl, ends⟩ | ⟨lookup, -, -, equal⟩ | ⟨notice, equal⟩
    · have unfired : moment.surroundings.hasFired flight.lookup.token? = false := by
        rw [← Bool.not_eq_true]
        intro fired
        rw [polls.effects_step distinct, advance, fired, if_pos rfl] at returned
        rcases mem_effects_finish.mp returned with impossible | equal
        · exact absurd impossible List.not_mem_nil
        · cases equal
      rcases ends with ⟨-, config, state?, awaits, connected⟩ | ⟨-, held, -⟩
      · exact ⟨moment, flight, config, state?, polls, rfl, unfired, awaits, connected⟩
      · -- A lookup under way is not the one that has dialed what is in a slot.
        have flies : flight.ticket ∈ moment.state.inFlight :=
          List.mem_map_of_mem polls.mem_flights
        have ended := (polls.reached reached belongs).queued.connections_over _ _ held
        exact absurd flies ended.2
    · cases equal
    · cases equal

theorem hasEstablished_iff
    {connection : Ticket} :
    cache.HasEstablished surroundings events connection ↔
      .returned connection (.ok connection) ∈ (cache.after surroundings events).effects := by
  have establishes_iff : ∀ past event future, events = past ++ event :: future →
      (cache.Establishes (cache.after surroundings past) event connection ↔
        .returned connection (.ok connection) ∈
          (cache.step (cache.after surroundings past).surroundings
            (cache.after surroundings past).state event).effects) := by
    rintro past event future rfl
    exact (cache.reached_after surroundings past (event :: future)).establishes_iff event
      (cache.span?_of_start surroundings past future event) connection
  constructor
  · rintro ⟨past, event, future, split, establishes⟩
    have returned := (establishes_iff past event future split).mp establishes
    rw [split, after_cons]
    apply effects_subset_run
    rw [effects_next]
    exact List.mem_append_right _ returned
  · intro returned
    obtain ⟨past, event, future, split, done⟩ := exists_step_of_mem_effects returned
    exact ⟨past, event, future, split, (establishes_iff past event future split).mpr done⟩

/-- A connection that has been handed out was dialed to the endpoint of its span. -/
theorem Reached.exists_dialed
    {receiver connection : Ticket}
    (reached : Reached cache span now turn)
    (returned : .returned receiver (.ok connection) ∈ turn.effects) :
    ∃ home config, span connection = some home ∧
      .dialed connection home.endpoint config ∈ turn.effects := by
  obtain ⟨before, after, whole⟩ := List.append_of_mem returned
  obtain ⟨-, earlier, endpoint, config, later, split, -⟩ := reached.orderly _ _ _ whole
  have dialed : .dialed connection endpoint config ∈ turn.effects := by
    rw [whole, split]
    exact List.mem_append_left _ (List.mem_append_right _ List.mem_cons_self)
  obtain ⟨home, belongs, rfl⟩ := Option.map_eq_some_iff.mp (reached.isAtHome _ dialed)
  exact ⟨home, config, belongs, dialed⟩

/-- A lookup that gets a connection has been started by the history, and the connection was
dialed to its endpoint. -/
theorem exists_dialed_of_returned
    (cache : Cache)
    (surroundings : Surroundings)
    (events : List Event)
    {ticket connection : Ticket}
    (returned : .returned ticket (.ok connection) ∈
      (cache.after surroundings events).effects) :
    ∃ lookup, lookup? events ticket = some lookup ∧
      cache.span? events connection =
        some ⟨cache.family.resolve lookup.address, epoch events ticket⟩ ∧
      ∃ config, .dialed connection (cache.family.resolve lookup.address) config ∈
        (cache.after surroundings events).effects := by
  have reached := cache.reached_end surroundings events
  obtain ⟨span, config, belongs, dialed⟩ := reached.exists_dialed returned
  have home := reached.endings.home ticket connection returned
  rw [belongs] at home
  obtain ⟨lookup, found, rfl⟩ := span?_eq_some home.symm
  exact ⟨lookup, found, belongs, config, dialed⟩

/-- Every connection that has been established is in one place. -/
theorem sits_of_returned
    (cache : Cache)
    (surroundings : Surroundings)
    (events : List Event)
    {connection : Ticket}
    {lookup : Lookup}
    (returned : .returned connection (.ok connection) ∈
      (cache.after surroundings events).effects)
    (found : lookup? events connection = some lookup) :
    Sits events (cache.after surroundings events)
      (cache.family.resolve lookup.address) connection := by
  have reached := cache.reached_end surroundings events
  have charted := reached.charted
  have former := precedesClear_iff (Option.isSome_of_eq_some found)
  have home : cache.span? events connection =
      some ⟨cache.family.resolve lookup.address, epoch events connection⟩ := by
    rw [span?, found]
    rfl
  -- Whatever is cached belongs to the present epoch.
  have present : ∀ endpoint,
      (cache.after surroundings events).state.cached? endpoint = some connection →
        endpoint = cache.family.resolve lookup.address ∧
          epoch events connection = clears events ∧
          ¬WasClosed (cache.after surroundings events).effects connection := by
    intro endpoint cached
    obtain ⟨number, placed, held⟩ := Option.bind_eq_some_iff.mp cached
    obtain ⟨own, slot, dialer⟩ := charted.connections_span number connection held
    have same := charted.places_span endpoint number placed
    rw [slot, ← dialer, home, Option.some.injEq, LookupSpan.mk.injEq] at same
    exact ⟨same.1.symm, same.2,
      fun closed => (reached.deeds.closed connection closed).2.2 number held⟩
  rcases reached.keeping.kept connection connection returned with closed | ⟨number, held, slot⟩
  · exact .closed closed (reached.deeds.closed connection closed).2.2
  · have unclosed : ¬WasClosed (cache.after surroundings events).effects connection :=
      fun closed => (reached.deeds.closed connection closed).2.2 number held
    rcases (epoch_le_clears events connection).lt_or_eq with earlier | now
    · refine .left (former.mpr earlier) unclosed ?_
      intro endpoint cached
      exact earlier.ne (present endpoint cached).2.1
    · have placed := charted.placed _ number (Or.inl ⟨connection, held⟩)
        (slot.trans (now ▸ home))
      refine .cached ?_ (fun other cached => (present other cached).1) unclosed ?_
      · rw [CacheState.cached?, placed, Option.bind_some, held]
      · rw [former, now]
        exact lt_irrefl _

/-- After every history no connection is lost or misdirected. -/
theorem conserved_after
    (cache : Cache)
    (surroundings : Surroundings)
    (events : List Event) :
    cache.Conserved surroundings events (cache.after surroundings events) := by
  have reached := cache.reached_end surroundings events
  have sits : ∀ connection, cache.HasEstablished surroundings events connection →
      ∃ endpoint config,
        .dialed connection endpoint config ∈ (cache.after surroundings events).effects ∧
        (∀ other otherConfig,
          .dialed connection other otherConfig ∈ (cache.after surroundings events).effects →
            other = endpoint) ∧
        Sits events (cache.after surroundings events) endpoint connection := by
    intro connection established
    have returned := hasEstablished_iff.mp established
    obtain ⟨lookup, found, home, config, dialed⟩ :=
      cache.exists_dialed_of_returned surroundings events returned
    refine ⟨_, config, dialed, ?_, cache.sits_of_returned surroundings events returned found⟩
    intro other otherConfig otherDialed
    have atHome := reached.isAtHome _ otherDialed
    rw [Effect.IsAtHome, home] at atHome
    exact (Option.some.inj atHome).symm
  -- Without a clear nothing has been dialed before a clear.
  have cached : .clear ∉ events → ∀ connection,
      cache.HasEstablished surroundings events connection →
        ¬WasClosed (cache.after surroundings events).effects connection →
          ∃ endpoint, (cache.after surroundings events).state.cached? endpoint =
              some connection ∧
            ∀ other config, .dialed connection other config ∈
              (cache.after surroundings events).effects → other = endpoint := by
    intro unbroken connection established unclosed
    obtain ⟨endpoint, -, -, only, place⟩ := sits connection established
    cases place with
    | cached here nowhereElse unclosed present => exact ⟨endpoint, here, only⟩
    | closed closed nowhere => exact absurd closed unclosed
    | left former unclosed displaced =>
        obtain ⟨past, future, rfl, -⟩ := former
        exact absurd (List.mem_append_right past List.mem_cons_self) unbroken
  have received : ∀ endpoint connection,
      (cache.after surroundings events).state.cached? endpoint = some connection →
        .returned connection (.ok connection) ∈ (cache.after surroundings events).effects ∧
          ¬WasClosed (cache.after surroundings events).effects connection := by
    intro endpoint connection cached
    obtain ⟨number, -, held⟩ := Option.bind_eq_some_iff.mp cached
    exact ⟨reached.keeping.held number connection held,
      fun closed => (reached.deeds.closed connection closed).2.2 number held⟩
  constructor
  case delivered =>
    rintro past event future connection rfl establishes
    have before := cache.reached_after surroundings past (event :: future)
    have belongs := cache.span?_of_start surroundings past future event
    have returned := (before.establishes_iff event belongs connection).mp establishes
    obtain ⟨moment, flight, config, state?, polls, rfl, unfired, awaits, connected⟩ :=
      establishes
    obtain ⟨begun, establishes⟩ := awaits.exists_establish unfired connected
    refine ⟨returned, flight.slot, ?_⟩
    rw [after_concat, polls.next_eq before.queued.distinct, establishes,
      connection?_establish]
  case sits => exact sits
  case unbroken =>
    intro unbroken connection
    constructor
    · rintro ⟨established, unclosed⟩
      obtain ⟨endpoint, here, -⟩ := cached unbroken connection established unclosed
      exact ⟨endpoint, here⟩
    · rintro ⟨endpoint, here⟩
      exact (received endpoint connection here).imp_left hasEstablished_iff.mpr
  case single =>
    intro unbroken left right endpoint leftConfig rightConfig leftEstablished leftUnclosed
      leftDialed rightEstablished rightUnclosed rightDialed
    obtain ⟨leftPlace, leftHere, leftOnly⟩ :=
      cached unbroken left leftEstablished leftUnclosed
    obtain ⟨rightPlace, rightHere, rightOnly⟩ :=
      cached unbroken right rightEstablished rightUnclosed
    rw [← leftOnly endpoint leftConfig leftDialed] at leftHere
    rw [← rightOnly endpoint rightConfig rightDialed, leftHere] at rightHere
    exact Option.some.inj rightHere
  case received =>
    intro endpoint connection here
    have returned := (received endpoint connection here).1
    exact ⟨hasEstablished_iff.mpr returned, connection, returned⟩
  case directed =>
    intro ticket connection returned
    obtain ⟨lookup, found, home, dialed⟩ :=
      cache.exists_dialed_of_returned surroundings events returned
    refine ⟨lookup, found, dialed, ?_⟩
    intro endpoint config otherDialed
    have atHome := reached.isAtHome _ otherDialed
    rw [Effect.IsAtHome, home] at atHome
    exact (Option.some.inj atHome).symm

end Cache
end Switchboard
