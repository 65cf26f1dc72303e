import Switchboard.Proofs.Cache.Isolation
import Switchboard.Proofs.Client.Families

/-!
# Endpoints of a client apart

The lookups of an endpoint in one cache of a client have nothing to do with any others, be
they lookups of other endpoints or lookups in the other cache, where an endpoint of the same
text is another endpoint.
-/

namespace Switchboard

/-- The lookup that an event starts, polls or drops. -/
def ClientEvent.ticket? : ClientEvent → Option Ticket
  | .start _ ticket _ _ | .poll ticket | .drop ticket => some ticket
  | .clearOne _ | .clear | .change _ => none

/-- What is left of an event when only some lookups of an endpoint are left. -/
def ClientEvent.only?
    (keep : Ticket → Bool)
    (endpoint : String) : ClientEvent → Option ClientEvent
  | .start family ticket address token? =>
      if keep ticket then some (.start family ticket address token?) else none
  | .poll ticket => if keep ticket then some (.poll ticket) else none
  | .drop ticket => if keep ticket then some (.drop ticket) else none
  | .clearOne family => some (.clearOne family)
  | .clear => some .clear
  | .change circumstance => (circumstance.only? keep endpoint).map .change

namespace Client

open Cache History

/-- Whether the lookup that a history starts under a number looks up an endpoint in the cache
of a family. -/
def isFor
    (client : Client)
    (events : List ClientEvent)
    (family : Family)
    (endpoint : String)
    (ticket : Ticket) : Bool :=
  familyOf? events ticket = some family &&
    (client.cacheOf family).isFor (client.historyOf family events) endpoint ticket

/-- The turn to which a first part of a history brings a new client when only the lookups of an
endpoint in one cache are left of the history. -/
def aloneAfter
    (client : Client)
    (surroundings : Surroundings)
    (events past : List ClientEvent)
    (family : Family)
    (endpoint : String) : ClientTurn :=
  client.after (surroundings.confine endpoint)
    (past.filterMap (·.only? (client.isFor events family endpoint) endpoint))

/-- What the cache of a family does at an event. -/
def doneIn
    (client : Client)
    (turn : ClientTurn)
    (event : ClientEvent)
    (family : Family) : List Effect :=
  effectsIn (client.next ⟨turn.surroundings, turn.state, []⟩ event).effects family

/-- The lookups of an endpoint in one cache of a client have nothing to do with others. -/
structure Isolated
    (client : Client)
    (surroundings : Surroundings)
    (events : List ClientEvent)
    (family : Family)
    (endpoint : String) : Prop where
  /-- At each of their polls, and whatever else happens to them, the lookups do what they do
  when only they are left. -/
  polls : ∀ past event future ticket, events = past ++ event :: future →
    event.ticket? = some ticket → client.isFor events family endpoint ticket = true →
      (client.doneIn (client.aloneAfter surroundings events past family endpoint) event
          family).filter (·.isOf (client.isFor events family endpoint)) =
        (client.doneIn (client.after surroundings past) event family).filter
          (·.isOf (client.isFor events family endpoint))
  /-- At every moment all is alike for them. -/
  alike : ∀ past future, events = past ++ future →
    (client.cacheOf family).Alike (client.isFor events family endpoint) endpoint
      ((client.after surroundings past).view family)
      ((client.aloneAfter surroundings events past family endpoint).view family)
  /-- A lookup waits only for lookups of its own endpoint in its own cache. -/
  waits : ∀ past future, events = past ++ future →
    ∀ state, state = (client.after surroundings past).state.of family →
      ∀ flight ∈ state.flights, ∃ owner ∈ state.flights,
        (state.slotAt flight.slot).lock.owner? = some owner.ticket ∧
          (client.cacheOf family).family.resolve owner.lookup.address =
            (client.cacheOf family).family.resolve flight.lookup.address

/-! ## Steps of one cache -/

/-- A turn of a client, and one in which only the lookups of an endpoint in one cache are
left. -/
structure Mirrored
    (client : Client)
    (span : Family → Ticket → Option LookupSpan)
    (family : Family)
    (endpoint : String)
    (now : Family → Nat)
    (turn alone : ClientTurn) : Prop where
  reached : ∀ other,
    Reached (client.cacheOf other) (span other) (now other) (turn.view other)
  reachedAlone : ∀ other,
    Reached (client.cacheOf other) (span other) (now other) (alone.view other)
  mirrored : Cache.Mirrored (client.cacheOf family) (span family) endpoint (now family)
    (turn.view family) (alone.view family)

variable {client : Client} {span : Family → Ticket → Option LookupSpan}
  {family stepping : Family} {endpoint : String} {now : Family → Nat}
  {turn alone : ClientTurn} {event : Event} {ticket : Ticket}

/-- A step of one cache reaches another moment of both. -/
theorem reached_stepOne
    (reached : ∀ other,
      Reached (client.cacheOf other) (span other) (now other) (turn.view other))
    (belongs : ∀ lookup, event = .start lookup →
      lookup.ticket ∉ turn.surroundings.started →
        span stepping lookup.ticket =
          some ⟨(client.cacheOf stepping).family.resolve lookup.address, now stepping⟩)
    (other : Family) :
    Reached (client.cacheOf other) (span other)
      (now other + if stepping = other then clears [event] else 0)
      ((client.stepOne stepping turn event).view other) := by
  by_cases same : stepping = other
  · subst same
    rw [view_stepOne, if_pos rfl]
    exact (reached stepping).next event belongs
  · rw [view_stepOne_of_ne client same, if_neg same]
    exact .elsewhere (reached other) _ (started_subset_stepOne client _ _ _)

/-- A step that names a lookup reaches another moment in the same epochs. -/
theorem reached_stepOne_of_named
    (reached : ∀ other,
      Reached (client.cacheOf other) (span other) (now other) (turn.view other))
    (belongs : ∀ lookup, event = .start lookup →
      lookup.ticket ∉ turn.surroundings.started →
        span stepping lookup.ticket =
          some ⟨(client.cacheOf stepping).family.resolve lookup.address, now stepping⟩)
    (named : event.ticket? = some ticket)
    (other : Family) :
    Reached (client.cacheOf other) (span other) (now other)
      ((client.stepOne stepping turn event).view other) := by
  have next := reached_stepOne reached belongs other
  rwa [clears_eq_zero_of_named named, ite_self, Nat.add_zero] at next

/-- A cache does nothing at an event that names a lookup of the other one. -/
theorem view_stepOne_of_foreign
    (reached : Reached (client.cacheOf stepping) (span stepping) (now stepping)
      (turn.view stepping))
    (belongs : ∀ lookup, event = .start lookup →
      lookup.ticket ∉ turn.surroundings.started →
        span stepping lookup.ticket =
          some ⟨(client.cacheOf stepping).family.resolve lookup.address, now stepping⟩)
    (named : event.ticket? = some ticket)
    (foreign : span stepping ticket = none)
    (different : stepping ≠ family) :
    (client.stepOne stepping turn event).view family = turn.view family := by
  have missing : (turn.view stepping).state.flight? ticket = none := by
    rw [CacheState.flight?, List.find?_eq_none]
    intro flight member same
    obtain ⟨epoch, home, -⟩ := reached.charted.flights_span flight member
    rw [of_decide_eq_true same, foreign] at home
    cases home
  have idle : (client.cacheOf stepping).next (turn.view stepping) event =
      turn.view stepping := by
    rcases Event.ticket?_eq_some.mp named with rfl | rfl | ⟨lookup, rfl, rfl⟩
    · exact next_poll_of_none missing
    · exact next_drop_of_none missing
    · apply next_start_of_mem
      by_contra new
      have home := belongs lookup rfl new
      rw [foreign] at home
      cases home
  have surroundings : (client.stepOne stepping turn event).surroundings =
      turn.surroundings := by
    have same := congrArg Turn.surroundings idle
    rwa [← view_stepOne] at same
  rw [view_stepOne_of_ne client different, surroundings]
  rfl

namespace Mirrored

variable
  (apart : ∀ other, other ≠ family → ∀ ticket home, span other ticket = some home →
    belongsTo (span family) endpoint ticket = false)
include apart

/-- A cache steps at an event that names one of the lookups of the endpoint. -/
theorem stepOne_of_kept
    (mirrored : client.Mirrored span family endpoint now turn alone)
    (belongs : ∀ lookup, event = .start lookup →
      lookup.ticket ∉ turn.surroundings.started →
        span stepping lookup.ticket =
          some ⟨(client.cacheOf stepping).family.resolve lookup.address, now stepping⟩)
    (named : event.ticket? = some ticket)
    (kept : belongsTo (span family) endpoint ticket = true) :
    client.Mirrored span family endpoint now (client.stepOne stepping turn event)
      (client.stepOne stepping alone event) := by
  have belongsAlone : ∀ lookup, event = .start lookup →
      lookup.ticket ∉ alone.surroundings.started →
        span stepping lookup.ticket =
          some ⟨(client.cacheOf stepping).family.resolve lookup.address, now stepping⟩ := by
    rintro lookup rfl new
    obtain rfl := Option.some.inj named
    exact belongs lookup rfl (mt (mirrored.mirrored.started _ kept).mpr new)
  refine ⟨reached_stepOne_of_named mirrored.reached belongs named,
    reached_stepOne_of_named mirrored.reachedAlone belongsAlone named, ?_⟩
  by_cases same : stepping = family
  · subst same
    rw [view_stepOne, view_stepOne]
    exact mirrored.mirrored.next_of_kept belongs named kept
  · have foreign : span stepping ticket = none := by
      rw [Option.eq_none_iff_forall_ne_some]
      intro home found
      rw [apart stepping same ticket home found] at kept
      cases kept
    rw [view_stepOne_of_foreign (mirrored.reached stepping) belongs named foreign same,
      view_stepOne_of_foreign (mirrored.reachedAlone stepping) belongsAlone named foreign same]
    exact mirrored.mirrored

/-- A cache steps at an event that names another lookup. -/
theorem stepOne_beside
    (mirrored : client.Mirrored span family endpoint now turn alone)
    (belongs : ∀ lookup, event = .start lookup →
      lookup.ticket ∉ turn.surroundings.started →
        span stepping lookup.ticket =
          some ⟨(client.cacheOf stepping).family.resolve lookup.address, now stepping⟩)
    (named : event.ticket? = some ticket)
    (unkept : belongsTo (span family) endpoint ticket = false) :
    client.Mirrored span family endpoint now (client.stepOne stepping turn event) alone := by
  refine ⟨reached_stepOne_of_named mirrored.reached belongs named, mirrored.reachedAlone, ?_⟩
  by_cases same : stepping = family
  · subst same
    rw [view_stepOne]
    exact mirrored.mirrored.next_beside belongs named unkept
  · have whole : HasWholeSpans (belongsTo (span family) endpoint) (span stepping) := by
      intro left right home leftBelongs rightBelongs
      rw [apart stepping same left home leftBelongs, apart stepping same right home rightBelongs]
    have beside := (mirrored.reached stepping).agreement_next whole belongs unkept
      (Event.ticket?_eq_some.mp named)
    have started := @mem_started_next (client.cacheOf stepping) (turn.view stepping) event
    rw [← view_stepOne] at beside started
    rw [view_stepOne_of_ne client same]
    apply mirrored.mirrored.elsewhere (started_subset_stepOne client _ _ _)
    · intro other kept known
      rcases started.mp known with before | ⟨lookup, rfl, rfl⟩
      · exact before
      · obtain rfl := Option.some.inj named
        rw [unkept] at kept
        cases kept
    · exact ⟨beside.environment, beside.fired, beside.answer, beside.states, fun _ _ => rfl,
        rfl, rfl⟩

omit apart in
/-- One of the caches is cleared. -/
theorem stepOne_clear
    (mirrored : client.Mirrored span family endpoint now turn alone)
    (stepping : Family) :
    client.Mirrored span family endpoint
      (fun other => now other + if stepping = other then 1 else 0)
      (client.stepOne stepping turn .clear) (client.stepOne stepping alone .clear) := by
  have reachedClear : ∀ turn : ClientTurn,
      (∀ other, Reached (client.cacheOf other) (span other) (now other) (turn.view other)) →
        ∀ other, Reached (client.cacheOf other) (span other)
          (now other + if stepping = other then clears [Event.clear] else 0)
          ((client.stepOne stepping turn .clear).view other) := by
    intro turn reached
    exact reached_stepOne reached (fun lookup impossible => by cases impossible)
  refine ⟨reachedClear turn mirrored.reached, reachedClear alone mirrored.reachedAlone, ?_⟩
  by_cases same : stepping = family
  · subst same
    rw [view_stepOne, view_stepOne, if_pos rfl]
    exact mirrored.mirrored.next_clear
  · rw [view_stepOne_of_ne client same, view_stepOne_of_ne client same, if_neg same]
    exact mirrored.mirrored

omit apart in
/-- The surroundings change, and what is left of the change happens in the other turn. -/
theorem next_change
    (mirrored : client.Mirrored span family endpoint now turn alone)
    (change : Change) :
    client.Mirrored span family endpoint now (client.next turn (.change change))
      (client.run alone
        ((ClientEvent.change change).only? (belongsTo (span family) endpoint)
          endpoint).toList) := by
  have view : ∀ (turn : ClientTurn) (change : Change) (other : Family),
      (client.next turn (.change change)).view other =
        (client.cacheOf other).next (turn.view other) (.change change) := by
    intro turn change other
    rw [Cache.next_change]
    rfl
  have reached : ∀ (turn : ClientTurn) (change : Change),
      (∀ other, Reached (client.cacheOf other) (span other) (now other) (turn.view other)) →
        ∀ other, Reached (client.cacheOf other) (span other) (now other)
          ((client.next turn (.change change)).view other) := by
    intro turn change reached other
    rw [view]
    exact (reached other).next (.change change) (fun lookup impossible => by cases impossible)
  have next := mirrored.mirrored.next_change change
  rw [← view] at next
  cases left : change.only? (belongsTo (span family) endpoint) endpoint with
  | none =>
      rw [Event.only?, left, Option.map_none, Option.toList_none] at next
      rw [ClientEvent.only?, left, Option.map_none, Option.toList_none]
      exact ⟨reached turn change mirrored.reached, mirrored.reachedAlone, next⟩
  | some remainder =>
      rw [Event.only?, left, Option.map_some, Option.toList_some, Cache.run, List.foldl_cons,
        List.foldl_nil, ← view] at next
      rw [ClientEvent.only?, left, Option.map_some, Option.toList_some]
      exact ⟨reached turn change mirrored.reached,
        reached alone remainder mirrored.reachedAlone, next⟩

include apart in
/-- An event happens, and what is left of it happens in the other turn. -/
theorem next
    (mirrored : client.Mirrored span family endpoint now turn alone)
    (event : ClientEvent)
    (belongs : ∀ other lookup, client.at? other event = some (.start lookup) →
      lookup.ticket ∉ turn.surroundings.started →
        span other lookup.ticket =
          some ⟨(client.cacheOf other).family.resolve lookup.address, now other⟩) :
    client.Mirrored span family endpoint
      (fun other => now other + clears (client.historyOf other [event]))
      (client.next turn event)
      (client.run alone
        (event.only? (belongsTo (span family) endpoint) endpoint).toList) := by
  -- What a poll or drop does in one cache, it does in both.
  have both : ∀ (step : Event) (ticket : Ticket), step = .poll ticket ∨ step = .drop ticket →
      (belongsTo (span family) endpoint ticket = true →
        client.Mirrored span family endpoint now (client.stepBoth turn step)
          (client.stepBoth alone step)) ∧
      (belongsTo (span family) endpoint ticket = false →
        client.Mirrored span family endpoint now (client.stepBoth turn step) alone) := by
    intro step ticket polls
    have named : step.ticket? = some ticket := by
      rcases polls with rfl | rfl <;> rfl
    have unstarting : ∀ lookup, step ≠ .start lookup := by
      rintro lookup rfl
      rcases polls with impossible | impossible <;> cases impossible
    constructor
    · intro kept
      exact (mirrored.stepOne_of_kept apart
        (fun lookup starts => absurd starts (unstarting lookup)) named kept).stepOne_of_kept
        apart (fun lookup starts => absurd starts (unstarting lookup)) named kept
    · intro unkept
      exact (mirrored.stepOne_beside apart
        (fun lookup starts => absurd starts (unstarting lookup)) named unkept).stepOne_beside
        apart (fun lookup starts => absurd starts (unstarting lookup)) named unkept
  cases event with
  | start stepping ticket address token? =>
      have unclear : ∀ other, clears (client.historyOf other
          [.start stepping ticket address token?]) = 0 := by
        intro other
        by_cases same : stepping = other
        · simp [historyOf, at?, same, clears, Event.isClear]
        · simp [historyOf, at?, same]
      have starts : ∀ lookup,
          Event.start ⟨ticket, address, client.authorizer ticket, token?⟩ = .start lookup →
            client.at? stepping (.start stepping ticket address token?) =
              some (.start lookup) := by
        rintro lookup ⟨⟩
        exact if_pos rfl
      simp only [unclear, Nat.add_zero, ClientEvent.only?]
      cases kept : belongsTo (span family) endpoint ticket with
      | true =>
          exact mirrored.stepOne_of_kept apart
            (fun lookup same => belongs stepping lookup (starts lookup same)) rfl kept
      | false =>
          exact mirrored.stepOne_beside apart
            (fun lookup same => belongs stepping lookup (starts lookup same)) rfl kept
  | poll ticket =>
      change client.Mirrored span family endpoint now _ _
      rw [ClientEvent.only?]
      cases kept : belongsTo (span family) endpoint ticket with
      | true => exact (both (.poll ticket) ticket (Or.inl rfl)).1 kept
      | false => exact (both (.poll ticket) ticket (Or.inl rfl)).2 kept
  | drop ticket =>
      change client.Mirrored span family endpoint now _ _
      rw [ClientEvent.only?]
      cases kept : belongsTo (span family) endpoint ticket with
      | true => exact (both (.drop ticket) ticket (Or.inr rfl)).1 kept
      | false => exact (both (.drop ticket) ticket (Or.inr rfl)).2 kept
  | clearOne stepping =>
      have cleared : ∀ other, clears (client.historyOf other [.clearOne stepping]) =
          if stepping = other then 1 else 0 := by
        intro other
        by_cases same : stepping = other
        · simp [historyOf, at?, same, clears, Event.isClear]
        · simp [historyOf, at?, same]
      simp only [cleared]
      exact mirrored.stepOne_clear stepping
  | clear =>
      have cleared : ∀ other, now other + clears (client.historyOf other [.clear]) =
          now other + (if Family.agent = other then 1 else 0) +
            if Family.authentication = other then 1 else 0 := by
        intro other
        cases other <;> rfl
      simp only [cleared]
      exact (mirrored.stepOne_clear .agent).stepOne_clear .authentication
  | change change => exact mirrored.next_change change

end Mirrored

/-! ## Histories -/

/-- The span of a lookup of one cache; a lookup that is started first in the other cache has
none. -/
def spanIn
    (client : Client)
    (events : List ClientEvent)
    (family : Family)
    (ticket : Ticket) : Option LookupSpan :=
  if familyOf? events ticket = some family then
    (client.cacheOf family).span? (client.historyOf family events) ticket
  else none

theorem belongsTo_spanIn
    (client : Client)
    (events : List ClientEvent)
    (family : Family)
    (endpoint : String) :
    belongsTo (client.spanIn events family) endpoint =
      client.isFor events family endpoint := by
  funext ticket
  rw [isFor, ← belongsTo_span?, belongsTo, spanIn, belongsTo]
  split
  · next home => simp [home]
  · next foreign => simp [foreign]

/-- The lookups of the other cache do not belong to an endpoint of the one. -/
theorem belongsTo_spanIn_of_foreign
    {events : List ClientEvent}
    {family other : Family}
    (different : other ≠ family)
    {ticket : Ticket}
    {home : LookupSpan}
    (found : client.spanIn events other ticket = some home) :
    belongsTo (client.spanIn events family) endpoint ticket = false := by
  rw [spanIn, Option.ite_none_right_eq_some] at found
  rw [belongsTo, spanIn, found.1, if_neg (by simpa using different)]
  rfl

/-- A lookup that a client starts next has its span in the cache in which it is started. -/
theorem spanIn_of_at?
    (client : Client)
    (surroundings : Surroundings)
    (past future : List ClientEvent)
    {event : ClientEvent}
    {lookup : Lookup}
    (found : client.at? family event = some (.start lookup))
    (new : lookup.ticket ∉ (client.after surroundings past).surroundings.started) :
    client.spanIn (past ++ event :: future) family lookup.ticket =
      some ⟨(client.cacheOf family).family.resolve lookup.address,
        clears (client.historyOf family past)⟩ := by
  have home := familyOf?_append_of_some (familyOf?_of_at? found new) future
  rw [List.append_assoc, List.singleton_append] at home
  rw [spanIn, if_pos home]
  exact client.span?_of_at? surroundings past future found lookup rfl new

/-- A first part of a history, and what is left of it for an endpoint in one cache, lead to
turns that are in step. -/
theorem mirrored_after
    (client : Client)
    (surroundings : Surroundings)
    (past future : List ClientEvent)
    (family : Family)
    (endpoint : String) :
    client.Mirrored (client.spanIn (past ++ future)) family endpoint
      (fun other => clears (client.historyOf other past))
      (client.after surroundings past)
      (client.aloneAfter surroundings (past ++ future) past family endpoint) := by
  induction past using List.reverseRecOn generalizing future with
  | nil =>
      refine ⟨?_, ?_, ?_⟩
      · intro other
        cases other <;> exact .fresh surroundings
      · intro other
        cases other <;> exact .fresh _
      · cases family <;> exact ⟨.fresh surroundings, .fresh _, .refl _ _, fun _ _ => Iff.rfl⟩
  | append_singleton past event inductionHypothesis =>
      have apart : ∀ other, other ≠ family → ∀ ticket home,
          client.spanIn (past ++ event :: future) other ticket = some home →
            belongsTo (client.spanIn (past ++ event :: future) family) endpoint ticket =
              false :=
        fun other different ticket home => belongsTo_spanIn_of_foreign different
      have before := (inductionHypothesis (event :: future)).next apart event
        (fun other lookup => client.spanIn_of_at? surroundings past future)
      have run : ∀ events more : List ClientEvent,
          client.run (client.after (surroundings.confine endpoint) events) more =
            client.after (surroundings.confine endpoint) (events ++ more) :=
        fun events more => List.foldl_append.symm
      simp only [← clears_append, ← historyOf_append] at before
      rw [belongsTo_spanIn, aloneAfter, run] at before
      rw [after_concat, aloneAfter, List.append_assoc, List.singleton_append,
        List.filterMap_append]
      cases left : event.only? (client.isFor (past ++ event :: future) family endpoint)
          endpoint with
      | none =>
          rw [left] at before
          rw [List.filterMap_cons_none left]
          exact before
      | some remainder =>
          rw [left] at before
          rw [List.filterMap_cons_some left]
          exact before

/-- In every history of a client the lookups of an endpoint in one cache have nothing to do
with others. -/
theorem isolated_after
    (client : Client)
    (surroundings : Surroundings)
    (events : List ClientEvent)
    (family : Family)
    (endpoint : String) :
    client.Isolated surroundings events family endpoint := by
  have alike : ∀ past future, events = past ++ future →
      (client.cacheOf family).Alike (client.isFor events family endpoint) endpoint
        ((client.after surroundings past).view family)
        ((client.aloneAfter surroundings events past family endpoint).view family) := by
    rintro past future rfl
    have all := (client.mirrored_after surroundings past future family endpoint).mirrored.alike
    rwa [belongsTo_spanIn] at all
  refine ⟨?_, alike, ?_⟩
  · intro past event future ticket split named kept
    have before := (alike past (event :: future) split).effects
    have after := (alike (past ++ [event]) future
      (by rw [split, List.append_assoc, List.singleton_append])).effects
    have done : ∀ turn : ClientTurn, ((client.next turn event).view family).effects =
        (turn.view family).effects ++ client.doneIn turn event family := by
      intro turn
      change effectsIn (client.next turn event).effects family = _
      rw [effects_next, effectsIn, List.filterMap_append]
      rfl
    have isLeft : event.only? (client.isFor events family endpoint) endpoint =
        some event := by
      cases event with
      | start other number address token? =>
          obtain rfl := Option.some.inj named
          exact if_pos kept
      | poll number =>
          obtain rfl := Option.some.inj named
          exact if_pos kept
      | drop number =>
          obtain rfl := Option.some.inj named
          exact if_pos kept
      | clearOne other => cases named
      | clear => cases named
      | change change => cases named
    rw [aloneAfter, List.filterMap_append, List.filterMap_cons_some isLeft,
      List.filterMap_nil, after_concat, after_concat, done, done, List.filter_append,
      List.filter_append, ← aloneAfter, before] at after
    exact List.append_cancel_left after
  · rintro past future rfl state rfl flight member
    exact (client.reached_view surroundings past future family).exists_owner member

end Client

/-- Lookups of an endpoint have nothing to do with lookups of other endpoints, and in a client
nothing to do with the lookups in the other cache. -/
theorem endpoints_isolated :
    (∀ (cache : Cache) (surroundings : Surroundings) (events : List Event)
      (endpoint : String), cache.Isolated surroundings events endpoint) ∧
    ∀ (client : Client) (surroundings : Surroundings) (events : List ClientEvent)
      (family : Family) (endpoint : String),
        client.Isolated surroundings events family endpoint :=
  ⟨Cache.isolated_after, Client.isolated_after⟩

end Switchboard
