import Switchboard.Proofs.Cache.Agreement
import Switchboard.Proofs.Cache.Confinement
import Switchboard.Proofs.Cache.Grounds

/-!
# Deleting lookups

Some lookups of an endpoint are left in a history and all others are deleted, with what their
connections report and how their dials stand.  A lookup that is left finds the same slot, and
starts in the same way.
-/

namespace Switchboard

/-- The lookup that an event starts, polls or drops. -/
def Event.ticket? : Event → Option Ticket
  | .start lookup => some lookup.ticket
  | .poll ticket | .drop ticket => some ticket
  | .clear | .change _ => none

/-- What is left of a change when only some lookups of an endpoint are left: other connections
report nothing, and dials to other endpoints stay open. -/
def Change.only?
    (keep : Ticket → Bool)
    (endpoint : String) : Change → Option Change
  | .fire token => some (.fire token)
  | .report connection state =>
      if keep connection then some (.report connection state) else none
  | .answers answer => some (.answers (confined answer endpoint))
  | .environment settings => some (.environment settings)

/-- What is left of an event when only some lookups of an endpoint are left. -/
def Event.only?
    (keep : Ticket → Bool)
    (endpoint : String) : Event → Option Event
  | .start lookup => if keep lookup.ticket then some (.start lookup) else none
  | .poll ticket => if keep ticket then some (.poll ticket) else none
  | .drop ticket => if keep ticket then some (.drop ticket) else none
  | .clear => some .clear
  | .change circumstance => (circumstance.only? keep endpoint).map .change

theorem Event.ticket?_eq_some
    {event : Event}
    {ticket : Ticket} :
    event.ticket? = some ticket ↔
      event = .poll ticket ∨ event = .drop ticket ∨
        ∃ lookup, event = .start lookup ∧ lookup.ticket = ticket := by
  cases event <;> simp [ticket?]

/-- An event that names a lookup is left if the lookup is left. -/
theorem Event.only?_of_named
    {event : Event}
    {ticket : Ticket}
    (named : event.ticket? = some ticket)
    (keep : Ticket → Bool)
    (endpoint : String) :
    event.only? keep endpoint = if keep ticket then some event else none := by
  rcases ticket?_eq_some.mp named with rfl | rfl | ⟨lookup, rfl, rfl⟩ <;> rfl

namespace History

theorem clears_eq_zero_of_named
    {event : Event}
    {ticket : Ticket}
    (named : event.ticket? = some ticket) :
    clears [event] = 0 := by
  apply clears_eq_zero
  intro member
  rw [← List.mem_singleton.mp member] at named
  cases named

/-- The history in which only some lookups of an endpoint are left. -/
def only
    (keep : Ticket → Bool)
    (endpoint : String)
    (events : List Event) : List Event :=
  events.filterMap (·.only? keep endpoint)

end History

namespace Cache

open History

/-- Whether the lookup that a history starts under a number looks up an endpoint. -/
def isFor
    (cache : Cache)
    (events : List Event)
    (endpoint : String)
    (ticket : Ticket) : Bool :=
  (lookup? events ticket).any fun lookup => cache.family.resolve lookup.address = endpoint

variable {cache : Cache} {keep : Ticket → Bool} {span : Ticket → Option LookupSpan}
  {endpoint : String} {now : Nat} {turn other : Turn} {event : Event}

/-! ## Lookups of an endpoint -/

/-- Whether a lookup belongs to an endpoint. -/
def belongsTo
    (span : Ticket → Option LookupSpan)
    (endpoint : String)
    (ticket : Ticket) : Bool :=
  (span ticket).any fun home => home.endpoint = endpoint

theorem belongsTo_span?
    (cache : Cache)
    (events : List Event)
    (endpoint : String) :
    belongsTo (cache.span? events) endpoint = cache.isFor events endpoint := by
  funext ticket
  rw [belongsTo, isFor, span?, Option.any_map]

theorem belongsTo_of_eq_some
    {ticket : Ticket}
    {epoch : Nat}
    (belongs : span ticket = some ⟨endpoint, epoch⟩) :
    belongsTo span endpoint ticket = true := by
  rw [belongsTo, belongs]
  exact decide_eq_true rfl

theorem eq_of_belongsTo
    {ticket : Ticket}
    {home : LookupSpan}
    (kept : belongsTo span endpoint ticket = true)
    (belongs : span ticket = some home) :
    home.endpoint = endpoint := by
  rw [belongsTo, belongs] at kept
  exact of_decide_eq_true kept

theorem hasWholeSpans_belongsTo
    (span : Ticket → Option LookupSpan)
    (endpoint : String) :
    HasWholeSpans (belongsTo span endpoint) span := by
  intro left right home leftBelongs rightBelongs
  rw [belongsTo, belongsTo, leftBelongs, rightBelongs]

/-- Whoever is polled at an event is the lookup that the event names. -/
theorem Polls.ticket?_eq
    {moment : Turn}
    {flight : Flight}
    (polls : cache.Polls turn event moment flight) :
    event.ticket? = some flight.ticket := by
  cases polls with
  | again member => rfl
  | first new unfired =>
      rw [CacheState.board_snd]
      rfl

theorem mem_started_next
    {ticket : Ticket} :
    ticket ∈ (cache.next turn event).surroundings.started ↔
      ticket ∈ turn.surroundings.started ∨
        ∃ lookup, event = .start lookup ∧ lookup.ticket = ticket := by
  by_cases starts : ∃ lookup, event = .start lookup
  · obtain ⟨lookup, rfl⟩ := starts
    simp only [started_next_start, Event.start.injEq, exists_eq_left']
    by_cases known : lookup.ticket ∈ turn.surroundings.started
    · rw [if_pos known, or_iff_left_of_imp]
      rintro rfl
      exact known
    · rw [if_neg known, List.mem_append, List.mem_singleton, eq_comm (a := ticket)]
  · rw [not_exists] at starts
    rw [started_next_of_ne_start cache turn starts, or_iff_left]
    rintro ⟨lookup, same, -⟩
    exact starts lookup same

/-! ## Agreement between two turns that are reached -/

theorem Agreement.confine
    (agree : Agreement keep turn other)
    (endpoint : String) :
    Agreement keep (turn.confine endpoint) (other.confine endpoint) where
  environment := agree.environment
  fired := agree.fired
  answer := congrArg (confined · endpoint) agree.answer
  states := agree.states
  slots := agree.slots
  flights := agree.flights
  effects := agree.effects

theorem Reached.confine
    (reached : Reached cache span now turn)
    (endpoint : String) :
    Reached cache span now (turn.confine endpoint) :=
  .elsewhere reached _ (List.Subset.refl _)

/-- The slot that an endpoint has in one turn it has in the other, if it is one of the set. -/
theorem Reached.find?_places_of_agreement
    (reached : Reached cache span now turn)
    (reachedOther : Reached cache span now other)
    (whole : HasWholeSpans keep span)
    (agree : Agreement keep turn other)
    {number : Ticket}
    (kept : keep number = true)
    (placed : turn.state.places.find? endpoint = some number) :
    other.state.places.find? endpoint = some number := by
  have used : other.state.IsUsed number := by
    rcases reached.charted.occupied endpoint number placed with
      ⟨connection, held⟩ | ⟨flight, member, rfl⟩
    · exact Or.inl ⟨connection, by rw [agree.slots number kept, held]⟩
    · have both : flight ∈ other.state.flights.filter (keep ·.ticket) := by
        rw [agree.flights, List.mem_filter]
        exact ⟨member, (reached.keep_slot whole member).symm.trans kept⟩
      exact CacheState.isUsed_of_mem (List.mem_of_mem_filter both)
  exact reachedOther.charted.placed _ _ used
    (reached.charted.places_span endpoint number placed)

/-- A lookup of the set that gets the same slot in both turns leaves them in agreement when it
is started. -/
theorem Reached.agreement_start
    (reached : Reached cache span now turn)
    (reachedOther : Reached cache span now other)
    (whole : HasWholeSpans keep span)
    (agree : Agreement keep turn other)
    {lookup : Lookup}
    (kept : keep lookup.ticket = true)
    (belongs : lookup.ticket ∉ turn.surroundings.started →
      span lookup.ticket = some ⟨cache.family.resolve lookup.address, now⟩)
    (started : lookup.ticket ∈ other.surroundings.started ↔
      lookup.ticket ∈ turn.surroundings.started)
    (place : lookup.ticket ∉ turn.surroundings.started →
      other.state.places.find? (cache.family.resolve lookup.address) =
        turn.state.places.find? (cache.family.resolve lookup.address)) :
    Agreement keep (cache.next turn (.start lookup)) (cache.next other (.start lookup)) := by
  by_cases known : lookup.ticket ∈ turn.surroundings.started
  · rw [next_start_of_mem known, next_start_of_mem (started.mpr known)]
    exact agree
  · have knownOther : lookup.ticket ∉ other.surroundings.started := mt started.mp known
    have registered : Agreement keep
        ⟨turn.surroundings.register lookup.ticket, turn.state, turn.effects⟩
        ⟨other.surroundings.register lookup.ticket, other.state, other.effects⟩ :=
      { agree with }
    have firedOther := agree.hasFired_eq lookup.token?
    cases fired : turn.surroundings.hasFired lookup.token? with
    | true =>
        rw [next_start_of_fired known fired,
          next_start_of_fired knownOther (firedOther.trans fired)]
        exact registered.record _
    | false =>
        have berth : other.state.berth (cache.family.resolve lookup.address) lookup.ticket =
            turn.state.berth (cache.family.resolve lookup.address) lookup.ticket := by
          rw [CacheState.berth, CacheState.berth, place known]
        have berthKept : keep (turn.state.berth (cache.family.resolve lookup.address)
            lookup.ticket) = true :=
          (whole _ _ _ (reached.charted.span_berth (belongs known)) (belongs known)).trans kept
        have boards : Agreement keep
            (turn.board lookup (cache.family.resolve lookup.address))
            (other.board lookup (cache.family.resolve lookup.address)) := by
          refine { registered with slots := ?_, flights := ?_ }
          · intro number numberKept
            change ((other.state.board _ _).1.slotAt _) = (turn.state.board _ _).1.slotAt _
            rw [CacheState.slotAt_board (reached.queued.slotAt_eq_vacant known),
              CacheState.slotAt_board (reachedOther.queued.slotAt_eq_vacant knownOther),
              berth, agree.slots number numberKept]
          · change (other.state.board _ _).1.flights.filter _ =
              (turn.state.board _ _).1.flights.filter _
            rw [CacheState.flights_board, CacheState.flights_board, List.filter_append,
              List.filter_append, agree.flights, CacheState.board_snd, CacheState.board_snd,
              berth]
        let flight : Flight := ⟨lookup, cache.family.resolve lookup.address,
          turn.state.berth (cache.family.resolve lookup.address) lookup.ticket, .queued⟩
        have parallel : Parallel (AgreeAt keep flight.slot) flight flight :=
          parallel_agreeAt kept berthKept
        have boarded := Reached.board reached known (belongs known)
        rw [next_start_of_unfired known fired,
          next_start_of_unfired knownOther (firedOther.trans fired), CacheState.board_snd,
          CacheState.board_snd, berth]
        refine (parallel.advance ⟨boards, ?_⟩ cache rfl firedOther).1
        intro connection held
        exact (boarded.keep_connection whole held).trans berthKept

/-! ## What is left of changes -/

/-- Only what other connections report is left out. -/
theorem eq_report_of_only?_eq_none
    {change : Change}
    (left : change.only? keep endpoint = none) :
    ∃ connection state, change = .report connection state ∧ keep connection = false := by
  cases change with
  | fire token => cases left
  | report connection state =>
      refine ⟨connection, state, rfl, ?_⟩
      simpa [Change.only?] using left
  | answers answer => cases left
  | environment settings => cases left

/-- What is left of a change does to a turn where only dials to the endpoint come to an end
what the change does to the turn. -/
theorem next_change_confine
    (cache : Cache)
    (turn : Turn)
    {change remainder : Change}
    (left : change.only? keep endpoint = some remainder) :
    (cache.next turn (.change change)).confine endpoint =
      cache.next (turn.confine endpoint) (.change remainder) := by
  rw [next_change, next_change]
  cases change with
  | fire token =>
      obtain rfl := Option.some.inj left
      rfl
  | report connection state =>
      rw [Change.only?, Option.ite_none_right_eq_some, Option.some.injEq] at left
      obtain ⟨-, rfl⟩ := left
      have reported : (turn.surroundings.apply (.report connection state)).confine endpoint =
          (turn.surroundings.confine endpoint).apply (.report connection state) := by
        rw [Surroundings.apply, Surroundings.apply, apply_ite (Surroundings.confine · endpoint)]
        rfl
      exact congrArg (Turn.mk · turn.state turn.effects) reported
  | answers answer =>
      obtain rfl := Option.some.inj left
      rfl
  | environment settings =>
      obtain rfl := Option.some.inj left
      rfl

end Cache
end Switchboard
