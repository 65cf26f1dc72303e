import Switchboard.Proofs.Cache.Parallel
import Switchboard.Proofs.Cache.Reached

/-!
# Lookups without their tokens

A lookup can be released: its token is taken from it, and nothing else is changed.  As long
as the token has not fired when the lookup is polled, every event does to the released
lookup what it does to the lookup itself.
-/

namespace Switchboard

/-- A lookup of the same kind that nothing cancels. -/
def Lookup.plain (lookup : Lookup) : Lookup :=
  { lookup with token? := none }

/-- A lookup without its token if it has a number, and as it is if not. -/
def Lookup.release
    (lookup : Lookup)
    (ticket : Ticket) : Lookup :=
  if lookup.ticket = ticket then lookup.plain else lookup

namespace Lookup

variable (lookup : Lookup) (ticket : Ticket)

@[simp]
theorem ticket_release : (lookup.release ticket).ticket = lookup.ticket := by
  rw [release]
  split <;> rfl

@[simp]
theorem authorizer_release :
    (lookup.release ticket).authorizer = lookup.authorizer := by
  rw [release]
  split <;> rfl

@[simp]
theorem release_self : lookup.release lookup.ticket = lookup.plain := by
  rw [release, if_pos rfl]

theorem release_of_ne
    {lookup : Lookup}
    {ticket : Ticket}
    (other : lookup.ticket ≠ ticket) :
    lookup.release ticket = lookup := by
  rw [release, if_neg other]

end Lookup

/-- A lookup under way that has lost its token if it has a number. -/
def Flight.release
    (flight : Flight)
    (ticket : Ticket) : Flight :=
  { flight with lookup := flight.lookup.release ticket }

namespace Flight

variable (flight : Flight) (ticket : Ticket)

@[simp]
theorem ticket_release : (flight.release ticket).ticket = flight.ticket :=
  flight.lookup.ticket_release ticket

theorem release_of_ne
    {flight : Flight}
    {ticket : Ticket}
    (other : flight.ticket ≠ ticket) :
    flight.release ticket = flight := by
  rw [release, Lookup.release_of_ne other]

/-- A lookup that is released begins to dial as one that has a token. -/
theorem whenDialing_release
    (other : Flight)
    (config : DialConfig) :
    (other.release ticket).whenDialing (flight.release ticket) config =
      (other.whenDialing flight config).release ticket := by
  rw [whenDialing, whenDialing, ticket_release, ticket_release]
  split <;> rfl

end Flight

namespace CacheState

/-- The state in which the lookup with a number has lost its token. -/
def release
    (state : CacheState)
    (ticket : Ticket) : CacheState :=
  { state with flights := state.flights.map (·.release ticket) }

variable (state : CacheState) (ticket : Ticket)

/-- Nothing is changed unless the lookup is under way. -/
theorem release_of_notMem
    {state : CacheState}
    {ticket : Ticket}
    (landed : ticket ∉ state.inFlight) :
    state.release ticket = state := by
  have flights : state.flights.map (·.release ticket) = state.flights := by
    refine (List.map_congr_left fun flight member => ?_).trans (List.map_id _)
    apply Flight.release_of_ne
    rintro rfl
    exact landed (List.mem_map_of_mem member)
  rw [release, flights]

theorem flight?_release (other : Ticket) :
    (state.release ticket).flight? other =
      (state.flight? other).map (·.release ticket) := by
  rw [flight?, release, List.find?_map]
  simp only [Function.comp_def, Flight.ticket_release]
  rfl

theorem markDialing_release
    (flight : Flight)
    (config : DialConfig) :
    (state.release ticket).markDialing (flight.release ticket) config =
      (state.markDialing flight config).release ticket := by
  have flights : ((state.release ticket).markDialing (flight.release ticket) config).flights =
      ((state.markDialing flight config).release ticket).flights := by
    rw [flights_markDialing, release, release, flights_markDialing, List.map_map,
      List.map_map]
    exact List.map_congr_left fun other _ => flight.whenDialing_release ticket other config
  exact congrArg (CacheState.mk state.places state.slots) flights

theorem reap_release
    (endpoint : String)
    (number : Ticket) :
    (state.release ticket).reap endpoint number =
      (state.reap endpoint number).release ticket := by
  have unused : (state.release ticket).flights.all (·.slot ≠ number) =
      state.flights.all (·.slot ≠ number) := by
    rw [release, List.all_map]
    rfl
  unfold reap
  rw [unused]
  rw [apply_ite fun reaped : CacheState => reaped.release ticket]
  rfl

theorem leave_release (flight : Flight) :
    (state.release ticket).leave (flight.release ticket) =
      (state.leave flight).release ticket := by
  have flights : (state.flights.map (·.release ticket)).filter
        (fun other => decide (other.ticket ≠ flight.ticket)) =
      (state.flights.filter fun other => decide (other.ticket ≠ flight.ticket)).map
        (·.release ticket) := by
    rw [List.filter_map]
    simp only [Function.comp_def, Flight.ticket_release]
  rw [leave, leave, ← reap_release, Flight.ticket_release]
  exact congrArg (fun left => (CacheState.mk _ _ left).reap _ _) flights

/-- A lookup that has lost its token boards as before. -/
theorem board_release
    (lookup : Lookup)
    (endpoint : String) :
    (state.release ticket).board (lookup.release ticket) endpoint =
      ((state.board lookup endpoint).1.release ticket,
        (state.board lookup endpoint).2.release ticket) := by
  unfold board assign
  rw [Lookup.ticket_release]
  have places : (state.release ticket).places = state.places := rfl
  rw [places]
  cases state.places.find? endpoint with
  | some number => simp [release, Flight.release, setSlot, slotAt]
  | none => simp [release, Flight.release, setSlot, slotAt]

end CacheState

/-- The turn in which the lookup with a number has lost its token. -/
def Turn.release
    (turn : Turn)
    (ticket : Ticket) : Turn :=
  { turn with state := turn.state.release ticket }

/-- A lookup that has lost its token boards as before. -/
theorem Turn.board_release
    (turn : Turn)
    (lookup : Lookup)
    (endpoint : String)
    (ticket : Ticket) :
    (turn.release ticket).board (lookup.release ticket) endpoint =
      (turn.board lookup endpoint).release ticket := by
  rw [board, Lookup.ticket_release]
  exact congrArg (Turn.mk _ ·.1 _) (turn.state.board_release ticket lookup endpoint)

namespace Cache

/-- A released lookup does the same as the lookup itself. -/
theorem parallel_release
    (ticket : Ticket)
    (flight : Flight) :
    Parallel (fun turn other => other = turn.release ticket) flight
      (flight.release ticket) where
  ticket := flight.ticket_release ticket
  endpoint := rfl
  slot := rfl
  authorizer := flight.lookup.authorizer_release ticket
  environment := by
    rintro turn other rfl
    rfl
  answer := by
    rintro turn other rfl
    rfl
  slotAt := by
    rintro turn other rfl
    rfl
  stateOf := by
    rintro turn other connection rfl held
    rfl
  record := by
    rintro turn other rfl effects own
    rfl
  report := by
    rintro turn other rfl connection state own
    rfl
  fill := by
    rintro turn other rfl connection? own
    rfl
  markDialing := by
    rintro turn other rfl config
    exact congrArg (Turn.mk _ · _) (turn.state.markDialing_release ticket flight config)
  leave := by
    rintro turn other rfl
    exact congrArg (Turn.mk _ · _) (turn.state.leave_release ticket flight)

/-- A poll does the same without the token that has not fired. -/
theorem advance_release
    (cache : Cache)
    (turn : Turn)
    {ticket : Ticket}
    {flight : Flight}
    (unfired : flight.ticket = ticket →
      turn.surroundings.hasFired flight.lookup.token? = false) :
    cache.advance (turn.release ticket) (flight.release ticket) =
      (cache.advance turn flight).release ticket := by
  apply (parallel_release ticket flight).advance rfl cache rfl
  by_cases named : flight.ticket = ticket
  · subst named
    rw [unfired rfl]
    change turn.surroundings.hasFired (flight.lookup.release flight.lookup.ticket).token? =
      false
    rw [Lookup.release_self]
    rfl
  · rw [Flight.release_of_ne named]
    rfl

/-- Another lookup is started as before, and a released one like the lookup itself if its
token has not fired. -/
theorem next_start_release
    (cache : Cache)
    {turn : Turn}
    {lookup : Lookup}
    (ticket : Ticket)
    (new : lookup.ticket ∉ turn.surroundings.started)
    (unfired : lookup.ticket = ticket →
      turn.surroundings.hasFired lookup.token? = false) :
    cache.next (turn.release ticket) (.start (lookup.release ticket)) =
      (cache.next turn (.start lookup)).release ticket := by
  have stillNew :
      (lookup.release ticket).ticket ∉ (turn.release ticket).surroundings.started := by
    rw [Lookup.ticket_release]
    exact new
  have endpoint : (lookup.release ticket).address = lookup.address := by
    rw [Lookup.release]
    split <;> rfl
  cases fired : turn.surroundings.hasFired lookup.token? with
  | true =>
      have other : lookup.ticket ≠ ticket := by
        intro named
        rw [unfired named] at fired
        cases fired
      rw [Lookup.release_of_ne other] at stillNew ⊢
      rw [next_start_of_fired new fired, next_start_of_fired stillNew fired]
      rfl
  | false =>
      have stillUnfired : (turn.release ticket).surroundings.hasFired
          (lookup.release ticket).token? = false := by
        rw [Lookup.release]
        split
        · rfl
        · exact fired
      have boards := turn.state.board_release ticket lookup
        (cache.family.resolve lookup.address)
      rw [next_start_of_unfired new fired, next_start_of_unfired stillNew stillUnfired,
        endpoint, turn.board_release, ← advance_release]
      · exact congrArg (cache.advance _ ·.2) boards
      · intro _
        rw [CacheState.board_snd]
        exact fired

/-- An event does the same to a lookup under way that has lost its token, unless it is
polled after the token has fired. -/
theorem next_release
    (cache : Cache)
    {turn : Turn}
    {ticket : Ticket}
    (known : ticket ∈ turn.surroundings.started)
    (event : Event)
    (unfired : event = .poll ticket → ∀ flight ∈ turn.state.flights,
      flight.ticket = ticket → turn.surroundings.hasFired flight.lookup.token? = false) :
    cache.next (turn.release ticket) event = (cache.next turn event).release ticket := by
  cases event with
  | start lookup =>
      by_cases started : lookup.ticket ∈ turn.surroundings.started
      · have same : lookup.ticket ∈ (turn.release ticket).surroundings.started := started
        rw [next_start_of_mem started, next_start_of_mem same]
      · have other : lookup.ticket ≠ ticket := by
          rintro rfl
          exact started known
        have starts := cache.next_start_release ticket started (absurd · other)
        rwa [Lookup.release_of_ne other] at starts
  | poll number =>
      cases found : turn.state.flight? number with
      | none =>
          have missing : (turn.release ticket).state.flight? number = none := by
            change (turn.state.release ticket).flight? number = none
            rw [CacheState.flight?_release, found, Option.map_none]
          rw [next_poll_of_none found, next_poll_of_none missing]
      | some flight =>
          have double : (turn.release ticket).state.flight? number =
              some (flight.release ticket) := by
            change (turn.state.release ticket).flight? number = _
            rw [CacheState.flight?_release, found, Option.map_some]
          obtain ⟨member, rfl⟩ := CacheState.flight?_eq_some found
          rw [next_poll_of_some found, next_poll_of_some double]
          apply advance_release
          rintro rfl
          exact unfired rfl flight member rfl
  | drop number =>
      cases found : turn.state.flight? number with
      | none =>
          have missing : (turn.release ticket).state.flight? number = none := by
            change (turn.state.release ticket).flight? number = none
            rw [CacheState.flight?_release, found, Option.map_none]
          rw [next_drop_of_none found, next_drop_of_none missing]
      | some flight =>
          have double : (turn.release ticket).state.flight? number =
              some (flight.release ticket) := by
            change (turn.state.release ticket).flight? number = _
            rw [CacheState.flight?_release, found, Option.map_some]
          rw [next_drop_of_some found, next_drop_of_some double]
          exact (parallel_release ticket flight).leave rfl
  | clear => rfl
  | change change => rfl

end Cache

end Switchboard
