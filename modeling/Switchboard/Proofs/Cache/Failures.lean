import Switchboard.Proofs.Cache.Inspection
import Switchboard.Proofs.Cache.Sparing
import Switchboard.Proofs.Cache.Waiting

/-!
# Failures

A failure belongs to one lookup only.  It costs nobody a connection that may still be handed
out, those who wait behind the lookup make attempts of their own, and if nobody waits the next
lookup of the endpoint starts afresh.
-/

namespace Switchboard
namespace Cache

open History Trace

/-- A lookup has taken over an empty slot: if it is dialing it has dialed itself, and otherwise it
makes its own attempt when it is polled, unless its token has fired. -/
structure TakesOver
    (cache : Cache)
    (turn : Turn)
    (flight : Flight) : Prop where
  owns : (turn.state.slotAt flight.slot).lock.owner? = some flight.ticket
  empty : (turn.state.slotAt flight.slot).connection? = none
  dialed : ∀ config, flight.phase = .dialing config →
    .dialed flight.ticket flight.endpoint config ∈ turn.effects
  attempts : flight.phase = .queued →
    turn.surroundings.hasFired flight.lookup.token? = false →
      (cache.step turn.surroundings turn.state (.poll flight.ticket)).effects =
        cache.ownAttempt turn.surroundings flight.lookup
          (cache.family.resolve flight.lookup.address)

/-- A lookup would board if it were started: its number is new and its token has not fired. -/
def Boards
    (turn : Turn)
    (lookup : Lookup) : Prop :=
  lookup.ticket ∉ turn.surroundings.started ∧
    turn.surroundings.hasFired lookup.token? = false

/-- A failure belongs to one lookup only. -/
structure Failures
    (cache : Cache)
    (surroundings : Surroundings)
    (events : List Event) : Prop where
  /-- A lookup that ends with an error ends with an error of its own. -/
  own : ∀ past event future ticket error, events = past ++ event :: future →
    .returned ticket (.error error) ∈
        (cache.step (cache.after surroundings past).surroundings
          (cache.after surroundings past).state event).effects →
      ∃ lookup, lookup? events ticket = some lookup ∧
        cache.OwnError (cache.after surroundings past).surroundings
          (cache.after surroundings events).effects lookup error
  /-- Nothing is ever stored for a lookup that ends with an error, and nobody ever gets a
  connection from it. -/
  stores : ∀ past future ticket error, events = past ++ future →
    .returned ticket (.error error) ∈ (cache.after surroundings events).effects →
      (∀ number, ((cache.after surroundings past).state.slotAt number).connection? ≠
          some ticket) ∧
        ∀ receiver, .returned receiver (.ok ticket) ∉ (cache.after surroundings past).effects
  /-- A connection that may be handed out stays in its slot and is not closed, and the slot keeps
  its places unless the cache is cleared. -/
  spares : ∀ past event future number connection, events = past ++ event :: future →
    ((cache.after surroundings past).state.slotAt number).connection? = some connection →
      cache.policy.reusable
          ((cache.after surroundings past).surroundings.stateOf connection) = true →
        ((cache.after surroundings (past ++ [event])).state.slotAt number).connection? =
            some connection ∧
          ¬WasClosed (cache.step (cache.after surroundings past).surroundings
            (cache.after surroundings past).state event).effects connection ∧
          (event ≠ .clear → ∀ endpoint,
            (cache.after surroundings past).state.places.find? endpoint = some number →
              (cache.after surroundings (past ++ [event])).state.places.find? endpoint =
                some number)
  /-- When an attempt of a lookup fails, nobody else ends; the slot is left empty, and those who
  wait for it wait on in their order. -/
  leaves : ∀ past event future moment flight, events = past ++ event :: future →
    cache.Fails (cache.after surroundings past) event moment flight →
      (∀ other outcome, .returned other outcome ∈
          (cache.step (cache.after surroundings past).surroundings
            (cache.after surroundings past).state event).effects → other = flight.ticket) ∧
        ((cache.after surroundings (past ++ [event])).state.slotAt
          flight.slot).connection? = none ∧
        (cache.after surroundings (past ++ [event])).state.queueOf flight.slot =
          (moment.state.queueOf flight.slot).filter (· ≠ flight.ticket)
  /-- As soon as those who wait before a lookup are gone, none of them with a connection, the
  lookup takes over. -/
  passes : ∀ past event between later moment flight ahead waiter behind,
    events = past ++ event :: (between ++ later) →
      cache.Fails (cache.after surroundings past) event moment flight →
        (cache.after surroundings (past ++ [event])).state.queueOf flight.slot =
            ahead ++ waiter.ticket :: behind →
          waiter ∈ (cache.after surroundings (past ++ event :: between)).state.flights →
            (∀ other ∈ ahead,
              other ∉ (cache.after surroundings (past ++ event :: between)).state.inFlight ∧
                ∀ connection, .returned other (.ok connection) ∉
                  (cache.after surroundings (past ++ event :: between)).effects) →
              lookup? events waiter.ticket = some waiter.lookup ∧
                cache.TakesOver (cache.after surroundings (past ++ event :: between)) waiter
  /-- If nobody waits for the slot and the cache has not been cleared since the first poll of the
  lookup that has failed, the next lookup of the endpoint to be started, unless its token has
  fired, makes its own attempt at its first poll. -/
  restarts : ∀ past event between lookup later moment flight,
    events = past ++ event :: (between ++ .start lookup :: later) →
      cache.Fails (cache.after surroundings past) event moment flight →
        StartsAfterLastClear (past ++ [event]) flight.ticket →
          (cache.after surroundings (past ++ [event])).state.queueOf flight.slot = [] →
            cache.family.resolve lookup.address =
                cache.family.resolve flight.lookup.address →
              Boards (cache.after surroundings (past ++ event :: between)) lookup →
                (∀ earlier other rest, between = earlier ++ .start other :: rest →
                  cache.family.resolve other.address =
                      cache.family.resolve flight.lookup.address →
                    ¬Boards (cache.after surroundings (past ++ event :: earlier)) other) →
                  (cache.step
                      (cache.after surroundings (past ++ event :: between)).surroundings
                      (cache.after surroundings (past ++ event :: between)).state
                      (.start lookup)).effects =
                    cache.ownAttempt
                      (cache.after surroundings (past ++ event :: between)).surroundings lookup
                      (cache.family.resolve lookup.address)

variable {cache : Cache} {span : Ticket → Option LookupSpan} {now : Nat}
  {turn next moment : Turn} {event : Event} {flight : Flight} {endpoint : String}

/-! ## Attempts at empty slots -/

/-- A lookup that has its turn at an empty slot makes its own attempt. -/
theorem Polls.effects_eq_ownAttempt
    (polls : cache.Polls turn event moment flight)
    (distinct : turn.state.inFlight.Nodup)
    (enters : Enters moment.surroundings moment.state flight)
    (empty : (moment.state.slotAt flight.slot).connection? = none) :
    (cache.step turn.surroundings turn.state event).effects =
      cache.ownAttempt turn.surroundings flight.lookup flight.endpoint := by
  let silent : Turn := { moment with effects := [] }
  have redials : cache.Redials silent.surroundings silent.state flight := by
    refine ⟨enters, ?_⟩
    intro connection held
    rw [empty] at held
    cases held
  have nothing : evictions silent.surroundings silent.state flight = [] := by
    unfold evictions
    rw [empty]
  rw [polls.effects_step distinct, redials.effects_advance, nothing]
  change cache.ownAttempt moment.surroundings flight.lookup flight.endpoint = _
  rw [polls.surroundings_eq]
  rfl

/-! ## Endpoints without places -/

theorem Reached.find?_places_act
    (reached : Reached cache span now turn)
    (act : Act cache turn next)
    (unplaced : turn.state.places.find? endpoint = none) :
    next.state.places.find? endpoint = none := by
  obtain ⟨flight, -, change⟩ := act.state_cases reached.queued
  rcases change with ⟨kept?, departs, -⟩ | emptied | ⟨config, dials, -, -⟩
  · rw [departs.places, unplaced, ite_self]
  · rw [emptied]
    exact unplaced
  · rw [dials]
    exact unplaced

/-- An endpoint without a place has none until a lookup of it boards. -/
theorem Reached.find?_places_next
    (reached : Reached cache span now turn)
    (event : Event)
    (belongs : ∀ lookup, event = .start lookup →
      lookup.ticket ∉ turn.surroundings.started →
        span lookup.ticket = some ⟨cache.family.resolve lookup.address, now⟩)
    (unplaced : turn.state.places.find? endpoint = none)
    (other : ∀ lookup, event = .start lookup →
      cache.family.resolve lookup.address = endpoint → ¬Boards turn lookup) :
    (cache.next turn event).state.places.find? endpoint = none := by
  refine reached.kept_by_next Reached.find?_places_act event belongs unplaced
    ?board ?decline ?leave ?clear ?change
  case board =>
    intro lookup starts new unfired
    refine (turn.state.find?_places_board lookup _ endpoint).trans ?_
    rw [if_neg, unplaced]
    intro same
    exact other lookup starts same.symm ⟨new, unfired⟩
  case decline =>
    intro lookup
    exact unplaced
  case leave =>
    intro flight flies
    refine ((turn.state.departs_leave flight).places endpoint).trans ?_
    rw [unplaced, ite_self]
  case clear =>
    intro clears
    rfl
  case change =>
    intro change changes
    exact unplaced

theorem find?_places_after_append
    (cache : Cache)
    (surroundings : Surroundings)
    {past between : List Event}
    (unplaced : (cache.after surroundings past).state.places.find? endpoint = none)
    (others : ∀ earlier other rest, between = earlier ++ .start other :: rest →
      cache.family.resolve other.address = endpoint →
        ¬Boards (cache.after surroundings (past ++ earlier)) other) :
    (cache.after surroundings (past ++ between)).state.places.find? endpoint = none := by
  induction between using List.reverseRecOn with
  | nil => rwa [List.append_nil]
  | append_singleton earlier event inductionHypothesis =>
      have before := inductionHypothesis fun first other rest split =>
        others first other (rest ++ [event]) (by rw [split, List.append_assoc, List.cons_append])
      rw [← List.append_assoc, after_concat]
      apply (cache.reached_after surroundings (past ++ earlier) [event]).find?_places_next event
        (cache.span?_of_start surroundings (past ++ earlier) [] event) before
      rintro lookup rfl
      exact others earlier lookup [] rfl

/-- When an attempt fails and nobody waits for the slot, the endpoint has no place, unless the
cache has been cleared since the first poll of the lookup. -/
theorem Fails.find?_places_eq_none
    {surroundings : Surroundings}
    {past : List Event}
    (fails : cache.Fails (cache.after surroundings past) event moment flight)
    (present : StartsAfterLastClear (past ++ [event]) flight.ticket)
    (alone : (cache.after surroundings (past ++ [event])).state.queueOf flight.slot = []) :
    (cache.after surroundings (past ++ [event])).state.places.find?
      (cache.family.resolve flight.lookup.address) = none := by
  have before := cache.reached_after surroundings past [event]
  have belongs := cache.span?_of_start surroundings past [] event
  have departs := fails.departs before belongs
  have reached := fails.reached before belongs
  have unclear : clears [event] = 0 := by
    apply clears_eq_zero
    intro member
    exact fails.ne_clear (List.mem_singleton.mp member).symm
  rw [← Nat.add_zero (clears past), ← unclear, ← clears_append] at reached
  have placed := reached.find?_places_of_startsAfterLastClear fails.mem_flights present
  rw [← after_concat] at departs
  rw [← reached.endpoint_eq flight fails.mem_flights]
  cases found : (cache.after surroundings (past ++ [event])).state.places.find?
      flight.endpoint with
  | none => rfl
  | some number =>
      have here : number = flight.slot := by
        rw [departs.places] at found
        split at found
        · cases found
        · exact Option.some.inj (found.symm.trans placed)
      rw [here] at found
      rcases (cache.reached_end surroundings (past ++ [event])).charted.occupied _ _ found with
        ⟨connection, held⟩ | ⟨other, flies, slot⟩
      · rw [departs.connection?, if_pos rfl] at held
        cases held
      · have waits := CacheState.mem_queueOf.mpr ⟨other, flies, slot, rfl⟩
        rw [alone] at waits
        exact absurd waits List.not_mem_nil

/-- A lookup that boards when its endpoint has no place makes its own attempt. -/
theorem Boards.effects_eq_ownAttempt
    {lookup : Lookup}
    (boards : Boards turn lookup)
    (queued : turn.state.Queued turn.surroundings.started)
    (unplaced : turn.state.places.find? (cache.family.resolve lookup.address) = none) :
    (cache.step turn.surroundings turn.state (.start lookup)).effects =
      cache.ownAttempt turn.surroundings lookup (cache.family.resolve lookup.address) := by
  obtain ⟨new, unfired⟩ := boards
  have vacant := queued.slotAt_eq_vacant new
  have berth : turn.state.berth (cache.family.resolve lookup.address) lookup.ticket =
      lookup.ticket := by
    rw [CacheState.berth, unplaced]
    rfl
  have free : turn.state.queueOf (turn.state.berth (cache.family.resolve lookup.address)
      lookup.ticket) = [] := by
    rw [berth, ← queued.queue, vacant]
    rfl
  have polls : cache.Polls turn (.start lookup) _ _ := .first new unfired
  have attempts := polls.effects_eq_ownAttempt queued.distinct
    (enters_board queued new unfired free) (by
      rw [CacheState.board_snd, berth]
      exact (CacheState.connection?_board vacant _ _).trans (congrArg Slot.connection? vacant))
  rwa [CacheState.board_snd] at attempts

/-- After every history failures belong to one lookup only. -/
theorem failures_after
    (cache : Cache)
    (surroundings : Surroundings)
    (events : List Event) :
    cache.Failures surroundings events where
  own := by
    rintro past event future ticket error rfl returned
    exact exists_ownError returned future
  stores := by
    rintro past future ticket error rfl returned
    exact stores_nothing returned
  spares := by
    rintro past event future number connection rfl held reusable
    have offers : cache.Offers (cache.after surroundings past) number connection fun endpoint =>
        (cache.after surroundings past).state.places.find? endpoint = some number :=
      ⟨held, reusable, fun _ placed => placed⟩
    have stays := (cache.reached_after surroundings past [event]).offers_next event
      (cache.span?_of_start surroundings past [] event) offers
    rw [← after_concat] at stays
    refine ⟨stays.1, ?_, stays.2⟩
    rintro ⟨closer, endpoint, state, closes⟩
    obtain ⟨moment, flight, polls, -, -, -, rfl, stale⟩ := evicts_of_closed closes
    rw [polls.surroundings_eq] at stale
    cases reusable.symm.trans stale
  leaves := by
    rintro past event future moment flight rfl fails
    have reached := cache.reached_after surroundings past [event]
    have departs := fails.departs reached (cache.span?_of_start surroundings past [] event)
    rw [← after_concat] at departs
    refine ⟨?_, ?_, departs.queueOf _⟩
    · intro other outcome returned
      exact fails.ticket_eq_of_returned reached.queued.distinct returned
    · rw [departs.connection?, if_pos rfl]
  passes := by
    rintro past event between later moment flight ahead waiter behind rfl fails queue flies alone
    have departs := fails.departs (cache.reached_after surroundings past [event])
      (cache.span?_of_start surroundings past [] event)
    rw [← after_concat] at departs
    have waited : HasWaited (cache.after surroundings (past ++ [event])) flight.slot
        waiter.ticket ahead := by
      refine .waits ⟨⟨ahead, behind, queue, List.Subset.refl _⟩, ?_⟩
      rw [departs.connection?, if_pos rfl]
    have reached := cache.reached_end surroundings (past ++ event :: between)
    have still := hasWaited_after_append cache surroundings waited between
    rw [List.append_assoc, List.singleton_append] at still
    obtain ⟨owns, empty⟩ := still.owns reached.queued flies alone
    refine ⟨?_, owns, empty, reached.dialed waiter flies, ?_⟩
    · rw [← List.cons_append, ← List.append_assoc, lookup?_append,
        cache.lookup?_of_mem_flights surroundings _ waiter flies, Option.some_or]
    · intro waiting unfired
      rw [← reached.endpoint_eq waiter flies]
      exact (Polls.again flies).effects_eq_ownAttempt reached.queued.distinct
        ⟨unfired, waiting, owns⟩ empty
  restarts := by
    rintro past event between lookup later moment flight rfl fails present alone same boards others
    have unplaced := find?_places_after_append cache surroundings
      (fails.find?_places_eq_none present alone)
      (fun earlier other rest split home => by
        rw [List.append_assoc, List.singleton_append]
        exact others earlier other rest split home)
    rw [List.append_assoc, List.singleton_append, ← same] at unplaced
    exact boards.effects_eq_ownAttempt
      (cache.reached_end surroundings (past ++ event :: between)).queued unplaced

/-- A lookup that has waited behind a failure gets a connection of its own. -/
example (error : ConnectError) :
    let cache := Cache.ofFamily .agent (.ofFlag true)
    let lookup := fun ticket => Lookup.mk ticket "agent:1" .insecure none
    let turn := cache.after .initial
      [.change (.answers fun _ _ => .pending), .start (lookup 1), .start (lookup 2),
        .change (.answers fun _ _ => .failed error), .poll 1,
        .change (.answers fun _ _ => .connected none), .poll 2]
    turn.outcomeOf? 1 = some (.error error) ∧ turn.outcomeOf? 2 = some (.ok 2) :=
  ⟨rfl, rfl⟩

end Cache
end Switchboard
