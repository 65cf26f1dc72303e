import Switchboard.Proofs.Cache.Errors

/-!
# Waiting behind a failure

When an attempt of a lookup fails, its slot is left empty, and those who wait for the slot wait
on in the same order.  As long as nobody ahead of a lookup gets a connection the slot stays
empty; once nobody is ahead, the lookup has the slot and makes its own attempt.
-/

namespace Switchboard
namespace Cache

/-- At an event an attempt of a lookup fails: the lookup ends with an error, in its turn or
while it dials, or it is dropped while it dials. -/
inductive Fails (cache : Cache) (turn : Turn) : Event → Turn → Flight → Prop
  /-- The lookup is polled and ends with an error; if it has not been dialing, its token has not
  fired. -/
  | ends
      {event : Event}
      {moment : Turn}
      {flight : Flight}
      {error : ConnectError}
      (polls : cache.Polls turn event moment flight)
      (tries : flight.isDialing = true ∨
        moment.surroundings.hasFired flight.lookup.token? = false)
      (returned : .returned flight.ticket (.error error) ∈
        (cache.step turn.surroundings turn.state event).effects) :
      Fails cache turn event moment flight
  /-- The lookup is dropped while it dials. -/
  | dropped
      {flight : Flight}
      (member : flight ∈ turn.state.flights)
      (dialing : flight.isDialing = true) :
      Fails cache turn (.drop flight.ticket) turn flight

/-- A lookup waits for an empty slot, and all before it in the queue are among certain others. -/
structure WaitsBehind
    (state : CacheState)
    (slot ticket : Ticket)
    (ahead : List Ticket) : Prop where
  queue : ∃ before behind, state.queueOf slot = before ++ ticket :: behind ∧ before ⊆ ahead
  empty : (state.slotAt slot).connection? = none

/-- What has become of a lookup that has waited behind certain others for an empty slot. -/
inductive HasWaited
    (turn : Turn)
    (slot ticket : Ticket)
    (ahead : List Ticket) : Prop
  /-- It waits on. -/
  | waits (waits : WaitsBehind turn.state slot ticket ahead)
  /-- It is not under way any more. -/
  | gone
      (known : ticket ∈ turn.surroundings.started)
      (absent : ticket ∉ turn.state.inFlight)
  /-- One of the others has got a connection. -/
  | served
      {other connection : Ticket}
      (member : other ∈ ahead)
      (returned : .returned other (.ok connection) ∈ turn.effects)

variable {cache : Cache} {span : Ticket → Option LookupSpan} {now : Nat}
  {turn next moment : Turn} {event : Event} {flight : Flight}
  {slot ticket : Ticket} {ahead : List Ticket}

/-! ## Departures from empty slots -/

theorem departs_finish
    (empty : (turn.state.slotAt flight.slot).connection? = none)
    (outcome : Outcome) :
    turn.state.Departs flight none (turn.finish flight outcome).state :=
  empty ▸ turn.state.departs_leave flight

/-- Who departs from a slot that has been emptied departs from the slot as it was. -/
theorem departs_of_emptied
    {after : CacheState}
    {kept? : Option Ticket}
    (departs : (emptied turn flight).state.Departs flight kept? after) :
    turn.state.Departs flight kept? after := by
  rcases state_emptied turn flight with same | filled
  · exact same ▸ departs
  · rw [filled] at departs
    refine ⟨departs.flights, ?_, departs.places, departs.distinct⟩
    intro number
    rw [departs.slots]
    by_cases same : number = flight.slot
    · simp [same]
    · simp [same]

/-- Who departs after it has begun to dial departs as it would have before. -/
theorem departs_of_dial
    {config : DialConfig}
    {after : CacheState}
    {kept? : Option Ticket}
    (departs : (dial turn flight config).state.Departs flight kept? after) :
    turn.state.Departs flight kept? after :=
  ⟨departs.flights.trans (others_dial turn flight config), departs.slots, departs.places,
    departs.distinct⟩

theorem Fails.mem_flights
    (fails : cache.Fails turn event moment flight) :
    flight ∈ moment.state.flights := by
  cases fails with
  | ends polls tries returned => exact polls.mem_flights
  | dropped member dialing => exact member

/-- The moments of failures are reached. -/
theorem Fails.reached
    (fails : cache.Fails turn event moment flight)
    (reached : Reached cache span now turn)
    (belongs : ∀ lookup, event = .start lookup →
      lookup.ticket ∉ turn.surroundings.started →
        span lookup.ticket = some ⟨cache.family.resolve lookup.address, now⟩) :
    Reached cache span now moment := by
  cases fails with
  | ends polls tries returned => exact polls.reached reached belongs
  | dropped member dialing => exact reached

/-- Nobody fails at a clear. -/
theorem Fails.ne_clear
    (fails : cache.Fails turn event moment flight) :
    event ≠ .clear := by
  rintro rfl
  cases fails with
  | ends polls tries returned => cases polls

/-- When an attempt of a lookup fails, nobody else ends. -/
theorem Fails.ticket_eq_of_returned
    (fails : cache.Fails turn event moment flight)
    (distinct : turn.state.inFlight.Nodup)
    {other : Ticket}
    {outcome : Outcome}
    (returned : .returned other outcome ∈
      (cache.step turn.surroundings turn.state event).effects) :
    other = flight.ticket := by
  cases fails with
  | ends polls tries fails =>
      rw [polls.effects_step distinct] at returned
      rcases grounds_advance returned with impossible | ⟨same, -⟩
      · exact absurd impossible List.not_mem_nil
      · exact same
  | dropped member dialing =>
      rcases grounds_step returned with
        ⟨moment, flight, impossible, -⟩ | ⟨lookup, impossible, -⟩ | ⟨notice, impossible⟩
      · cases impossible
      · cases impossible
      · cases impossible

/-- A lookup whose attempt fails departs and leaves its slot empty. -/
theorem Fails.departs
    (fails : cache.Fails turn event moment flight)
    (reached : Reached cache span now turn)
    (belongs : ∀ lookup, event = .start lookup →
      lookup.ticket ∉ turn.surroundings.started →
        span lookup.ticket = some ⟨cache.family.resolve lookup.address, now⟩) :
    moment.state.Departs flight none (cache.next turn event).state := by
  cases fails with
  | dropped member dialing =>
      have empty := (reached.queued.dialing flight member dialing).2
      rw [next_drop_of_some (CacheState.flight?_ticket reached.queued.distinct member)]
      exact empty ▸ turn.state.departs_leave flight
  | @ends _ _ _ error polls tries returned =>
      have queued := (polls.reached reached belongs).queued
      have emptyIfDialing := fun dialing =>
        (queued.dialing flight polls.mem_flights dialing).2
      have grounds : cache.Ends moment.surroundings moment.state flight (.error error) := by
        rw [polls.effects_step reached.queued.distinct] at returned
        rcases grounds_advance returned with impossible | ⟨-, ends⟩
        · exact absurd impossible List.not_mem_nil
        · exact ends
      rw [polls.next_eq reached.queued.distinct]
      rcases grounds with ⟨fired, -⟩ | ⟨redials, refused⟩ | ⟨config, awaits, failed⟩
      · rcases tries with dialing | unfired
        · rw [advance, if_pos fired]
          exact departs_finish (emptyIfDialing dialing) _
        · rw [unfired] at fired
          cases fired
      · rw [← environment_emptied moment flight] at refused
        let asked := cache.consult (emptied moment flight) flight
        have empty : (asked.state.slotAt flight.slot).connection? = none :=
          (connection?_emptied moment flight flight.slot).trans (if_pos rfl)
        rw [redials.advance_eq, beginDial_of_error refused]
        exact departs_of_emptied (departs_finish empty _)
      · rcases awaits with phase | ⟨redials, prepared⟩
        · have empty := emptyIfDialing (Flight.isDialing_of_phase_eq phase)
          rw [advance]
          split
          · exact departs_finish empty _
          · rw [phase]
            dsimp only
            rw [awaitDial_of_failed failed]
            exact departs_finish empty _
        · rw [← environment_emptied moment flight] at prepared
          rw [← answer_emptied moment flight] at failed
          let asked := cache.consult (emptied moment flight) flight
          let begun := dial asked flight config
          have empty : (begun.state.slotAt flight.slot).connection? = none :=
            (connection?_emptied moment flight flight.slot).trans (if_pos rfl)
          have fails : awaitDial begun flight config = begun.finish flight (.error error) :=
            awaitDial_of_failed failed
          rw [redials.advance_eq, beginDial_of_ok prepared, fails]
          have left : asked.state.Departs flight none
              (begun.finish flight (.error error)).state :=
            departs_of_dial (departs_finish empty _)
          exact departs_of_emptied left

/-! ## What keeps a lookup waiting -/

/-- A lookup waits on when another one departs and leaves the slot empty. -/
theorem WaitsBehind.departs
    {state after : CacheState}
    {kept? : Option Ticket}
    (waits : WaitsBehind state slot ticket ahead)
    (departs : state.Departs flight kept? after)
    (different : flight.ticket ≠ ticket)
    (leaves : flight.slot = slot → kept? = none) :
    WaitsBehind after slot ticket ahead := by
  obtain ⟨before, behind, queue, isAhead⟩ := waits.queue
  refine ⟨⟨before.filter (· ≠ flight.ticket), behind.filter (· ≠ flight.ticket), ?_, ?_⟩, ?_⟩
  · rw [departs.queueOf, queue, List.filter_append, List.filter_cons_of_pos]
    simpa using different.symm
  · exact List.Subset.trans List.filter_sublist.subset isAhead
  · rw [departs.connection?]
    split
    · next same => exact leaves same.symm
    · exact waits.empty

/-- The owner of the lock for which a lookup waits is one of the others. -/
theorem WaitsBehind.owner_mem
    {state : CacheState}
    {started : List Ticket}
    {owner : Ticket}
    (waits : WaitsBehind state slot ticket ahead)
    (queued : state.Queued started)
    (owns : (state.slotAt slot).lock.owner? = some owner)
    (different : owner ≠ ticket) :
    owner ∈ ahead := by
  obtain ⟨before, behind, queue, isAhead⟩ := waits.queue
  rw [(queued.regular slot).owner?_eq_head?, queued.queue, queue] at owns
  cases before with
  | nil => exact absurd (Option.some.inj owns).symm different
  | cons first others =>
      obtain rfl := Option.some.inj owns
      exact isAhead List.mem_cons_self

/-- A lookup waits on at an act, unless it leaves or one of the others gets a connection. -/
theorem Reached.hasWaited_act
    (reached : Reached cache span now turn)
    (act : Act cache turn next)
    (waited : HasWaited turn slot ticket ahead) :
    HasWaited next slot ticket ahead := by
  have queued := reached.queued
  cases waited with
  | gone known absent =>
      refine .gone (act.started_eq ▸ known) ?_
      intro flies
      rw [CacheState.inFlight_eq_lookups] at absent flies
      exact absent (((act.lookups_sublist queued).map _).subset flies)
  | served member returned => exact .served member (act.effects_subset returned)
  | waits waits =>
      obtain ⟨flight, flies, change⟩ := act.state_cases queued
      rcases change with ⟨kept?, departs, kept⟩ | emptied | ⟨config, dials, -, -⟩
      · by_cases own : flight.ticket = ticket
        · subst own
          refine .gone (act.started_eq ▸ (queued.flights_started flight flies).1) ?_
          simp [departs.inFlight]
        · by_cases leaves : flight.slot = slot → kept? = none
          · exact .waits (waits.departs departs own leaves)
          · -- The departing lookup has put its connection into the slot.
            rw [Classical.not_imp] at leaves
            obtain ⟨rfl, keeps⟩ := leaves
            obtain ⟨connection, rfl⟩ := Option.ne_none_iff_exists'.mp keeps
            have held : (next.state.slotAt flight.slot).connection? = some connection := by
              rw [departs.connection?, if_pos rfl]
            rcases kept connection rfl with before | ⟨rfl, owns⟩
            · rw [waits.empty] at before
              cases before
            · exact .served (waits.owner_mem queued owns own)
                ((Reached.act reached act).keeping.held _ _ held)
      · refine .waits ⟨?_, ?_⟩
        · rw [emptied]
          exact waits.queue
        · rw [emptied, CacheState.slotAt_fill]
          split
          · rfl
          · exact waits.empty
      · refine .waits ⟨?_, ?_⟩
        · rw [dials, CacheState.queueOf_markDialing]
          exact waits.queue
        · rw [dials, CacheState.slotAt_markDialing]
          exact waits.empty

namespace HasWaited

/-- Nothing around the cache makes a difference to those who wait. -/
theorem elsewhere
    (waited : HasWaited turn slot ticket ahead)
    {surroundings : Surroundings}
    (grown : turn.surroundings.started ⊆ surroundings.started)
    (state : CacheState)
    (flights : state.flights = turn.state.flights)
    (slots : state.slots = turn.state.slots)
    (more : List Effect) :
    HasWaited ⟨surroundings, state, turn.effects ++ more⟩ slot ticket ahead := by
  cases waited with
  | waits waits =>
      refine .waits ⟨?_, ?_⟩
      · rw [CacheState.queueOf, flights]
        exact waits.queue
      · rw [CacheState.slotAt, slots]
        exact waits.empty
  | gone known absent =>
      refine .gone (grown known) ?_
      rw [CacheState.inFlight, flights]
      exact absent
  | served member returned => exact .served member (List.mem_append_left _ returned)

theorem board
    (waited : HasWaited turn slot ticket ahead)
    (queued : turn.state.Queued turn.surroundings.started)
    {lookup : Lookup}
    (new : lookup.ticket ∉ turn.surroundings.started)
    (endpoint : String) :
    HasWaited (turn.board lookup endpoint) slot ticket ahead := by
  cases waited with
  | waits waits =>
      obtain ⟨before, behind, queue, isAhead⟩ := waits.queue
      refine .waits ⟨?_, ?_⟩
      · change ∃ before behind, (turn.state.board lookup endpoint).1.queueOf slot = _ ∧ _
        rw [CacheState.queueOf_board, queue]
        split
        · exact ⟨before, behind ++ [lookup.ticket], by simp, isAhead⟩
        · exact ⟨before, behind, rfl, isAhead⟩
      · exact (CacheState.connection?_board (queued.slotAt_eq_vacant new) endpoint slot).trans
          waits.empty
  | gone known absent =>
      refine .gone (List.mem_append_left _ known) ?_
      change ticket ∉ (turn.state.board lookup endpoint).1.inFlight
      rw [CacheState.inFlight_board, List.mem_append, List.mem_singleton]
      rintro (old | rfl)
      · exact absent old
      · exact new known
  | served member returned => exact .served member returned

theorem drop
    (waited : HasWaited turn slot ticket ahead)
    (queued : turn.state.Queued turn.surroundings.started)
    (flies : flight ∈ turn.state.flights) :
    HasWaited { turn with state := turn.state.leave flight } slot ticket ahead := by
  have departs := turn.state.departs_leave flight
  cases waited with
  | waits waits =>
      by_cases own : flight.ticket = ticket
      · subst own
        refine .gone (queued.flights_started flight flies).1 ?_
        simp [departs.inFlight]
      · refine .waits (waits.departs departs own ?_)
        rintro rfl
        exact waits.empty
  | gone known absent =>
      refine .gone known ?_
      rw [departs.inFlight, List.mem_filter]
      exact fun flying => absent flying.1
  | served member returned => exact .served member returned

/-- Once nobody ahead of a lookup is under way, and none has got a connection, the lookup has
the lock of the empty slot. -/
theorem owns
    (waited : HasWaited turn slot flight.ticket ahead)
    (queued : turn.state.Queued turn.surroundings.started)
    (flies : flight ∈ turn.state.flights)
    (alone : ∀ other ∈ ahead, other ∉ turn.state.inFlight ∧
      ∀ connection, .returned other (.ok connection) ∉ turn.effects) :
    (turn.state.slotAt flight.slot).lock.owner? = some flight.ticket ∧
      (turn.state.slotAt flight.slot).connection? = none := by
  cases waited with
  | gone known absent => exact absurd (List.mem_map_of_mem flies) absent
  | @served other connection member returned =>
      exact absurd returned ((alone other member).2 connection)
  | waits waits =>
      obtain ⟨before, behind, queue, isAhead⟩ := waits.queue
      have inQueue : ∀ other ∈ before ++ flight.ticket :: behind,
          ∃ present ∈ turn.state.flights, present.slot = slot ∧ present.ticket = other := by
        intro other member
        exact CacheState.mem_queueOf.mp (queue ▸ member)
      have nobody : before = [] := by
        rw [List.eq_nil_iff_forall_not_mem]
        intro other member
        obtain ⟨present, presentFlies, -, rfl⟩ := inQueue other (List.mem_append_left _ member)
        exact (alone _ (isAhead member)).1 (List.mem_map_of_mem presentFlies)
      obtain ⟨present, presentFlies, rfl, same⟩ := inQueue flight.ticket
        (List.mem_append_right _ List.mem_cons_self)
      obtain rfl := queued.eq_of_ticket_eq presentFlies flies same
      refine ⟨?_, waits.empty⟩
      rw [(queued.regular _).owner?_eq_head?, queued.queue, queue, nobody]
      rfl

end HasWaited

/-- A lookup waits on at an event, unless it leaves or one of the others gets a connection. -/
theorem Reached.hasWaited_next
    (reached : Reached cache span now turn)
    (event : Event)
    (belongs : ∀ lookup, event = .start lookup →
      lookup.ticket ∉ turn.surroundings.started →
        span lookup.ticket = some ⟨cache.family.resolve lookup.address, now⟩)
    (waited : HasWaited turn slot ticket ahead) :
    HasWaited (cache.next turn event) slot ticket ahead := by
  have queued := reached.queued
  refine reached.kept_by_next Reached.hasWaited_act event belongs waited
    ?board ?decline ?leave ?clear ?change
  case board =>
    intro lookup starts new unfired
    exact waited.board queued new _
  case decline =>
    intro lookup
    exact waited.elsewhere (List.subset_append_left _ _) turn.state rfl rfl _
  case leave =>
    intro flight flies
    exact waited.drop queued flies
  case clear =>
    intro clears
    exact waited.elsewhere (List.Subset.refl _) turn.state.clear rfl rfl _
  case change =>
    intro change changes
    exact waited.elsewhere (started_subset_next cache turn (.change change)) turn.state rfl
      rfl _

/-- What becomes of a lookup that waits, whatever happens. -/
theorem hasWaited_after_append
    (cache : Cache)
    (surroundings : Surroundings)
    {past : List Event}
    (waited : HasWaited (cache.after surroundings past) slot ticket ahead)
    (future : List Event) :
    HasWaited (cache.after surroundings (past ++ future)) slot ticket ahead := by
  induction future using List.reverseRecOn with
  | nil => rwa [List.append_nil]
  | append_singleton earlier event inductionHypothesis =>
      rw [← List.append_assoc, after_concat]
      exact (cache.reached_after surroundings (past ++ earlier) [event]).hasWaited_next event
        (cache.span?_of_start surroundings (past ++ earlier) [] event) inductionHypothesis

end Cache
end Switchboard
