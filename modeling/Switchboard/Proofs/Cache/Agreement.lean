import Switchboard.Proofs.Cache.Parallel
import Switchboard.Proofs.Cache.Reached

/-!
# Agreement on some of the lookups

Two turns agree on a set of lookups if they show the same to all of them.  If the set has
whole spans only, then the lookups in it have slots and connections in it.  So a lookup in
the set does the same in both turns, and whatever any other lookup does leaves the turns in
agreement.
-/

namespace Switchboard

/-- Whether an effect is one of the lookups in a set. -/
def Effect.isOf
    (effect : Effect)
    (keep : Ticket → Bool) : Bool :=
  effect.ticket?.any keep

theorem filter_isOf_eq_nil
    {keep : Ticket → Bool}
    {ticket : Ticket}
    {effects : List Effect}
    (unkept : keep ticket = false)
    (own : AreOf ticket effects) :
    effects.filter (·.isOf keep) = [] := by
  rw [List.filter_eq_nil_iff]
  intro effect member kept
  obtain ⟨other, named, isKept⟩ := (Option.any_eq_true _ _).mp kept
  rw [own effect member other named, unkept] at isKept
  cases isKept

namespace Cache

/-- Two turns show the same to the lookups in a set. -/
structure Agreement
    (keep : Ticket → Bool)
    (turn other : Turn) : Prop where
  /-- The variables are the same. -/
  environment : other.surroundings.environment = turn.surroundings.environment
  /-- The same tokens have fired. -/
  fired : other.surroundings.fired = turn.surroundings.fired
  /-- Dials stand in the same way. -/
  answer : other.surroundings.answer = turn.surroundings.answer
  /-- The connections that the lookups have dialed report the same states. -/
  states : ∀ connection, keep connection = true →
    other.surroundings.states.find? connection = turn.surroundings.states.find? connection
  /-- The slots that the lookups have made hold the same connections and have the same
  locks. -/
  slots : ∀ number, keep number = true → other.state.slotAt number = turn.state.slotAt number
  /-- The same lookups are under way and have come equally far. -/
  flights : other.state.flights.filter (keep ·.ticket) =
    turn.state.flights.filter (keep ·.ticket)
  /-- The lookups have asked, dialed, closed and returned the same. -/
  effects : other.effects.filter (·.isOf keep) = turn.effects.filter (·.isOf keep)

namespace Agreement

variable {keep : Ticket → Bool} {turn other third : Turn}

theorem refl
    (keep : Ticket → Bool)
    (turn : Turn) :
    Agreement keep turn turn :=
  ⟨rfl, rfl, rfl, fun _ _ => rfl, fun _ _ => rfl, rfl, rfl⟩

theorem symm (agree : Agreement keep turn other) : Agreement keep other turn where
  environment := agree.environment.symm
  fired := agree.fired.symm
  answer := agree.answer.symm
  states := fun connection kept => (agree.states connection kept).symm
  slots := fun number kept => (agree.slots number kept).symm
  flights := agree.flights.symm
  effects := agree.effects.symm

theorem trans
    (agree : Agreement keep turn other)
    (further : Agreement keep other third) :
    Agreement keep turn third where
  environment := further.environment.trans agree.environment
  fired := further.fired.trans agree.fired
  answer := further.answer.trans agree.answer
  states := fun connection kept =>
    (further.states connection kept).trans (agree.states connection kept)
  slots := fun number kept => (further.slots number kept).trans (agree.slots number kept)
  flights := further.flights.trans agree.flights
  effects := further.effects.trans agree.effects

/-- A lookup of the set is found under its number in both turns or in none. -/
theorem flight?_eq
    (agree : Agreement keep turn other)
    {ticket : Ticket}
    (kept : keep ticket = true) :
    other.state.flight? ticket = turn.state.flight? ticket := by
  have restrict : ∀ flights : List Flight,
      flights.find? (·.ticket = ticket) =
        (flights.filter (keep ·.ticket)).find? (·.ticket = ticket) := by
    intro flights
    rw [List.find?_filter]
    congr 1
    ext flight
    by_cases named : flight.ticket = ticket <;> simp [named, kept]
  rw [CacheState.flight?, CacheState.flight?, restrict, agree.flights, ← restrict]

theorem stateOf_eq
    (agree : Agreement keep turn other)
    {connection : Ticket}
    (kept : keep connection = true) :
    other.surroundings.stateOf connection = turn.surroundings.stateOf connection := by
  rw [Surroundings.stateOf, Surroundings.stateOf, agree.states connection kept]

theorem hasFired_eq
    (agree : Agreement keep turn other)
    (token? : Option Token) :
    other.surroundings.hasFired token? = turn.surroundings.hasFired token? := by
  rw [Surroundings.hasFired, Surroundings.hasFired, agree.fired]

/-! ## What lookups of the set do -/

/-- Both turns learn that a connection reports a state. -/
theorem report
    (agree : Agreement keep turn other)
    (connection : Ticket)
    (state : Connectivity) :
    Agreement keep (turn.report connection state) (other.report connection state) where
  environment := agree.environment
  fired := agree.fired
  answer := agree.answer
  states := by
    intro dialed kept
    change (other.surroundings.states.set _ _).find? _ =
      (turn.surroundings.states.set _ _).find? _
    by_cases same : dialed = connection
    · subst same
      rw [Table.find?_set_self, Table.find?_set_self]
    · rw [Table.find?_set_of_ne _ _ same, Table.find?_set_of_ne _ _ same,
        agree.states dialed kept]
  slots := agree.slots
  flights := agree.flights
  effects := agree.effects

theorem record
    (agree : Agreement keep turn other)
    (effects : List Effect) :
    Agreement keep (turn.record effects) (other.record effects) where
  environment := agree.environment
  fired := agree.fired
  answer := agree.answer
  states := agree.states
  slots := agree.slots
  flights := agree.flights
  effects := by
    change (other.effects ++ effects).filter _ = (turn.effects ++ effects).filter _
    rw [List.filter_append, List.filter_append, agree.effects]

theorem fill
    (agree : Agreement keep turn other)
    {number : Ticket}
    (connection? : Option Ticket) 
    (kept : keep number = true) :
    Agreement keep { turn with state := turn.state.fill number connection? }
      { other with state := other.state.fill number connection? } where
  environment := agree.environment
  fired := agree.fired
  answer := agree.answer
  states := agree.states
  slots := by
    intro slot slotKept
    change (other.state.fill _ _).slotAt _ = (turn.state.fill _ _).slotAt _
    rw [CacheState.slotAt_fill, CacheState.slotAt_fill, agree.slots slot slotKept,
      agree.slots number kept]
  flights := agree.flights
  effects := agree.effects

theorem markDialing
    (agree : Agreement keep turn other)
    (flight : Flight)
    (config : DialConfig) :
    Agreement keep { turn with state := turn.state.markDialing flight config }
      { other with state := other.state.markDialing flight config } where
  environment := agree.environment
  fired := agree.fired
  answer := agree.answer
  states := agree.states
  slots := agree.slots
  flights := by
    change (other.state.markDialing _ _).flights.filter _ =
      (turn.state.markDialing _ _).flights.filter _
    rw [CacheState.flights_markDialing, CacheState.flights_markDialing, List.filter_map,
      List.filter_map]
    simp only [Function.comp_def, Flight.ticket_whenDialing]
    rw [agree.flights]
  effects := agree.effects

theorem leave
    (agree : Agreement keep turn other)
    {flight : Flight}
    (kept : keep flight.slot = true) :
    Agreement keep { turn with state := turn.state.leave flight }
      { other with state := other.state.leave flight } where
  environment := agree.environment
  fired := agree.fired
  answer := agree.answer
  states := agree.states
  slots := by
    intro number numberKept
    change (other.state.leave flight).slotAt _ = (turn.state.leave flight).slotAt _
    rw [(other.state.departs_leave flight).slots, (turn.state.departs_leave flight).slots,
      agree.slots number numberKept, agree.slots flight.slot kept]
  flights := by
    change (other.state.leave flight).flights.filter _ =
      (turn.state.leave flight).flights.filter _
    rw [(other.state.departs_leave flight).flights, (turn.state.departs_leave flight).flights,
      List.filter_comm, agree.flights, List.filter_comm]
  effects := agree.effects

end Agreement

variable {keep : Ticket → Bool} {turn other : Turn}

/-- Two turns agree on a set, and a slot holds a connection of the set if it holds any. -/
def AgreeAt
    (keep : Ticket → Bool)
    (number : Ticket)
    (turn other : Turn) : Prop :=
  Agreement keep turn other ∧
    ∀ connection, (turn.state.slotAt number).connection? = some connection →
      keep connection = true

/-- A lookup of the set does the same in both turns. -/
theorem parallel_agreeAt
    {flight : Flight}
    (kept : keep flight.ticket = true)
    (slotKept : keep flight.slot = true) :
    Parallel (AgreeAt keep flight.slot) flight flight where
  ticket := rfl
  endpoint := rfl
  slot := rfl
  authorizer := rfl
  environment := fun related => related.1.environment
  answer := fun related => related.1.answer
  slotAt := fun related => related.1.slots flight.slot slotKept
  stateOf := fun related held => related.1.stateOf_eq (related.2 _ held)
  record := fun related effects _ => ⟨related.1.record effects, related.2⟩
  report := fun related connection state _ =>
    ⟨related.1.report connection state, related.2⟩
  fill := by
    intro turn other related connection? own
    refine ⟨related.1.fill connection? slotKept, ?_⟩
    intro connection held
    change ((turn.state.fill flight.slot connection?).slotAt flight.slot).connection? = _
      at held
    rw [CacheState.slotAt_fill, if_pos rfl] at held
    rw [own connection held]
    exact kept
  markDialing := fun related config => ⟨related.1.markDialing flight config, related.2⟩
  leave := by
    intro turn other related
    refine ⟨related.1.leave slotKept, ?_⟩
    intro connection held
    change ((turn.state.leave flight).slotAt flight.slot).connection? = _ at held
    rw [(turn.state.departs_leave flight).connection?, if_pos rfl] at held
    exact related.2 connection held

/-! ## What other lookups do -/

namespace Agreement

theorem report_beside
    {connection : Ticket}
    (unkept : keep connection = false)
    (turn : Turn)
    (state : Connectivity) :
    Agreement keep turn (turn.report connection state) where
  environment := rfl
  fired := rfl
  answer := rfl
  states := by
    intro dialed kept
    have different : dialed ≠ connection := by
      rintro rfl
      rw [unkept] at kept
      cases kept
    exact Table.find?_set_of_ne _ _ different
  slots := fun _ _ => rfl
  flights := rfl
  effects := rfl

theorem record_beside
    {ticket : Ticket}
    {effects : List Effect}
    (unkept : keep ticket = false)
    (own : AreOf ticket effects)
    (turn : Turn) :
    Agreement keep turn (turn.record effects) where
  environment := rfl
  fired := rfl
  answer := rfl
  states := fun _ _ => rfl
  slots := fun _ _ => rfl
  flights := rfl
  effects := by
    change (turn.effects ++ effects).filter _ = _
    rw [List.filter_append, filter_isOf_eq_nil unkept own, List.append_nil]

/-- Nothing but the state of the cache is another one, and in it nothing but slots and lookups
that are not in the set. -/
theorem of_state
    {state : CacheState}
    (slots : ∀ number, keep number = true →
      state.slotAt number = turn.state.slotAt number)
    (flights : state.flights.filter (keep ·.ticket) =
      turn.state.flights.filter (keep ·.ticket)) :
    Agreement keep turn { turn with state } where
  environment := rfl
  fired := rfl
  answer := rfl
  states := fun _ _ => rfl
  slots := slots
  flights := flights
  effects := rfl

theorem fill_beside
    {number : Ticket}
    (unkept : keep number = false)
    (turn : Turn)
    (connection? : Option Ticket) :
    Agreement keep turn { turn with state := turn.state.fill number connection? } := by
  apply of_state
  · intro slot kept
    rw [CacheState.slotAt_fill, if_neg]
    rintro rfl
    rw [unkept] at kept
    cases kept
  · rfl

theorem markDialing_beside
    {flight : Flight}
    (unkept : keep flight.ticket = false)
    (turn : Turn)
    (config : DialConfig) :
    Agreement keep turn { turn with state := turn.state.markDialing flight config } := by
  apply of_state
  · intro slot kept
    rfl
  · rw [CacheState.flights_markDialing, List.filter_map]
    simp only [Function.comp_def, Flight.ticket_whenDialing]
    refine (List.map_congr_left fun other member => ?_).trans (List.map_id _)
    apply Flight.whenDialing_of_ne
    intro same
    have kept := (List.mem_filter.mp member).2
    rw [same, unkept] at kept
    cases kept

theorem leave_beside
    {flight : Flight}
    (unkept : keep flight.ticket = false)
    (slotUnkept : keep flight.slot = false)
    (turn : Turn) :
    Agreement keep turn { turn with state := turn.state.leave flight } := by
  apply of_state
  · intro slot kept
    rw [(turn.state.departs_leave flight).slots, if_neg]
    rintro rfl
    rw [slotUnkept] at kept
    cases kept
  · rw [(turn.state.departs_leave flight).flights, List.filter_filter]
    apply List.filter_congr
    intro other _
    by_cases same : other.ticket = flight.ticket
    · simp [same, unkept]
    · simp [same]

end Agreement

/-- A turn agrees with an earlier one on a set, and a slot holds no connection of the set. -/
def AgreesBeside
    (keep : Ticket → Bool)
    (number : Ticket)
    (origin turn other : Turn) : Prop :=
  other = turn ∧ Agreement keep origin turn ∧
    ∀ connection, (turn.state.slotAt number).connection? = some connection →
      keep connection = false

/-- What another lookup does leaves a turn in agreement. -/
theorem parallel_agreesBeside
    {flight : Flight}
    (unkept : keep flight.ticket = false)
    (slotUnkept : keep flight.slot = false)
    (origin : Turn) :
    Parallel (AgreesBeside keep flight.slot origin) flight flight where
  ticket := rfl
  endpoint := rfl
  slot := rfl
  authorizer := rfl
  environment := by
    rintro turn other ⟨rfl, -⟩
    rfl
  answer := by
    rintro turn other ⟨rfl, -⟩
    rfl
  slotAt := by
    rintro turn other ⟨rfl, -⟩
    rfl
  stateOf := by
    rintro turn other connection ⟨rfl, -⟩ held
    rfl
  record := by
    rintro turn other ⟨rfl, agree, lacks⟩ effects own
    exact ⟨rfl, agree.trans (.record_beside unkept own _), lacks⟩
  report := by
    rintro turn other ⟨rfl, agree, lacks⟩ connection state own
    refine ⟨rfl, agree.trans (.report_beside ?_ _ state), lacks⟩
    rcases own with rfl | held
    · exact unkept
    · exact lacks connection held
  fill := by
    rintro turn other ⟨rfl, agree, lacks⟩ connection? own
    refine ⟨rfl, agree.trans (.fill_beside slotUnkept _ connection?), ?_⟩
    intro connection held
    change ((other.state.fill flight.slot connection?).slotAt flight.slot).connection? = _
      at held
    rw [CacheState.slotAt_fill, if_pos rfl] at held
    rw [own connection held]
    exact unkept
  markDialing := by
    rintro turn other ⟨rfl, agree, lacks⟩ config
    exact ⟨rfl, agree.trans (.markDialing_beside unkept _ config), lacks⟩
  leave := by
    rintro turn other ⟨rfl, agree, lacks⟩
    refine ⟨rfl, agree.trans (.leave_beside unkept slotUnkept _), ?_⟩
    intro connection held
    change ((other.state.leave flight).slotAt flight.slot).connection? = _ at held
    rw [(other.state.departs_leave flight).connection?, if_pos rfl] at held
    exact lacks connection held

/-! ## Events -/

/-- A set of lookups has whole spans only. -/
def HasWholeSpans
    (keep : Ticket → Bool)
    (span : Ticket → Option LookupSpan) : Prop :=
  ∀ left right home, span left = some home → span right = some home →
    keep left = keep right

variable {cache : Cache} {span : Ticket → Option LookupSpan} {now : Nat}

/-- A lookup under way is in the set exactly when its slot is. -/
theorem Reached.keep_slot
    (reached : Reached cache span now turn)
    (whole : HasWholeSpans keep span)
    {flight : Flight}
    (member : flight ∈ turn.state.flights) :
    keep flight.slot = keep flight.ticket := by
  obtain ⟨epoch, own, slot⟩ := reached.charted.flights_span flight member
  exact whole _ _ _ slot own

/-- A connection is in the set exactly when its slot is. -/
theorem Reached.keep_connection
    (reached : Reached cache span now turn)
    (whole : HasWholeSpans keep span)
    {number connection : Ticket}
    (held : (turn.state.slotAt number).connection? = some connection) :
    keep connection = keep number := by
  obtain ⟨home, slot, own⟩ := reached.charted.connections_span number connection held
  exact whole _ _ _ own slot

/-- A poll of a lookup that is not in the set leaves a turn in agreement. -/
theorem Reached.agreement_advance
    (reached : Reached cache span now turn)
    (whole : HasWholeSpans keep span)
    {flight : Flight}
    (member : flight ∈ turn.state.flights)
    (unkept : keep flight.ticket = false) :
    Agreement keep turn (cache.advance turn flight) := by
  have slotUnkept := (reached.keep_slot whole member).trans unkept
  have beside : AgreesBeside keep flight.slot turn turn turn := by
    refine ⟨rfl, .refl keep turn, ?_⟩
    intro connection held
    exact (reached.keep_connection whole held).trans slotUnkept
  have advanced := (parallel_agreesBeside unkept slotUnkept turn).advance beside cache rfl rfl
  exact advanced.2.1

/-- An event of a lookup that is not in the set leaves a turn in agreement. -/
theorem Reached.agreement_next
    (reached : Reached cache span now turn)
    (whole : HasWholeSpans keep span)
    {event : Event}
    (belongs : ∀ lookup, event = .start lookup →
      lookup.ticket ∉ turn.surroundings.started →
        span lookup.ticket = some ⟨cache.family.resolve lookup.address, now⟩)
    {ticket : Ticket}
    (unkept : keep ticket = false)
    (named : event = .poll ticket ∨ event = .drop ticket ∨
      ∃ lookup, event = .start lookup ∧ lookup.ticket = ticket) :
    Agreement keep turn (cache.next turn event) := by
  rcases named with rfl | rfl | ⟨lookup, rfl, rfl⟩
  · cases found : turn.state.flight? ticket with
    | none =>
        rw [next_poll_of_none found]
        exact .refl keep turn
    | some flight =>
        obtain ⟨member, rfl⟩ := CacheState.flight?_eq_some found
        rw [next_poll_of_some found]
        exact reached.agreement_advance whole member unkept
  · cases found : turn.state.flight? ticket with
    | none =>
        rw [next_drop_of_none found]
        exact .refl keep turn
    | some flight =>
        obtain ⟨member, rfl⟩ := CacheState.flight?_eq_some found
        rw [next_drop_of_some found]
        exact .leave_beside unkept ((reached.keep_slot whole member).trans unkept) turn
  · by_cases known : lookup.ticket ∈ turn.surroundings.started
    · rw [next_start_of_mem known]
      exact .refl keep turn
    · have registered : Agreement keep turn
          ⟨turn.surroundings.register lookup.ticket, turn.state, turn.effects⟩ :=
        ⟨rfl, rfl, rfl, fun _ _ => rfl, fun _ _ => rfl, rfl, rfl⟩
      cases fired : turn.surroundings.hasFired lookup.token? with
      | true =>
          rw [next_start_of_fired known fired]
          exact registered.trans (.record_beside unkept (areOf_returned _ _) _)
      | false =>
          have inSpan := belongs lookup rfl known
          have boarded := Reached.board reached known inSpan
          have member := turn.state.mem_flights_board lookup
            (cache.family.resolve lookup.address)
          have flightUnkept : keep (turn.state.board lookup
              (cache.family.resolve lookup.address)).2.ticket = false := by
            rw [CacheState.board_snd]
            exact unkept
          rw [next_start_of_unfired known fired]
          refine .trans ?_ (boarded.agreement_advance whole member flightUnkept)
          -- The lookup boards at a slot of its own span.
          have berth := reached.charted.span_berth inSpan
          have berthUnkept := (whole _ _ _ berth inSpan).trans unkept
          refine registered.trans (.of_state ?_ ?_)
          · intro number kept
            rw [CacheState.slotAt_board (reached.queued.slotAt_eq_vacant known), if_neg]
            rintro rfl
            rw [berthUnkept] at kept
            cases kept
          · rw [CacheState.flights_board, List.filter_append]
            simp [flightUnkept]

/-- A poll or drop of a lookup that is not in the set leaves a turn in agreement. -/
theorem Reached.agreement_beside
    (reached : Reached cache span now turn)
    (whole : HasWholeSpans keep span)
    {ticket : Ticket}
    (unkept : keep ticket = false)
    {event : Event}
    (named : event = .poll ticket ∨ event = .drop ticket) :
    Agreement keep turn (cache.next turn event) := by
  refine reached.agreement_next whole ?_ unkept (named.imp_right Or.inl)
  rintro lookup rfl
  rcases named with same | same <;> cases same

/-- A change of the surroundings leaves two turns in agreement. -/
theorem Agreement.change
    (agree : Agreement keep turn other)
    (change : Change) :
    Agreement keep { turn with surroundings := turn.surroundings.apply change }
      { other with surroundings := other.surroundings.apply change } := by
  cases change with
  | report connection state =>
      have applies : ∀ turn : Turn,
          { turn with surroundings := turn.surroundings.apply (.report connection state) } =
            if (turn.surroundings.states.find? connection).isSome then
              turn.report connection state
            else turn := by
        intro turn
        rw [Surroundings.apply]
        split <;> rfl
      rw [applies, applies]
      cases kept : keep connection with
      | true =>
          rw [agree.states connection kept]
          split
          · exact agree.report connection state
          · exact agree
      | false =>
          -- What an unkept connection reports is not seen in either turn.
          have unseen : ∀ turn : Turn, Agreement keep turn
              (if (turn.surroundings.states.find? connection).isSome then
                turn.report connection state
              else turn) := by
            intro turn
            split
            · exact .report_beside kept turn state
            · exact .refl keep turn
          exact (unseen turn).symm.trans (agree.trans (unseen other))
  | fire token =>
      exact { agree with fired := congrArg (token :: ·) agree.fired }
  | answers answer => exact { agree with answer := rfl }
  | environment environment => exact { agree with environment := rfl }

/-- A poll of a lookup in the set leaves two turns in agreement. -/
theorem Reached.agreement_poll
    (reached : Reached cache span now turn)
    (whole : HasWholeSpans keep span)
    (agree : Agreement keep turn other)
    {ticket : Ticket}
    (kept : keep ticket = true) :
    Agreement keep (cache.next turn (.poll ticket)) (cache.next other (.poll ticket)) := by
  have same := agree.flight?_eq kept
  cases found : turn.state.flight? ticket with
  | none =>
      rw [next_poll_of_none found, next_poll_of_none (same.trans found)]
      exact agree
  | some flight =>
      obtain ⟨member, rfl⟩ := CacheState.flight?_eq_some found
      have slotKept := (reached.keep_slot whole member).trans kept
      have agreeAt : AgreeAt keep flight.slot turn other := by
        refine ⟨agree, ?_⟩
        intro connection held
        exact (reached.keep_connection whole held).trans slotKept
      rw [next_poll_of_some found, next_poll_of_some (same.trans found)]
      exact ((parallel_agreeAt kept slotKept).advance agreeAt cache rfl
        (agree.hasFired_eq _)).1

/-- A drop of a lookup in the set leaves two turns in agreement. -/
theorem Reached.agreement_drop
    (reached : Reached cache span now turn)
    (whole : HasWholeSpans keep span)
    (agree : Agreement keep turn other)
    {ticket : Ticket}
    (kept : keep ticket = true) :
    Agreement keep (cache.next turn (.drop ticket)) (cache.next other (.drop ticket)) := by
  have same := agree.flight?_eq kept
  cases found : turn.state.flight? ticket with
  | none =>
      rw [next_drop_of_none found, next_drop_of_none (same.trans found)]
      exact agree
  | some flight =>
      obtain ⟨member, rfl⟩ := CacheState.flight?_eq_some found
      rw [next_drop_of_some found, next_drop_of_some (same.trans found)]
      exact agree.leave ((reached.keep_slot whole member).trans kept)

/-- A clear leaves two turns in agreement. -/
theorem Agreement.clear
    (agree : Agreement keep turn other)
    (cache : Cache) :
    Agreement keep (cache.next turn .clear) (cache.next other .clear) where
  environment := agree.environment
  fired := agree.fired
  answer := agree.answer
  states := agree.states
  slots := agree.slots
  flights := agree.flights
  effects := by
    have silent : ∀ notice : Notice, [Effect.notice notice].filter (·.isOf keep) = [] :=
      fun _ => rfl
    change (other.effects ++ [_]).filter _ = (turn.effects ++ [_]).filter _
    rw [List.filter_append, List.filter_append, silent, silent, agree.effects]

end Cache
end Switchboard
