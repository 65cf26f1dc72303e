import Switchboard.Proofs.Cache.Order
import Switchboard.Proofs.Cache.Sparing
import Switchboard.Proofs.Channel.Life

/-!
# Caches and their connections

The cache and its connections run side by side: what happens to a connection becomes known to
the cache only through the state that the connection reports.  The states tell which connections
have been dialed, and which ones the cache has closed.
-/

namespace Switchboard

/-- Whether an event reports a state of a connection. -/
def Event.isReport : Event → Bool
  | .change (.report _ _) => true
  | .start _ | .poll _ | .drop _ | .clear
  | .change (.fire _) | .change (.answers _) | .change (.environment _) => false

/-- What can happen to a cache and to the connections that it has made. -/
inductive Occurrence
  /-- Something happens to the cache, or around it but for its connections. -/
  | event (event : Event) (silent : event.isReport = false)
  /-- Something happens to a connection. -/
  | happens (connection : Ticket) (happening : Happening)

namespace Occurrence

/-- Whether an occurrence is a clear of the cache. -/
def isClear : Occurrence → Bool
  | .event given _ => given.isClear
  | .happens _ _ => false

/-- Whether an attempt of a certain connection begins or ends. -/
def isAttemptOf (connection : Ticket) : Occurrence → Bool
  | .event _ _ => false
  | .happens other happening => other == connection && happening.isAttempt

/-- What an occurrence is for the cache: a connection reports what it has come to. -/
def toEvent
    (connections : Ticket → Connection)
    (surroundings : Surroundings) : Occurrence → Event
  | .event given _ => given
  | .happens connection happening =>
      .change (.report connection
        ((connections connection).undergo (surroundings.stateOf connection) happening).state)

end Occurrence

namespace Surroundings

theorem stateOf_report_self
    (surroundings : Surroundings)
    (connection : Ticket)
    (state : Connectivity) :
    (surroundings.report connection state).stateOf connection = state := by
  rw [stateOf, report, Table.find?_set_self, Option.getD_some]

theorem states_apply
    (surroundings : Surroundings)
    {change : Change}
    (silent : (Event.change change).isReport = false) :
    (surroundings.apply change).states = surroundings.states := by
  cases change with
  | report connection state => cases silent
  | fire token => rfl
  | answers answer => rfl
  | environment environment => rfl

theorem stateOf_apply_of_ne
    (surroundings : Surroundings)
    {connection other : Ticket}
    (different : other ≠ connection)
    (state : Connectivity) :
    (surroundings.apply (.report connection state)).stateOf other =
      surroundings.stateOf other := by
  rw [apply]
  split
  · exact surroundings.stateOf_report_of_ne different state
  · rfl

/-- A connection that has been dialed reports what it has come to. -/
theorem stateOf_apply_self
    (surroundings : Surroundings)
    {connection : Ticket}
    (dialed : (surroundings.states.find? connection).isSome)
    (state : Connectivity) :
    (surroundings.apply (.report connection state)).stateOf connection = state := by
  rw [apply, if_pos dialed, stateOf_report_self]

theorem isSome_find?_report
    (surroundings : Surroundings)
    {ticket connection : Ticket}
    (dialed : ticket = connection ∨ (surroundings.states.find? ticket).isSome)
    (state : Connectivity) :
    ((surroundings.report connection state).states.find? ticket).isSome := by
  rw [report]
  by_cases same : ticket = connection
  · rw [same, Table.find?_set_self]
    rfl
  · rw [Table.find?_set_of_ne _ _ same]
    exact dialed.resolve_left same

end Surroundings

namespace Cache

open Trace History

/-- The turn after one more occurrence. -/
def occur
    (cache : Cache)
    (connections : Ticket → Connection)
    (turn : Turn)
    (occurrence : Occurrence) : Turn :=
  cache.next turn (occurrence.toEvent connections turn.surroundings)

/-- The turn to which a sequence of occurrences leads a new cache. -/
def lived
    (cache : Cache)
    (connections : Ticket → Connection)
    (surroundings : Surroundings)
    (occurrences : List Occurrence) : Turn :=
  occurrences.foldl (cache.occur connections) (.fresh surroundings)

variable {cache : Cache} {span : Ticket → Option LookupSpan}
  {now : Nat} {turn next : Turn}

theorem lived_concat
    (cache : Cache)
    (connections : Ticket → Connection)
    (surroundings : Surroundings)
    (past : List Occurrence)
    (occurrence : Occurrence) :
    cache.lived connections surroundings (past ++ [occurrence]) =
      cache.occur connections (cache.lived connections surroundings past) occurrence :=
  List.foldl_concat _ _ _ _

/-- For the cache a sequence of occurrences is a history. -/
theorem exists_history
    (cache : Cache)
    (connections : Ticket → Connection)
    (surroundings : Surroundings)
    (past : List Occurrence) :
    ∃ events, cache.lived connections surroundings past = cache.after surroundings events := by
  induction past using List.reverseRecOn with
  | nil => exact ⟨[], rfl⟩
  | append_singleton past occurrence inductionHypothesis =>
      obtain ⟨events, same⟩ := inductionHypothesis
      refine ⟨events ++ [occurrence.toEvent connections
        (cache.lived connections surroundings past).surroundings], ?_⟩
      rw [lived_concat, occur, after_concat, ← same]

/-- Every sequence of occurrences reaches its last turn, whatever event is next. -/
theorem exists_reached
    (cache : Cache)
    (connections : Ticket → Connection)
    (surroundings : Surroundings)
    (past : List Occurrence)
    (event : Event) :
    ∃ span now, Reached cache span now (cache.lived connections surroundings past) ∧
      ∀ lookup, event = .start lookup →
        lookup.ticket ∉
            (cache.lived connections surroundings past).surroundings.started →
          span lookup.ticket = some ⟨cache.family.resolve lookup.address, now⟩ := by
  obtain ⟨events, same⟩ := cache.exists_history connections surroundings past
  rw [same]
  exact ⟨_, _, cache.reached_after surroundings events [event],
    cache.span?_of_start surroundings events [] event⟩

/-! ## States of connections -/

/-- A lookup closes nothing, and dials and reports nothing but for itself. -/
structure MindsItself
    (turn next : Turn)
    (flight : Flight) : Prop where
  grows : ∃ more, next.effects = turn.effects ++ more
  closes : ∀ connection, WasClosed next.effects connection →
    WasClosed turn.effects connection
  dials : ∀ ticket, HasDialed next.effects ticket →
    HasDialed turn.effects ticket ∨
      ticket = flight.ticket ∧ next.surroundings = turn.surroundings.report ticket .ready
  reports : next.surroundings = turn.surroundings ∨
    ∃ state, next.surroundings = turn.surroundings.report flight.ticket state

theorem mindsItself_of_isIdle
    {flight : Flight}
    {more : List Effect}
    (idle : IsIdle more)
    (done : next.effects = turn.effects ++ more)
    (reports : next.surroundings = turn.surroundings ∨
      ∃ state, next.surroundings = turn.surroundings.report flight.ticket state) :
    MindsItself turn next flight where
  grows := ⟨more, done⟩
  closes := by
    intro connection closed
    rw [done] at closed
    exact (idle.wasClosed_append_iff connection).mp closed
  dials := by
    intro ticket dialed
    rw [done] at dialed
    exact Or.inl ((idle.hasDialed_append_iff ticket).mp dialed)
  reports := reports

/-- At an act a lookup minds itself, or it closes the connection in its slot. -/
theorem Act.mindsItself_or_evicts
    (act : Act cache turn next) :
    (∃ flight ∈ turn.state.flights, MindsItself turn next flight) ∨
      ∃ flight connection, next = Cache.evict turn flight connection := by
  have noted : ∀ notice ticket outcome,
      IsIdle [.notice notice, .returned ticket outcome] := by
    intro notice ticket outcome
    simp [IsIdle, Effect.isIdle]
  cases act with
  | @cancel flight member fired =>
      exact Or.inl ⟨flight, member,
        mindsItself_of_isIdle (isIdle_returned _ _) rfl (Or.inl rfl)⟩
  | @reuse flight connection member waiting owns held reusable =>
      exact Or.inl ⟨flight, member, mindsItself_of_isIdle (noted _ _ _)
        (List.append_assoc _ _ _) (Or.inl rfl)⟩
  | @evict flight connection member waiting owns held stale =>
      exact Or.inr ⟨flight, connection, rfl⟩
  | @refuse flight error member waiting owns empty refused =>
      obtain ⟨asked, quiet, done⟩ := exists_effects_consult cache turn flight
      have refuses : ((cache.consult turn flight).finish flight (.error error)).effects =
          turn.effects ++ (asked ++ [.returned flight.ticket (.error error)]) := by
        rw [← List.append_assoc, ← done]
        rfl
      refine Or.inl ⟨flight, member, mindsItself_of_isIdle ?_ refuses (Or.inl rfl)⟩
      intro effect among
      rcases List.mem_append.mp among with asks | returns
      · exact quiet.isIdle effect asks
      · exact isIdle_returned _ _ effect returns
  | @dial flight config member waiting owns empty prepared =>
      obtain ⟨asked, quiet, done⟩ := exists_effects_consult cache turn flight
      have begun : (Cache.dial (cache.consult turn flight) flight config).effects =
          turn.effects ++ asked ++ [.dialed flight.ticket flight.endpoint config] := by
        rw [← done]
        rfl
      refine Or.inl ⟨flight, member, ?_, ?_, ?_, Or.inr ⟨_, rfl⟩⟩
      · exact ⟨_, begun.trans (List.append_assoc _ _ _)⟩
      · intro connection closed
        rw [begun, wasClosed_append, quiet.isIdle.wasClosed_append_iff] at closed
        refine closed.resolve_right ?_
        rintro ⟨closer, endpoint, state, impossible⟩
        cases List.mem_singleton.mp impossible
      · intro ticket dialed
        rw [begun, hasDialed_append, quiet.isIdle.hasDialed_append_iff] at dialed
        refine dialed.imp_right ?_
        rintro ⟨endpoint, other, own⟩
        cases List.mem_singleton.mp own
        exact ⟨rfl, rfl⟩
  | @fail flight config error member dialing failed =>
      exact Or.inl ⟨flight, member,
        mindsItself_of_isIdle (isIdle_returned _ _) rfl (Or.inl rfl)⟩
  | @establish flight config state? member dialing connected =>
      refine Or.inl ⟨flight, member, mindsItself_of_isIdle (noted _ _ _)
        ((effects_establish turn flight state?).trans (List.append_assoc _ _ _)) ?_⟩
      cases state? with
      | none => exact Or.inl rfl
      | some state => exact Or.inr ⟨state, rfl⟩

/-- The states tell which connections have been dialed, and which ones have been closed. -/
structure StatesTell (turn : Turn) : Prop where
  dialed : ∀ ticket, HasDialed turn.effects ticket →
    (turn.surroundings.states.find? ticket).isSome
  closed : ∀ connection, WasClosed turn.effects connection →
    turn.surroundings.stateOf connection = .shutdown

theorem hasDialed_evict
    (turn : Turn)
    (flight : Flight)
    (connection ticket : Ticket) :
    HasDialed (evict turn flight connection).effects ticket ↔
      HasDialed turn.effects ticket := by
  simp [effects_evict, HasDialed]

theorem wasClosed_evict
    (turn : Turn)
    (flight : Flight)
    (connection other : Ticket) :
    WasClosed (evict turn flight connection).effects other ↔
      WasClosed turn.effects other ∨ other = connection := by
  rw [effects_evict, wasClosed_append,
    (isQuiet_notice _).isIdle.wasClosed_append_iff]
  refine or_congr_right ?_
  simp [WasClosed]

/-- The connection that an act closes is shutdown, and no act reports anything for a
connection that has been closed before. -/
theorem Reached.statesTell_act
    (reached : Reached cache span now turn)
    (act : Act cache turn next)
    (tell : StatesTell turn) :
    StatesTell next := by
  rcases act.mindsItself_or_evicts with
    ⟨flight, member, minds⟩ | ⟨flight, connection, rfl⟩
  · refine ⟨?_, ?_⟩
    · intro ticket dialed
      rcases minds.dials ticket dialed with earlier | ⟨-, reported⟩
      · rcases minds.reports with same | ⟨state, reported⟩
        · exact same ▸ tell.dialed ticket earlier
        · exact reported ▸ turn.surroundings.isSome_find?_report
            (Or.inr (tell.dialed ticket earlier)) state
      · exact reported ▸ turn.surroundings.isSome_find?_report (Or.inl rfl) _
    · intro connection closed
      have earlier := minds.closes connection closed
      rcases minds.reports with same | ⟨state, reported⟩
      · exact same ▸ tell.closed connection earlier
      · have different : connection ≠ flight.ticket := by
          rintro rfl
          exact (reached.deeds.closed _ earlier).2.1 (List.mem_map_of_mem member)
        rw [reported, turn.surroundings.stateOf_report_of_ne different]
        exact tell.closed connection earlier
  · refine ⟨?_, ?_⟩
    · intro ticket dialed
      have earlier := tell.dialed ticket ((hasDialed_evict _ _ _ _).mp dialed)
      exact turn.surroundings.isSome_find?_report (Or.inr earlier) _
    · intro other closed
      by_cases same : other = connection
      · rw [same]
        exact turn.surroundings.stateOf_report_self connection _
      · have earlier := ((wasClosed_evict _ _ _ _).mp closed).resolve_right same
        exact (turn.surroundings.stateOf_report_of_ne same _).trans
          (tell.closed other earlier)

/-- What happens to a connection that has been closed leaves it shutdown. -/
theorem StatesTell.happens
    (tell : StatesTell turn)
    (cache : Cache)
    (connections : Ticket → Connection)
    (connection : Ticket)
    (happening : Happening) :
    StatesTell (cache.occur connections turn (.happens connection happening)) := by
  rw [occur, Occurrence.toEvent, next_change]
  refine ⟨?_, ?_⟩
  · intro ticket dialed
    have earlier := tell.dialed ticket dialed
    rw [Surroundings.apply]
    split
    · exact turn.surroundings.isSome_find?_report (Or.inr earlier) _
    · exact earlier
  · intro other closed
    have shutdown := tell.closed other closed
    by_cases same : other = connection
    · subst same
      rw [shutdown, Connection.state_undergo_shutdown, Surroundings.apply]
      split
      · exact turn.surroundings.stateOf_report_self other _
      · exact shutdown
    · exact (turn.surroundings.stateOf_apply_of_ne same _).trans shutdown

theorem Reached.statesTell_next
    (reached : Reached cache span now turn)
    {event : Event}
    (silent : event.isReport = false)
    (belongs : ∀ lookup, event = .start lookup →
      lookup.ticket ∉ turn.surroundings.started →
        span lookup.ticket = some ⟨cache.family.resolve lookup.address, now⟩)
    (tell : StatesTell turn) :
    StatesTell (cache.next turn event) := by
  refine reached.kept_by_next Reached.statesTell_act event belongs tell
    ?board ?decline ?leave ?clear ?change
  case board =>
    intro lookup starts new unfired
    exact ⟨tell.dialed, tell.closed⟩
  case decline =>
    intro lookup
    have idle := isIdle_returned lookup.ticket
      (.error (.cancelled (cache.family.resolve lookup.address)))
    exact ⟨fun ticket dialed => tell.dialed ticket ((idle.hasDialed_append_iff ticket).mp dialed),
      fun connection closed =>
        tell.closed connection ((idle.wasClosed_append_iff connection).mp closed)⟩
  case leave =>
    intro flight flies
    exact ⟨tell.dialed, tell.closed⟩
  case clear =>
    rintro rfl
    have idle := (isQuiet_notice (.clearing turn.state.places.size cache.family)).isIdle
    exact ⟨fun ticket dialed => tell.dialed ticket ((idle.hasDialed_append_iff ticket).mp dialed),
      fun connection closed =>
        tell.closed connection ((idle.wasClosed_append_iff connection).mp closed)⟩
  case change =>
    rintro change rfl
    have same := turn.surroundings.states_apply silent
    rw [next_change]
    refine ⟨?_, ?_⟩
    · intro ticket dialed
      exact same ▸ tell.dialed ticket dialed
    · intro connection closed
      rw [Surroundings.stateOf, same]
      exact tell.closed connection closed

/-- At every time the states tell which connections have been dialed and closed. -/
theorem statesTell_lived
    (cache : Cache)
    (connections : Ticket → Connection)
    (surroundings : Surroundings)
    (past : List Occurrence) :
    StatesTell (cache.lived connections surroundings past) := by
  induction past using List.reverseRecOn with
  | nil =>
      refine ⟨?_, ?_⟩
      · rintro ticket ⟨endpoint, config, member⟩
        exact absurd member List.not_mem_nil
      · rintro connection ⟨closer, endpoint, state, member⟩
        exact absurd member List.not_mem_nil
  | append_singleton past occurrence inductionHypothesis =>
      rw [lived_concat]
      cases occurrence with
      | event event silent =>
          obtain ⟨span, now, reached, belongs⟩ :=
            cache.exists_reached connections surroundings past event
          exact reached.statesTell_next silent belongs inductionHypothesis
      | happens connection happening =>
          exact inductionHypothesis.happens cache connections connection happening

end Cache
end Switchboard
