import Switchboard.Proofs.Cache.Grounds

/-!
# Which lookups are under way

The lookups under way are in the order of their starts.  Only a start with a new number
adds one, at the end; whatever else happens takes lookups out and leaves the others as they
are.  So each lookup under way is the one that the history has started under its number.
-/

namespace Switchboard
namespace CacheState

/-- The lookups under way, in the order in which they were started. -/
def lookups (state : CacheState) : List Lookup :=
  state.flights.map (·.lookup)

theorem inFlight_eq_lookups (state : CacheState) :
    state.inFlight = state.lookups.map (·.ticket) := by
  rw [inFlight, lookups, List.map_map]
  rfl

/-- A dial that begins changes no lookup. -/
@[simp]
theorem lookups_markDialing
    (state : CacheState)
    (flight : Flight)
    (config : DialConfig) :
    (state.markDialing flight config).lookups = state.lookups := by
  rw [lookups, lookups, flights_markDialing, List.map_map]
  apply List.map_congr_left
  intro other _
  exact other.lookup_whenDialing flight config

theorem lookups_board
    (state : CacheState)
    (lookup : Lookup)
    (endpoint : String) :
    (state.board lookup endpoint).1.lookups = state.lookups ++ [lookup] := by
  rw [lookups, flights_board, List.map_append, board_snd]
  rfl

/-- A lookup that departs leaves the others in their order. -/
theorem Departs.lookups_sublist
    {state next : CacheState}
    {flight : Flight}
    {kept? : Option Ticket}
    (departs : state.Departs flight kept? next) :
    next.lookups.Sublist state.lookups := by
  rw [lookups, departs.flights]
  exact List.filter_sublist.map _

end CacheState

namespace Cache

open History
open Relation (ReflTransGen)

variable {cache : Cache} {span : Ticket → Option LookupSpan} {now : Nat} {turn : Turn}

/-- No lookup gets under way by an act. -/
theorem Act.lookups_sublist
    {next : Turn}
    (act : Act cache turn next)
    (queued : turn.state.Queued turn.surroundings.started) :
    next.state.lookups.Sublist turn.state.lookups := by
  obtain ⟨flight, -, change⟩ := act.state_cases queued
  rcases change with ⟨kept?, departs, -⟩ | emptied | ⟨config, dials, -, -⟩
  · exact departs.lookups_sublist
  · rw [emptied]
    exact List.Sublist.refl _
  · rw [dials, CacheState.lookups_markDialing]

/-- No act brings a lookup in. -/
theorem Reached.lookups_sublist_of_acts
    {next : Turn}
    (reached : Reached cache span now turn)
    (acts : ReflTransGen (Act cache) turn next) :
    next.state.lookups.Sublist turn.state.lookups := by
  induction acts with
  | refl => exact List.Sublist.refl _
  | tail before act inductionHypothesis =>
      have queued := (reached.acts before).queued
      exact (act.lookups_sublist queued).trans inductionHypothesis

/-- Only a lookup that is started with a new number gets under way, and it comes last. -/
theorem Reached.lookups_next
    (reached : Reached cache span now turn)
    (event : Event)
    (belongs : ∀ lookup, event = .start lookup →
      lookup.ticket ∉ turn.surroundings.started →
        span lookup.ticket = some ⟨cache.family.resolve lookup.address, now⟩) :
    (cache.next turn event).state.lookups.Sublist turn.state.lookups ∨
      ∃ lookup, event = .start lookup ∧ lookup.ticket ∉ turn.surroundings.started ∧
        (cache.next turn event).state.lookups.Sublist
          (turn.state.lookups ++ [lookup]) := by
  cases event with
  | start lookup =>
      by_cases known : lookup.ticket ∈ turn.surroundings.started
      · rw [next_start_of_mem known]
        exact Or.inl (List.Sublist.refl _)
      · cases fired : turn.surroundings.hasFired lookup.token? with
        | true =>
            rw [next_start_of_fired known fired]
            exact Or.inl (List.Sublist.refl _)
        | false =>
            right
            refine ⟨lookup, rfl, known, ?_⟩
            have boarded := Reached.board reached known (belongs lookup rfl known)
            have polls : cache.Polls turn (.start lookup) _ _ := .first known fired
            rw [next_start_of_unfired known fired, ← turn.state.lookups_board lookup
              (cache.family.resolve lookup.address)]
            exact boarded.lookups_sublist_of_acts (advance_acts polls.mem_flights)
  | poll ticket =>
      left
      cases found : turn.state.flight? ticket with
      | none => rw [next_poll_of_none found]
      | some flight =>
          rw [next_poll_of_some found]
          exact reached.lookups_sublist_of_acts
            (advance_acts (CacheState.flight?_eq_some found).1)
  | drop ticket =>
      left
      cases found : turn.state.flight? ticket with
      | none => rw [next_drop_of_none found]
      | some flight =>
          rw [next_drop_of_some found]
          exact (turn.state.departs_leave flight).lookups_sublist
  | clear => exact Or.inl (List.Sublist.refl _)
  | change change => exact Or.inl (List.Sublist.refl _)

/-- A lookup under way is the one that the history has started under its number. -/
theorem lookup?_of_mem_flights
    (cache : Cache)
    (surroundings : Surroundings)
    (events : List Event) :
    ∀ flight ∈ (cache.after surroundings events).state.flights,
      lookup? events flight.ticket = some flight.lookup := by
  suffices known : ∀ lookup ∈ (cache.after surroundings events).state.lookups,
      lookup? events lookup.ticket = some lookup by
    intro flight member
    exact known flight.lookup (List.mem_map_of_mem member)
  induction events using List.reverseRecOn with
  | nil =>
      intro lookup member
      exact absurd member List.not_mem_nil
  | append_singleton past event inductionHypothesis =>
      have reached := cache.reached_after surroundings past [event]
      have stays : ∀ lookup ∈ (cache.after surroundings past).state.lookups,
          lookup? (past ++ [event]) lookup.ticket = some lookup := by
        intro lookup member
        rw [lookup?_append, inductionHypothesis lookup member, Option.some_or]
      intro lookup member
      rw [after_concat] at member
      rcases reached.lookups_next event (cache.span?_of_start surroundings past [] event)
        with fewer | ⟨started, rfl, new, more⟩
      · exact stays lookup (fewer.subset member)
      · have either := more.subset member
        rw [List.mem_append, List.mem_singleton] at either
        rcases either with old | rfl
        · exact stays lookup old
        · have unknown : lookup? past lookup.ticket = none := by
            by_contra known
            exact new (mem_started_of_lookup? cache surroundings
              (Option.isSome_iff_ne_none.mpr known))
          rw [lookup?_append, unknown, Option.none_or, lookup?_singleton, Event.startOf?,
            if_pos rfl]

end Cache
end Switchboard
