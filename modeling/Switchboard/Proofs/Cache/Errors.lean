import Switchboard.Proofs.Cache.Attempt
import Switchboard.Proofs.Cache.Endings
import Switchboard.Proofs.Cache.Lookups
import Switchboard.Proofs.Cache.Succession
import Switchboard.Proofs.Preparation

/-!
# Errors

An error belongs to the lookup that ends with it: its own authorizer has refused, its own dial
has failed, or its own token has fired.  Nothing is stored for such a lookup.
-/

namespace Switchboard

/-- An authorizer answers a question with an error. -/
def Authorizer.Refuses
    (authorizer : Authorizer)
    (error : ConnectError) : Question → Prop
  | .transport => authorizer.transport = .error error
  | .call => authorizer.call = .error error

/-- A preparation fails only with an error that the authorizer has answered when asked. -/
theorem Family.exists_refuses
    {family : Family}
    {authorizer : Authorizer}
    {debugMode : Bool}
    {timeouts : Timeouts}
    {error : ConnectError}
    (refused : (family.prepare authorizer debugMode timeouts).outcome = .error error) :
    ∃ question ∈ (family.prepare authorizer debugMode timeouts).questions,
      authorizer.Refuses error question := by
  rcases of_prepare_eq_error refused with
    ⟨transport, unprotected⟩ | ⟨rfl, ⟨settings, transport⟩, call⟩
  · refine ⟨.transport, ?_, transport⟩
    cases family with
    | agent =>
        rw [unprotected rfl, prepare_agent_false]
        exact List.mem_singleton_self _
    | authentication =>
        rw [prepare_authentication_of_error transport]
        exact List.mem_singleton_self _
  · refine ⟨.call, ?_, call⟩
    rw [prepare_authentication_of_ok transport]
    exact List.mem_cons_of_mem _ (List.mem_singleton_self _)

namespace Cache

open History Trace

/-- An error of a lookup is its own, in certain surroundings and after certain effects. -/
inductive OwnError
    (cache : Cache)
    (surroundings : Surroundings)
    (effects : List Effect)
    (lookup : Lookup)
    (error : ConnectError) : Prop
  /-- The lookup's authorizer has answered so when it was asked, and the lookup has not
  dialed. -/
  | refused
      {question : Question}
      (asked : .consulted lookup.ticket question ∈ effects)
      (refuses : lookup.authorizer.Refuses error question)
      (undialed : ¬HasDialed effects lookup.ticket)
  /-- The lookup has dialed its endpoint, and the dial fails so. -/
  | failed
      {config : DialConfig}
      (dialed : .dialed lookup.ticket (cache.family.resolve lookup.address) config ∈ effects)
      (fails : surroundings.answer (cache.family.resolve lookup.address) config =
        .failed error)
  /-- The lookup's token has fired. -/
  | cancelled
      (fired : surroundings.hasFired lookup.token? = true)
      (same : error = .cancelled (cache.family.resolve lookup.address))

variable {cache : Cache} {span : Ticket → Option LookupSpan} {now : Nat} {turn : Turn}
  {surroundings : Surroundings} {past future : List Event} {event : Event}

/-! ## Who has dialed -/

theorem Reached.dialed_act
    {next : Turn}
    (reached : Reached cache span now turn)
    (act : Act cache turn next)
    (dialed : ∀ flight ∈ turn.state.flights, ∀ config, flight.phase = .dialing config →
      .dialed flight.ticket flight.endpoint config ∈ turn.effects) :
    ∀ flight ∈ next.state.flights, ∀ config, flight.phase = .dialing config →
      .dialed flight.ticket flight.endpoint config ∈ next.effects := by
  have departed : ∀ {flight : Flight} {kept? : Option Ticket} {state : CacheState},
      turn.state.Departs flight kept? state → ∀ other ∈ state.flights, ∀ config,
        other.phase = .dialing config →
          .dialed other.ticket other.endpoint config ∈ next.effects := by
    intro flight kept? state departs other member config dialing
    exact act.effects_subset (dialed other (departs.mem_flights_iff.mp member).1 config dialing)
  cases act with
  | @cancel flight member fired => exact departed (turn.state.departs_leave flight)
  | @reuse flight connection member waiting owns held reusable =>
      exact departed (turn.state.departs_leave flight)
  | @evict flight connection member waiting owns held stale =>
      intro other otherMember config dialing
      exact List.mem_append_left _ (dialed other otherMember config dialing)
  | @refuse flight error member waiting owns empty refused =>
      exact departed (turn.state.departs_leave flight)
  | @dial flight begun member waiting owns empty prepared =>
      intro other otherMember config dialing
      change other ∈ (turn.state.markDialing flight begun).flights at otherMember
      rw [CacheState.flights_markDialing, List.mem_map] at otherMember
      obtain ⟨before, beforeMember, rfl⟩ := otherMember
      by_cases own : before.ticket = flight.ticket
      · obtain rfl := reached.queued.eq_of_ticket_eq beforeMember member own
        rw [Flight.whenDialing, if_pos rfl] at dialing ⊢
        obtain rfl := Phase.dialing.inj dialing
        exact List.mem_concat_self
      · rw [Flight.whenDialing_of_ne own] at dialing ⊢
        exact List.mem_append_left _ (List.mem_append_left _
          (dialed before beforeMember config dialing))
  | @fail flight config error member dialing failed =>
      exact departed (turn.state.departs_leave flight)
  | @establish flight config state? member dialing connected =>
      exact departed (turn.state.departs_fill_leave flight _)

/-- At every moment a lookup that is dialing has dialed its endpoint so. -/
theorem Reached.dialed
    (reached : Reached cache span now turn) :
    ∀ flight ∈ turn.state.flights, ∀ config, flight.phase = .dialing config →
      .dialed flight.ticket flight.endpoint config ∈ turn.effects := by
  induction reached with
  | fresh surroundings =>
      intro flight member
      exact absurd member List.not_mem_nil
  | elsewhere _ surroundings grown dialed => exact dialed
  | decline _ new fired belongs dialed =>
      intro flight member config dialing
      exact List.mem_append_left _ (dialed flight member config dialing)
  | @board now turn lookup _ new belongs dialed =>
      intro flight member config dialing
      change flight ∈ (turn.state.board _ _).1.flights at member
      rw [CacheState.flights_board, CacheState.board_snd, List.mem_append,
        List.mem_singleton] at member
      rcases member with old | rfl
      · exact dialed flight old config dialing
      · cases dialing
  | act before act dialed => exact before.dialed_act act dialed
  | @drop now turn flight _ member dialed =>
      intro other otherMember config dialing
      have departs := turn.state.departs_leave flight
      exact dialed other (departs.mem_flights_iff.mp otherMember).1 config dialing
  | clear _ dialed =>
      intro flight member config dialing
      exact List.mem_append_left _ (dialed flight member config dialing)

/-- A lookup that is queued has not dialed. -/
theorem Reached.not_hasDialed
    (reached : Reached cache span now turn)
    {flight : Flight}
    (member : flight ∈ turn.state.flights)
    (waiting : flight.phase = .queued) :
    ¬HasDialed turn.effects flight.ticket := by
  intro dialed
  have dialing := (reached.deeds.dialed flight.ticket dialed).2 flight member rfl
  rw [Flight.isDialing, waiting] at dialing
  cases dialing

/-- A lookup that has ended without having dialed never dials. -/
theorem not_hasDialed_after_append
    {ticket : Ticket}
    (ended : HasEnded (cache.after surroundings past).effects ticket)
    (undialed : ¬HasDialed (cache.after surroundings past).effects ticket)
    (future : List Event) :
    ¬HasDialed (cache.after surroundings (past ++ future)).effects ticket := by
  induction future using List.reverseRecOn with
  | nil => rwa [List.append_nil]
  | append_singleton earlier event inductionHypothesis =>
      rw [← List.append_assoc, after_concat, effects_next, hasDialed_append]
      rintro (before | ⟨endpoint, config, dials⟩)
      · exact inductionHypothesis before
      · have reached := cache.reached_after surroundings (past ++ earlier) [event]
        rcases grounds_step dials with
          ⟨moment, flight, polls, rfl, -⟩ | ⟨lookup, -, -, impossible⟩ | ⟨notice, impossible⟩
        · have flies := polls.reached reached
            (cache.span?_of_start surroundings (past ++ earlier) [] event)
          have endedThen : HasEnded moment.effects flight.ticket := by
            obtain ⟨outcome, returned⟩ := ended
            rw [polls.effects_eq, after_append]
            exact ⟨outcome, effects_subset_run cache _ earlier returned⟩
          exact (flies.endings.gone flight.ticket endedThen).2
            (List.mem_map_of_mem polls.mem_flights)
        · cases impossible
        · cases impossible

/-! ## Polls that end with errors -/

variable {moment : Turn} {flight : Flight}

/-- A lookup with a new number is the one that a history starts under it. -/
theorem lookup?_start
    {lookup : Lookup}
    (new : lookup.ticket ∉ (cache.after surroundings past).surroundings.started)
    (future : List Event) :
    lookup? (past ++ .start lookup :: future) lookup.ticket = some lookup := by
  have unknown : lookup? past lookup.ticket = none := by
    by_contra known
    exact new (mem_started_of_lookup? cache surroundings
      (Option.isSome_iff_ne_none.mpr known))
  rw [lookup?_append, unknown, Option.none_or, ← List.singleton_append, lookup?_append,
    lookup?_singleton, Event.startOf?, if_pos rfl, Option.some_or]

/-- A lookup that is polled is the one that the history has started under its number. -/
theorem Polls.lookup?_eq
    (polls : cache.Polls (cache.after surroundings past) event moment flight)
    (future : List Event) :
    lookup? (past ++ event :: future) flight.ticket = some flight.lookup := by
  cases polls with
  | again member =>
      rw [lookup?_append, cache.lookup?_of_mem_flights surroundings past flight member,
        Option.some_or]
  | @first lookup new unfired =>
      rw [CacheState.board_snd]
      exact lookup?_start new future

/-- What an attempt does that the authorizer refuses. -/
theorem ownAttempt_of_error
    {surroundings : Surroundings}
    {lookup : Lookup}
    {error : ConnectError}
    (refused : (cache.prepare surroundings.environment lookup.authorizer).outcome =
      .error error)
    (endpoint : String) :
    (∃ question, .consulted lookup.ticket question ∈
        cache.ownAttempt surroundings lookup endpoint ∧
          lookup.authorizer.Refuses error question) ∧
      ∀ ticket, ¬HasDialed (cache.ownAttempt surroundings lookup endpoint) ticket := by
  rw [ownAttempt, refused]
  constructor
  · obtain ⟨question, asked, refuses⟩ := Family.exists_refuses refused
    refine ⟨question, ?_, refuses⟩
    exact List.mem_append_left _ (List.mem_append_left _ (List.mem_map_of_mem asked))
  · rintro ticket ⟨other, config, member⟩
    simp at member

/-- An attempt dials as its dial has been prepared. -/
theorem mem_ownAttempt_of_ok
    {surroundings : Surroundings}
    {lookup : Lookup}
    {config : DialConfig}
    (prepared : (cache.prepare surroundings.environment lookup.authorizer).outcome =
      .ok config)
    (endpoint : String) :
    .dialed lookup.ticket endpoint config ∈
      cache.ownAttempt surroundings lookup endpoint := by
  rw [ownAttempt, prepared]
  exact List.mem_append_right _ List.mem_cons_self

/-- Nothing is dialed to empty a slot. -/
theorem not_hasDialed_evictions
    (surroundings : Surroundings)
    (state : CacheState)
    (flight : Flight)
    (ticket : Ticket) :
    ¬HasDialed (evictions surroundings state flight) ticket := by
  rintro ⟨endpoint, config, member⟩
  unfold evictions at member
  split at member <;> simp at member

/-- A lookup that is polled and ends with an error ends with an error of its own. -/
theorem Polls.ownError
    (polls : cache.Polls (cache.after surroundings past) event moment flight)
    {error : ConnectError}
    (ends : cache.Ends moment.surroundings moment.state flight (.error error))
    (returned : .returned flight.ticket (.error error) ∈
      (cache.after surroundings (past ++ [event])).effects)
    (future : List Event) :
    cache.OwnError (cache.after surroundings past).surroundings
      (cache.after surroundings (past ++ event :: future)).effects flight.lookup error := by
  have before := cache.reached_after surroundings past [event]
  have reached := polls.reached before (cache.span?_of_start surroundings past [] event)
  have endpoint := reached.endpoint_eq flight polls.mem_flights
  have next : cache.after surroundings (past ++ [event]) = cache.advance moment flight := by
    rw [after_concat]
    exact polls.next_eq before.queued.distinct
  have whole : past ++ event :: future = past ++ [event] ++ future := by
    rw [List.append_assoc, List.singleton_append]
  have grown : (cache.advance moment flight).effects ⊆
      (cache.after surroundings (past ++ event :: future)).effects := by
    rw [whole, after_append, next]
    exact effects_subset_run cache _ future
  rcases ends with ⟨fired, same⟩ | ⟨redials, refused⟩ | ⟨config, awaits, failed⟩
  · rw [polls.surroundings_eq] at fired
    exact .cancelled fired (endpoint ▸ same)
  · obtain ⟨⟨question, asked, refuses⟩, undialed⟩ :=
      ownAttempt_of_error refused flight.endpoint
    refine .refused (grown ?_) refuses ?_
    · rw [redials.effects_advance]
      exact List.mem_append_right _ asked
    · rw [whole]
      apply not_hasDialed_after_append ⟨_, returned⟩
      rw [next, redials.effects_advance, hasDialed_append, hasDialed_append]
      rintro ((earlier | evicts) | dials)
      · exact reached.not_hasDialed polls.mem_flights redials.enters.waiting earlier
      · exact not_hasDialed_evictions _ _ _ _ evicts
      · exact undialed _ dials
  · rw [polls.surroundings_eq, endpoint] at failed
    refine .failed ?_ failed
    rw [← endpoint]
    rcases awaits with dialing | ⟨redials, prepared⟩
    · have dialed := reached.dialed flight polls.mem_flights config dialing
      rw [polls.effects_eq] at dialed
      rw [after_append]
      exact effects_subset_run cache _ _ dialed
    · apply grown
      rw [redials.effects_advance]
      exact List.mem_append_right _ (mem_ownAttempt_of_ok prepared flight.endpoint)

/-- A lookup that ends with an error ends with an error of its own. -/
theorem exists_ownError
    {ticket : Ticket}
    {error : ConnectError}
    (returned : .returned ticket (.error error) ∈
      (cache.step (cache.after surroundings past).surroundings
        (cache.after surroundings past).state event).effects)
    (future : List Event) :
    ∃ lookup, lookup? (past ++ event :: future) ticket = some lookup ∧
      cache.OwnError (cache.after surroundings past).surroundings
        (cache.after surroundings (past ++ event :: future)).effects lookup error := by
  rcases grounds_step returned with
    ⟨moment, flight, polls, rfl, ends⟩ | ⟨lookup, rfl, fired, same⟩ | ⟨notice, impossible⟩
  · refine ⟨flight.lookup, polls.lookup?_eq future, polls.ownError ends ?_ future⟩
    rw [after_concat, effects_next]
    exact List.mem_append_right _ returned
  · obtain ⟨rfl, cancelled⟩ := Effect.returned.inj same
    have new : lookup.ticket ∉ (cache.after surroundings past).surroundings.started := by
      intro known
      let silent : Turn := { cache.after surroundings past with effects := [] }
      have idle : cache.next silent (.start lookup) = silent := next_start_of_mem known
      have nothing : (cache.step (cache.after surroundings past).surroundings
          (cache.after surroundings past).state (.start lookup)).effects = [] :=
        congrArg Turn.effects idle
      rw [nothing] at returned
      exact List.not_mem_nil returned
    exact ⟨lookup, lookup?_start new future, .cancelled fired (Except.error.inj cancelled)⟩
  · cases impossible

/-- Nothing is stored for a lookup that ends with an error, and nobody gets a connection from
it. -/
theorem stores_nothing
    {ticket : Ticket}
    {error : ConnectError}
    (returned : .returned ticket (.error error) ∈
      (cache.after surroundings (past ++ future)).effects) :
    (∀ number, ((cache.after surroundings past).state.slotAt number).connection? ≠
        some ticket) ∧
      ∀ receiver, .returned receiver (.ok ticket) ∉ (cache.after surroundings past).effects := by
  have reached := cache.reached_end surroundings (past ++ future)
  have grown : (cache.after surroundings past).effects ⊆
      (cache.after surroundings (past ++ future)).effects := by
    rw [after_append]
    exact effects_subset_run cache _ future
  have unestablished : .returned ticket (.ok ticket) ∉
      (cache.after surroundings past).effects := by
    intro established
    have same := reached.endings.once ticket _ _ returned (grown established)
    cases same
  constructor
  · intro number held
    exact unestablished ((cache.reached_end surroundings past).keeping.held number ticket held)
  · intro receiver got
    exact unestablished
      ((cache.reached_end surroundings past).endings.dialer receiver ticket got)

end Cache
end Switchboard
