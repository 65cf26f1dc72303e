import Switchboard.Proofs.Cache.Service

/-!
# How lookups end

A lookup ends once, and is not under way afterwards.  A connection is handed out only to
lookups of its span, and only after the lookup that dialed it has got it.
-/

namespace Switchboard
namespace CacheState

open Cache

/-- What the trace tells of the lookups that have ended. -/
structure Endings
    (state : CacheState)
    (span : Ticket → Option LookupSpan)
    (started : List Ticket)
    (effects : List Effect) : Prop where
  /-- A lookup that has ended has been started and is not under way. -/
  gone : ∀ ticket, HasEnded effects ticket → ticket ∈ started ∧ ticket ∉ state.inFlight
  /-- A lookup has one outcome at most. -/
  once : ∀ ticket one other, .returned ticket one ∈ effects →
    .returned ticket other ∈ effects → one = other
  /-- A connection that has been handed out has been handed out to the lookup that dialed
  it. -/
  dialer : ∀ receiver connection, .returned receiver (.ok connection) ∈ effects →
    .returned connection (.ok connection) ∈ effects
  /-- A lookup gets a connection of its own span. -/
  home : ∀ receiver connection, .returned receiver (.ok connection) ∈ effects →
    span connection = span receiver

theorem endings_empty
    (span : Ticket → Option LookupSpan)
    (started : List Ticket) :
    empty.Endings span started [] where
  gone := by
    rintro ticket ⟨outcome, member⟩
    exact absurd member List.not_mem_nil
  once := by
    intro ticket one other member
    exact absurd member List.not_mem_nil
  dialer := by
    intro receiver connection member
    exact absurd member List.not_mem_nil
  home := by
    intro receiver connection member
    exact absurd member List.not_mem_nil

namespace Endings

variable {span : Ticket → Option LookupSpan} {started : List Ticket}
  {state next : CacheState} {effects more : List Effect}

theorem mono
    (endings : state.Endings span started effects)
    {larger : List Ticket}
    (grown : started ⊆ larger) :
    state.Endings span larger effects where
  gone := fun ticket ended => (endings.gone ticket ended).imp_left (grown ·)
  once := endings.once
  dialer := endings.dialer
  home := endings.home

/-- Nobody ends, and nobody gets under way who has been started before. -/
theorem silent
    (endings : state.Endings span started effects)
    (silent : ∀ ticket outcome, .returned ticket outcome ∉ more)
    (inFlight : ∀ ticket ∈ started, ticket ∈ next.inFlight → ticket ∈ state.inFlight) :
    next.Endings span started (effects ++ more) := by
  have returned_iff : ∀ ticket outcome, .returned ticket outcome ∈ effects ++ more ↔
      .returned ticket outcome ∈ effects := by
    intro ticket outcome
    rw [List.mem_append, or_iff_left (silent ticket outcome)]
  constructor
  case gone =>
    rintro ticket ⟨outcome, member⟩
    obtain ⟨known, landed⟩ := endings.gone ticket ⟨outcome, (returned_iff _ _).mp member⟩
    exact ⟨known, fun flies => landed (inFlight ticket known flies)⟩
  all_goals simp only [returned_iff]
  case once => exact endings.once
  case dialer => exact endings.dialer
  case home => exact endings.home

/-- Nobody gets under way who has been started before. -/
theorem of_inFlight
    (endings : state.Endings span started effects)
    (inFlight : ∀ ticket ∈ started, ticket ∈ next.inFlight → ticket ∈ state.inFlight) :
    next.Endings span started effects := by
  rw [← List.append_nil effects]
  exact endings.silent (fun _ _ => List.not_mem_nil) inFlight

/-- A lookup with a new number boards. -/
theorem board
    (endings : state.Endings span started effects)
    {lookup : Lookup}
    (new : lookup.ticket ∉ started)
    (endpoint : String) :
    (state.board lookup endpoint).1.Endings span (started ++ [lookup.ticket]) effects := by
  refine mono (of_inFlight endings ?_) (List.subset_append_left _ _)
  intro ticket known flies
  rw [inFlight_board, List.mem_append, List.mem_singleton] at flies
  rcases flies with old | rfl
  · exact old
  · exact absurd known new

/-- A lookup ends that has not ended before and is not under way any more. -/
theorem ends
    (endings : state.Endings span started effects)
    {ticket : Ticket}
    {outcome : Outcome}
    (known : ticket ∈ started)
    (first : ¬HasEnded effects ticket)
    (landed : ticket ∉ next.inFlight)
    (inFlight : next.inFlight ⊆ state.inFlight)
    (own : ∀ connection, outcome = .ok connection →
      span connection = span ticket ∧
        (connection = ticket ∨ .returned connection (.ok connection) ∈ effects)) :
    next.Endings span started (effects ++ [.returned ticket outcome]) := by
  have returned_iff : ∀ other result,
      .returned other result ∈ effects ++ [.returned ticket outcome] ↔
        .returned other result ∈ effects ∨ other = ticket ∧ result = outcome := by
    intro other result
    rw [List.mem_append, List.mem_singleton, Effect.returned.injEq]
  constructor
  case gone =>
    rintro other ⟨result, member⟩
    rcases (returned_iff _ _).mp member with earlier | ⟨rfl, -⟩
    · obtain ⟨started, ended⟩ := endings.gone other ⟨result, earlier⟩
      exact ⟨started, fun flies => ended (inFlight flies)⟩
    · exact ⟨known, landed⟩
  all_goals simp only [returned_iff]
  case once =>
    rintro other one two (oneEarlier | ⟨rfl, rfl⟩) (twoEarlier | ⟨same, rfl⟩)
    · exact endings.once other one two oneEarlier twoEarlier
    · subst same
      exact absurd ⟨one, oneEarlier⟩ first
    · exact absurd ⟨two, twoEarlier⟩ first
    · rfl
  case dialer =>
    rintro receiver connection (earlier | ⟨rfl, same⟩)
    · exact Or.inl (endings.dialer receiver connection earlier)
    · rcases (own connection same.symm).2 with rfl | before
      · exact Or.inr ⟨rfl, same⟩
      · exact Or.inl before
  case home =>
    rintro receiver connection (earlier | ⟨rfl, same⟩)
    · exact endings.home receiver connection earlier
    · exact (own connection same.symm).1

/-- A lookup under way ends and departs. -/
theorem departs
    (endings : state.Endings span started effects)
    (queued : state.Queued started)
    {flight : Flight}
    {kept? : Option Ticket}
    {outcome : Outcome}
    (member : flight ∈ state.flights)
    (departs : state.Departs flight kept? next)
    (own : ∀ connection, outcome = .ok connection →
      span connection = span flight.ticket ∧
        (connection = flight.ticket ∨ .returned connection (.ok connection) ∈ effects)) :
    next.Endings span started (effects ++ [.returned flight.ticket outcome]) := by
  have flies : flight.ticket ∈ state.inFlight := List.mem_map_of_mem member
  apply endings.ends (queued.flights_started flight member).1 ?_ ?_ ?_ own
  · intro ended
    exact (endings.gone flight.ticket ended).2 flies
  · rw [departs.inFlight]
    simp
  · rw [departs.inFlight]
    exact List.filter_sublist.subset

end Endings
end CacheState

namespace Cache

open CacheState

variable {cache : Cache} {span : Ticket → Option LookupSpan} {now : Nat} {turn : Turn}

theorem Reached.endings_act
    {next : Turn}
    (reached : Reached cache span now turn)
    (act : Act cache turn next)
    (endings : turn.state.Endings span turn.surroundings.started turn.effects) :
    next.state.Endings span turn.surroundings.started next.effects := by
  have queued := reached.queued
  have charted := reached.charted
  have noted : ∀ notice, turn.state.Endings span turn.surroundings.started
      (turn.effects ++ [.notice notice]) := by
    intro notice
    exact endings.silent (by simp) fun _ _ flies => flies
  have asked : ∀ flight, turn.state.Endings span turn.surroundings.started
      (cache.consult turn flight).effects := by
    intro flight
    exact endings.silent (by simp) fun _ _ flies => flies
  cases act with
  | @cancel flight member fired =>
      exact endings.departs queued member (turn.state.departs_leave flight) nofun
  | @reuse flight connection member waiting owns held reusable =>
      refine (noted _).departs queued member (turn.state.departs_leave flight) ?_
      intro other same
      obtain rfl : connection = other := Except.ok.inj same
      obtain ⟨home, slot, own⟩ := charted.connections_span _ _ held
      refine ⟨?_, Or.inr (List.mem_append_left _ (reached.keeping.held _ _ held))⟩
      rw [own, ← slot, charted.span_slot member]
  | @evict flight connection member waiting owns held stale =>
      rw [effects_evict, List.append_assoc]
      exact endings.silent (by simp) fun _ _ flies => flies
  | @refuse flight error member waiting owns empty refused =>
      exact (asked flight).departs queued member (turn.state.departs_leave flight) nofun
  | @dial flight config member waiting owns empty prepared =>
      apply (asked flight).silent (by simp)
      intro ticket _ flies
      change ticket ∈ (turn.state.markDialing flight config).inFlight at flies
      rwa [inFlight_markDialing] at flies
  | @fail flight config error member dialing failed =>
      exact endings.departs queued member (turn.state.departs_leave flight) nofun
  | @establish flight config state? member dialing connected =>
      rw [effects_establish]
      refine (noted _).departs queued member (turn.state.departs_fill_leave flight _) ?_
      intro connection same
      obtain rfl : flight.ticket = connection := Except.ok.inj same
      exact ⟨rfl, Or.inl rfl⟩

/-- At every moment the trace tells how the lookups have ended. -/
theorem Reached.endings
    (reached : Reached cache span now turn) :
    turn.state.Endings span turn.surroundings.started turn.effects := by
  induction reached with
  | fresh surroundings => exact endings_empty span _
  | elsewhere _ surroundings grown endings => exact endings.mono grown
  | @decline now turn lookup before new fired belongs endings =>
      have queued := before.queued
      refine (endings.mono (List.subset_append_left _ _)).ends List.mem_concat_self ?_ ?_
        (List.Subset.refl _) nofun
      · intro ended
        exact new (endings.gone lookup.ticket ended).1
      · intro flies
        obtain ⟨flight, member, same⟩ := List.mem_map.mp flies
        exact new (same ▸ (queued.flights_started flight member).1)
  | board _ new belongs endings => exact endings.board new _
  | act before act endings =>
      rw [act.started_eq]
      exact before.endings_act act endings
  | @drop now turn flight before member endings =>
      apply endings.of_inFlight
      intro ticket _ flies
      rw [(turn.state.departs_leave flight).inFlight] at flies
      exact List.mem_of_mem_filter flies
  | @clear now turn before endings =>
      apply endings.silent
      · intro ticket outcome
        simp [Cache.clear]
      · exact fun _ _ flies => flies

end Cache
end Switchboard
