import Switchboard.Client
import Switchboard.Proofs.Cache.Inquiry
import Switchboard.Proofs.Cache.Lookups

/-!
# The two caches of a client

Each cache of a client goes through a history of its own, in which what the other cache does
is something that happens elsewhere.  So whatever holds at every moment of a cache holds of
both caches of a client.  A lookup belongs to the family in which it is started first, and
the other cache never has to do with it.
-/

namespace Switchboard

/-- The turn in which the caches of a new client have done nothing yet. -/
def ClientTurn.fresh (surroundings : Surroundings) : ClientTurn :=
  ⟨surroundings, .empty, []⟩

/-- What the cache of a family has done. -/
def effectsIn
    (effects : List (Family × Effect))
    (family : Family) : List Effect :=
  effects.filterMap fun (other, effect) => if other = family then some effect else none

/-- What is seen of a client at the cache of a family. -/
def ClientTurn.view
    (turn : ClientTurn)
    (family : Family) : Turn :=
  ⟨turn.surroundings, turn.state.of family, effectsIn turn.effects family⟩

/-- The family in which an event starts a lookup. -/
def ClientEvent.familyOf? (ticket : Ticket) : ClientEvent → Option Family
  | .start family other _ _ => if other = ticket then some family else none
  | .poll _ | .drop _ | .clearOne _ | .clear | .change _ => none

namespace Client

open Cache History

/-- The turn to which a history brings a new client. -/
def after
    (client : Client)
    (surroundings : Surroundings)
    (events : List ClientEvent) : ClientTurn :=
  client.run (.fresh surroundings) events

theorem after_concat
    (client : Client)
    (surroundings : Surroundings)
    (past : List ClientEvent)
    (event : ClientEvent) :
    client.after surroundings (past ++ [event]) =
      client.next (client.after surroundings past) event := by
  rw [after, run, List.foldl_append]
  rfl

/-- What an event is for the cache of a family. -/
def at?
    (client : Client)
    (family : Family) : ClientEvent → Option Event
  | .start other ticket address token? =>
      if other = family then
        some (.start ⟨ticket, address, client.authorizer ticket, token?⟩)
      else none
  | .poll ticket => some (.poll ticket)
  | .drop ticket => some (.drop ticket)
  | .clearOne other => if other = family then some .clear else none
  | .clear => some .clear
  | .change change => some (.change change)

/-- The history of a family's cache. -/
def historyOf
    (client : Client)
    (family : Family)
    (events : List ClientEvent) : List Event :=
  events.filterMap (client.at? family)

/-- The family in which a lookup is started first. -/
def familyOf?
    (events : List ClientEvent)
    (ticket : Ticket) : Option Family :=
  events.findSome? (·.familyOf? ticket)

variable {client : Client} {family : Family}

/-! ## Events at one cache -/

theorem mem_effectsIn
    {effects : List (Family × Effect)}
    {effect : Effect} :
    effect ∈ effectsIn effects family ↔ (family, effect) ∈ effects := by
  simp [effectsIn]

theorem effectsIn_append
    (effects : List (Family × Effect))
    (family other : Family)
    (more : List Effect) :
    effectsIn (effects ++ more.map (other, ·)) family =
      effectsIn effects family ++ if other = family then more else [] := by
  rw [effectsIn, effectsIn, List.filterMap_append, List.filterMap_map]
  congr 1
  by_cases same : other = family
  · simp [same]
  · simp [same]

theorem of_replace
    (state : ClientState)
    (family other : Family)
    (part : CacheState) :
    (state.replace other part).of family =
      if other = family then part else state.of family := by
  cases other <;> cases family <;> rfl

/-- A cache does at an event what it does without the other one. -/
theorem view_stepOne
    (client : Client)
    (family : Family)
    (turn : ClientTurn)
    (event : Event) :
    (client.stepOne family turn event).view family =
      (client.cacheOf family).next (turn.view family) event := by
  rw [stepOne, ClientTurn.view, of_replace, effectsIn_append, if_pos rfl, if_pos rfl]
  rfl

/-- For the other cache it is something that happens elsewhere. -/
theorem view_stepOne_of_ne
    (client : Client)
    {family other : Family}
    (different : other ≠ family)
    (turn : ClientTurn)
    (event : Event) :
    (client.stepOne other turn event).view family =
      { turn.view family with
        surroundings := (client.stepOne other turn event).surroundings } := by
  rw [ClientTurn.view, stepOne, of_replace, effectsIn_append, if_neg different,
    if_neg different, List.append_nil]
  rfl

theorem started_subset_stepOne
    (client : Client)
    (family : Family)
    (turn : ClientTurn)
    (event : Event) :
    turn.surroundings.started ⊆ (client.stepOne family turn event).surroundings.started :=
  started_subset_next (client.cacheOf family) (turn.view family) event

/-! ## Events at both caches -/

/-- An event that is none for a cache is something that happens elsewhere. -/
theorem view_next_of_none
    (turn : ClientTurn)
    {event : ClientEvent}
    (missing : client.at? family event = none) :
    (client.next turn event).view family =
        { turn.view family with surroundings := (client.next turn event).surroundings } ∧
      turn.surroundings.started ⊆ (client.next turn event).surroundings.started := by
  cases event with
  | start other ticket address token? =>
      have different : other ≠ family := by
        rintro rfl
        simp [at?] at missing
      exact ⟨view_stepOne_of_ne client different turn _, started_subset_stepOne client _ _ _⟩
  | poll ticket => cases missing
  | drop ticket => cases missing
  | clearOne other =>
      have different : other ≠ family := by
        rintro rfl
        simp [at?] at missing
      exact ⟨view_stepOne_of_ne client different turn _, started_subset_stepOne client _ _ _⟩
  | clear => cases missing
  | change change => cases missing

/-- A cache goes from one turn to another by an event; before and after it something may
happen elsewhere. -/
def Steps
    (cache : Cache)
    (event : Event)
    (turn next : Turn) : Prop :=
  ∃ before after,
    turn.surroundings.started ⊆ before.started ∧
      (cache.next { turn with surroundings := before } event).surroundings.started ⊆
        after.started ∧
      next = { cache.next { turn with surroundings := before } event with
        surroundings := after }

theorem steps_next
    (cache : Cache)
    (turn : Turn)
    (event : Event) :
    Steps cache event turn (cache.next turn event) :=
  ⟨_, _, List.Subset.refl _, List.Subset.refl _, rfl⟩

theorem steps_stepBoth
    (client : Client)
    (family : Family)
    (turn : ClientTurn)
    (event : Event) :
    Steps (client.cacheOf family) event (turn.view family)
      ((client.stepBoth turn event).view family) := by
  cases family with
  | agent =>
      have different : Family.authentication ≠ .agent := nofun
      have first := client.view_stepOne .agent turn event
      have second := client.view_stepOne_of_ne different (client.stepOne .agent turn event)
        event
      rw [first] at second
      refine ⟨turn.surroundings, _, List.Subset.refl _, ?_, second⟩
      change ((client.cacheOf .agent).next (turn.view .agent) event).surroundings.started ⊆ _
      rw [← first]
      exact started_subset_stepOne client .authentication _ event
  | authentication =>
      have different : Family.agent ≠ .authentication := nofun
      have first := client.view_stepOne_of_ne different turn event
      have second := client.view_stepOne .authentication (client.stepOne .agent turn event)
        event
      rw [first] at second
      exact ⟨_, _, started_subset_stepOne client .agent turn event, List.Subset.refl _,
        second⟩

/-- What an event is for a cache happens to the cache. -/
theorem steps_of_at?
    (turn : ClientTurn)
    {event : ClientEvent}
    {step : Event}
    (found : client.at? family event = some step) :
    Steps (client.cacheOf family) step (turn.view family)
      ((client.next turn event).view family) := by
  cases event with
  | start other ticket address token? =>
      rw [at?, Option.ite_none_right_eq_some, Option.some.injEq] at found
      obtain ⟨rfl, rfl⟩ := found
      rw [next, view_stepOne]
      exact steps_next _ _ _
  | poll ticket =>
      obtain rfl := Option.some.inj found
      exact steps_stepBoth client family turn _
  | drop ticket =>
      obtain rfl := Option.some.inj found
      exact steps_stepBoth client family turn _
  | clearOne other =>
      rw [at?, Option.ite_none_right_eq_some, Option.some.injEq] at found
      obtain ⟨rfl, rfl⟩ := found
      rw [next, view_stepOne]
      exact steps_next _ _ _
  | clear =>
      obtain rfl := Option.some.inj found
      exact steps_stepBoth client family turn _
  | change change =>
      obtain rfl := Option.some.inj found
      have same : (client.next turn (.change change)).view family =
          (client.cacheOf family).next (turn.view family) (.change change) := by
        rw [next_change]
        rfl
      rw [same]
      exact steps_next _ _ _

/-- Only a start in its own family starts a lookup in a cache. -/
theorem at?_eq_start
    {event : ClientEvent}
    {lookup : Lookup}
    (found : client.at? family event = some (.start lookup)) :
    event = .start family lookup.ticket lookup.address lookup.token? ∧
      lookup.authorizer = client.authorizer lookup.ticket := by
  cases event with
  | start other ticket address token? =>
      rw [at?, Option.ite_none_right_eq_some, Option.some.injEq, Event.start.injEq] at found
      obtain ⟨rfl, rfl⟩ := found
      exact ⟨rfl, rfl⟩
  | poll ticket => cases found
  | drop ticket => cases found
  | clearOne other =>
      rw [at?, Option.ite_none_right_eq_some, Option.some.injEq] at found
      cases found.2
  | clear => cases found
  | change change => cases found

/-! ## Lookups that have been started -/

theorem started_subset_next
    (client : Client)
    (turn : ClientTurn)
    (event : ClientEvent) :
    turn.surroundings.started ⊆ (client.next turn event).surroundings.started := by
  cases found : client.at? .agent event with
  | none => exact (view_next_of_none turn found).2
  | some step =>
      obtain ⟨before, after, grown, grownAfter, same⟩ := steps_of_at? turn found
      have started := congrArg (·.surroundings.started) same
      change (client.next turn event).surroundings.started = after.started at started
      rw [started]
      have grownBetween := Cache.started_subset_next (client.cacheOf .agent)
        { turn.view .agent with surroundings := before } step
      exact List.Subset.trans (List.Subset.trans grown grownBetween) grownAfter

/-- Every number under which a history starts a lookup counts as started. -/
theorem mem_started_of_familyOf?
    (client : Client)
    (surroundings : Surroundings)
    {events : List ClientEvent}
    {ticket : Ticket}
    (known : (familyOf? events ticket).isSome) :
    ticket ∈ (client.after surroundings events).surroundings.started := by
  induction events using List.reverseRecOn with
  | nil => simp [familyOf?] at known
  | append_singleton past event inductionHypothesis =>
      rw [after_concat]
      rw [familyOf?, List.findSome?_append, Option.isSome_or, Bool.or_eq_true] at known
      rcases known with before | starts
      · exact started_subset_next client _ event (inductionHypothesis before)
      · rw [List.findSome?_singleton] at starts
        cases event with
        | start family other address token? =>
            have same : other = ticket := by
              by_contra different
              simp [ClientEvent.familyOf?, different] at starts
            subst same
            have started := started_next_start (client.cacheOf family)
              ((client.after surroundings past).view family)
              ⟨other, address, client.authorizer other, token?⟩
            change other ∈ ((client.cacheOf family).next
              ((client.after surroundings past).view family) _).surroundings.started
            rw [started]
            split
            · assumption
            · exact List.mem_concat_self
        | poll other => simp [ClientEvent.familyOf?] at starts
        | drop other => simp [ClientEvent.familyOf?] at starts
        | clearOne family => simp [ClientEvent.familyOf?] at starts
        | clear => simp [ClientEvent.familyOf?] at starts
        | change change => simp [ClientEvent.familyOf?] at starts

/-- A lookup that the history of a cache starts is started by the client. -/
theorem isSome_familyOf?_of_historyOf
    {events : List ClientEvent}
    {ticket : Ticket}
    (known : (lookup? (client.historyOf family events) ticket).isSome) :
    (familyOf? events ticket).isSome := by
  obtain ⟨lookup, found⟩ := Option.isSome_iff_exists.mp known
  obtain ⟨step, member, starts⟩ := List.exists_of_findSome?_eq_some found
  obtain ⟨event, eventMember, isStep⟩ := List.mem_filterMap.mp member
  cases step with
  | start other =>
      rw [Event.startOf?, Option.ite_none_right_eq_some, Option.some.injEq] at starts
      obtain ⟨rfl, rfl⟩ := starts
      obtain ⟨rfl, -⟩ := at?_eq_start isStep
      rw [familyOf?, List.findSome?_isSome_iff]
      exact ⟨_, eventMember, by simp [ClientEvent.familyOf?]⟩
  | poll other => cases starts
  | drop other => cases starts
  | clear => cases starts
  | change change => cases starts

/-! ## Moments of both caches -/

theorem historyOf_append
    (client : Client)
    (family : Family)
    (past future : List ClientEvent) :
    client.historyOf family (past ++ future) =
      client.historyOf family past ++ client.historyOf family future :=
  List.filterMap_append

/-- A lookup that a client starts next in a family belongs to its endpoint in the present epoch
of the family's cache. -/
theorem span?_of_at?
    (client : Client)
    (surroundings : Surroundings)
    (past future : List ClientEvent)
    {event : ClientEvent}
    {step : Event}
    (found : client.at? family event = some step) :
    ∀ lookup, step = .start lookup →
      lookup.ticket ∉ (client.after surroundings past).surroundings.started →
        (client.cacheOf family).span? (client.historyOf family (past ++ event :: future))
            lookup.ticket =
          some ⟨(client.cacheOf family).family.resolve lookup.address,
            clears (client.historyOf family past)⟩ := by
  rintro lookup rfl new
  have opened : client.historyOf family (event :: future) =
      .start lookup :: client.historyOf family future := List.filterMap_cons_some found
  rw [historyOf_append, opened]
  apply span?_start
  by_contra known
  exact new (mem_started_of_familyOf? client surroundings
    (isSome_familyOf?_of_historyOf (Option.isSome_iff_ne_none.mpr known)))

/-- Every history of a client reaches its last turn at both caches, whatever happens
afterwards. -/
theorem reached_view
    (client : Client)
    (surroundings : Surroundings)
    (past future : List ClientEvent)
    (family : Family) :
    Reached (client.cacheOf family)
      ((client.cacheOf family).span? (client.historyOf family (past ++ future)))
      (clears (client.historyOf family past))
      ((client.after surroundings past).view family) := by
  induction past using List.reverseRecOn generalizing future with
  | nil => cases family <;> exact .fresh surroundings
  | append_singleton past event inductionHypothesis =>
      have reached := inductionHypothesis (event :: future)
      rw [after_concat, historyOf_append client family past, List.append_assoc,
        List.singleton_append]
      cases found : client.at? family event with
      | none =>
          have nothing : client.historyOf family [event] = [] :=
            List.filterMap_cons_none found
          obtain ⟨same, grown⟩ := view_next_of_none (client.after surroundings past) found
          rw [nothing, List.append_nil, same]
          exact .elsewhere reached _ grown
      | some step =>
          have something : client.historyOf family [event] = [step] :=
            List.filterMap_cons_some found
          obtain ⟨before, after, grown, grownAfter, same⟩ :=
            steps_of_at? (client.after surroundings past) found
          rw [something, clears_append, same]
          refine .elsewhere ((Reached.elsewhere reached before grown).next step ?_) after
            grownAfter
          intro lookup starts new
          exact client.span?_of_at? surroundings past future found lookup starts
            fun known => new (grown known)

/-- What an event is for a cache happens to the cache at a moment that is reached. -/
theorem exists_reached_of_at?
    (client : Client)
    (surroundings : Surroundings)
    (past : List ClientEvent)
    {event : ClientEvent}
    {step : Event}
    (found : client.at? family event = some step) :
    ∃ before after,
      (client.after surroundings past).surroundings.started ⊆ before.started ∧
      Reached (client.cacheOf family)
        ((client.cacheOf family).span? (client.historyOf family (past ++ [event])))
        (clears (client.historyOf family past))
        { (client.after surroundings past).view family with surroundings := before } ∧
      (∀ lookup, step = .start lookup → lookup.ticket ∉ before.started →
        (client.cacheOf family).span? (client.historyOf family (past ++ [event]))
            lookup.ticket =
          some ⟨(client.cacheOf family).family.resolve lookup.address,
            clears (client.historyOf family past)⟩) ∧
      (client.after surroundings (past ++ [event])).view family =
        { (client.cacheOf family).next
            { (client.after surroundings past).view family with surroundings := before }
            step with
          surroundings := after } := by
  obtain ⟨before, after, grown, -, same⟩ :=
    steps_of_at? (client.after surroundings past) found
  refine ⟨before, after, grown,
    .elsewhere (client.reached_view surroundings past [event] family) before grown, ?_, ?_⟩
  · intro lookup starts new
    exact client.span?_of_at? surroundings past [] found lookup starts
      fun known => new (grown known)
  · rw [after_concat]
    exact same

end Client
end Switchboard
