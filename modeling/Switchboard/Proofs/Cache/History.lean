import Mathlib.Data.List.TakeWhile
import Switchboard.Cache.Run

/-!
# Histories of a cache

A history is the sequence of the events that have happened to a new cache.  The
clears in it cut it into epochs, and a lookup belongs to the epoch in which it is
polled for the first time.  Lookups of one endpoint that belong to one epoch make
up a span: no clear lies between their first polls.
-/

namespace Switchboard

namespace Event

/-- Whether an event clears the cache. -/
def isClear : Event → Bool
  | .clear => true
  | .start _ | .poll _ | .drop _ | .change _ => false

/-- The lookup that an event starts under a number. -/
def startOf? (ticket : Ticket) : Event → Option Lookup
  | .start lookup => if lookup.ticket = ticket then some lookup else none
  | .poll _ | .drop _ | .clear | .change _ => none

end Event

namespace History

/-- How often the cache is cleared. -/
def clears (events : List Event) : Nat :=
  events.countP Event.isClear

/-- The lookup that is polled for the first time under a number.  A number that has
been given before starts nothing, so the first one counts. -/
def lookup?
    (events : List Event)
    (ticket : Ticket) : Option Lookup :=
  events.findSome? (Event.startOf? ticket)

/-- How often the cache is cleared before a lookup is polled for the first time. -/
def epoch
    (events : List Event)
    (ticket : Ticket) : Nat :=
  clears (events.takeWhile fun event => (event.startOf? ticket).isNone)

@[simp]
theorem clears_nil : clears [] = 0 := rfl

@[simp]
theorem clears_append (past future : List Event) :
    clears (past ++ future) = clears past + clears future :=
  List.countP_append

/-- Without a clear there is no epoch but the first. -/
theorem clears_eq_zero
    {events : List Event}
    (unbroken : .clear ∉ events) :
    clears events = 0 := by
  rw [clears, List.countP_eq_zero]
  intro event member cleared
  cases event with
  | clear => exact unbroken member
  | start lookup => exact Bool.false_ne_true cleared
  | poll ticket => exact Bool.false_ne_true cleared
  | drop ticket => exact Bool.false_ne_true cleared
  | change change => exact Bool.false_ne_true cleared

/-- The epoch of a lookup is one of those that the clears have cut. -/
theorem epoch_le_clears
    (events : List Event)
    (ticket : Ticket) :
    epoch events ticket ≤ clears events :=
  (List.takeWhile_sublist _).countP_le

@[simp]
theorem lookup?_nil (ticket : Ticket) : lookup? [] ticket = none := rfl

theorem lookup?_append
    (past future : List Event)
    (ticket : Ticket) :
    lookup? (past ++ future) ticket =
      (lookup? past ticket).or (lookup? future ticket) :=
  List.findSome?_append

theorem lookup?_singleton
    (event : Event)
    (ticket : Ticket) :
    lookup? [event] ticket = event.startOf? ticket := by
  rw [lookup?, List.findSome?_singleton]

/-- What happens later does not move a lookup to another epoch. -/
theorem epoch_append_of_isSome
    {past : List Event}
    {ticket : Ticket}
    (known : (lookup? past ticket).isSome)
    (future : List Event) :
    epoch (past ++ future) ticket = epoch past ticket := by
  have ends : ∃ event ∈ past, ¬(event.startOf? ticket).isNone := by
    obtain ⟨lookup, found⟩ := Option.isSome_iff_exists.mp known
    obtain ⟨event, member, starts⟩ := List.exists_of_findSome?_eq_some found
    exact ⟨event, member, by simp [starts]⟩
  have shorter :
      (past.takeWhile fun event => (event.startOf? ticket).isNone).length ≠
        past.length := by
    intro whole
    obtain ⟨event, member, starts⟩ := ends
    have same := (List.takeWhile_prefix _).eq_of_length whole
    rw [← same] at member
    have passed := List.mem_takeWhile_imp member
    exact starts passed
  rw [epoch, epoch, List.takeWhile_append, if_neg shorter]

/-- A lookup that is started after a history belongs to the epoch that lasts then. -/
theorem epoch_append_of_eq_none
    {past : List Event}
    {ticket : Ticket}
    (unknown : lookup? past ticket = none)
    (future : List Event) :
    epoch (past ++ future) ticket = clears past + epoch future ticket := by
  have passed : ∀ event ∈ past, (event.startOf? ticket).isNone = true := by
    intro event member
    rw [Option.isNone_iff_eq_none]
    exact List.findSome?_eq_none_iff.mp unknown event member
  rw [epoch, List.takeWhile_append_of_pos passed, clears_append, epoch]

/-- A clear lies between the first polls of two lookups. -/
def SeparatedByClear
    (events : List Event)
    (left right : Ticket) : Prop :=
  ∃ past future, events = past ++ .clear :: future ∧
    (lookup? past left).isSome ≠ (lookup? past right).isSome

theorem SeparatedByClear.symm
    {events : List Event}
    {left right : Ticket}
    (separated : SeparatedByClear events left right) :
    SeparatedByClear events right left := by
  obtain ⟨past, future, whole, apart⟩ := separated
  exact ⟨past, future, whole, apart.symm⟩

/-- If the cache is cleared before a lookup is polled for the first time, then at an
event before which the lookup is not known. -/
theorem exists_clear_of_epoch_pos
    {events : List Event}
    {ticket : Ticket}
    (later : 0 < epoch events ticket) :
    ∃ past future, events = past ++ .clear :: future ∧ lookup? past ticket = none := by
  obtain ⟨event, member, cleared⟩ := List.countP_pos_iff.mp later
  have isClear : event = .clear := by
    cases event with
    | clear => rfl
    | start lookup => exact Bool.noConfusion cleared
    | poll other => exact Bool.noConfusion cleared
    | drop other => exact Bool.noConfusion cleared
    | change change => exact Bool.noConfusion cleared
  subst isClear
  obtain ⟨past, between, opening⟩ := List.append_of_mem member
  refine ⟨past, between ++ events.dropWhile fun event => (event.startOf? ticket).isNone,
    ?_, ?_⟩
  · rw [← List.cons_append, ← List.append_assoc, ← opening, List.takeWhile_append_dropWhile]
  · refine List.findSome?_eq_none_iff.mpr fun event eventMember => ?_
    have passed : event ∈ events.takeWhile fun event => (event.startOf? ticket).isNone := by
      rw [opening]
      exact List.mem_append_left _ eventMember
    have unstarted := List.mem_takeWhile_imp passed
    exact Option.isNone_iff_eq_none.mp unstarted

/-- A lookup that is polled for the first time in a later epoch than another one is
separated from it. -/
theorem separatedByClear_of_epoch_lt
    {events : List Event}
    {left right : Ticket}
    (known : (lookup? events left).isSome)
    (later : epoch events left < epoch events right) :
    SeparatedByClear events left right := by
  induction events with
  | nil => simp at known
  | cons event rest inductionHypothesis =>
      have apartFromRest : ∀ ticket, event.startOf? ticket = none →
          lookup? (event :: rest) ticket = lookup? rest ticket ∧
            epoch (event :: rest) ticket = clears [event] + epoch rest ticket := by
        intro ticket other
        have unknown : lookup? [event] ticket = none :=
          (lookup?_singleton event ticket).trans other
        refine ⟨?_, epoch_append_of_eq_none unknown rest⟩
        rw [← List.singleton_append, lookup?_append, unknown, Option.none_or]
      cases startsRight : event.startOf? right with
      | some lookup =>
          have atOnce : epoch (event :: rest) right = 0 := by
            rw [epoch, List.takeWhile_cons, startsRight]
            rfl
          rw [atOnce] at later
          exact absurd later (Nat.not_lt_zero _)
      | none =>
          cases startsLeft : event.startOf? left with
          | some lookup =>
              obtain ⟨past, future, whole, unknown⟩ :=
                exists_clear_of_epoch_pos (Nat.zero_lt_of_lt later)
              refine ⟨past, future, whole, ?_⟩
              cases past with
              | nil =>
                  rw [List.nil_append, List.cons.injEq] at whole
                  rw [whole.1] at startsLeft
                  cases startsLeft
              | cons head between =>
                  rw [List.cons_append, List.cons.injEq] at whole
                  have found : lookup? (head :: between) left = some lookup := by
                    rw [lookup?, List.findSome?_cons, ← whole.1, startsLeft]
                  simp [found, unknown]
          | none =>
              obtain ⟨leftLookup, leftEpoch⟩ := apartFromRest left startsLeft
              obtain ⟨rightLookup, rightEpoch⟩ := apartFromRest right startsRight
              rw [leftLookup] at known
              rw [leftEpoch, rightEpoch, Nat.add_lt_add_iff_left] at later
              obtain ⟨past, future, whole, apart⟩ := inductionHypothesis known later
              refine ⟨event :: past, future, by rw [whole, List.cons_append], ?_⟩
              rw [lookup?, lookup?, List.findSome?_cons, List.findSome?_cons, startsLeft,
                startsRight]
              exact apart

theorem epoch_lt_of_clear
    {past : List Event}
    {left right : Ticket}
    (known : (lookup? past left).isSome)
    (unknown : lookup? past right = none)
    (future : List Event) :
    epoch (past ++ .clear :: future) left < epoch (past ++ .clear :: future) right := by
  have before := epoch_le_clears past left
  have stillUnknown : lookup? [.clear] right = none := rfl
  have opened : epoch (.clear :: future) right = 1 + epoch future right :=
    epoch_append_of_eq_none stillUnknown future
  rw [epoch_append_of_isSome known, epoch_append_of_eq_none unknown, opened]
  omega

/-- Two lookups are separated by a clear exactly when they belong to two epochs. -/
theorem separatedByClear_iff
    {events : List Event}
    {left right : Ticket}
    (leftKnown : (lookup? events left).isSome)
    (rightKnown : (lookup? events right).isSome) :
    SeparatedByClear events left right ↔ epoch events left ≠ epoch events right := by
  constructor
  · rintro ⟨past, future, rfl, apart⟩
    cases leftStarted : lookup? past left with
    | some lookup =>
        have unknown : lookup? past right = none := by
          simpa [leftStarted] using apart
        have known : (lookup? past left).isSome := by simp [leftStarted]
        exact (epoch_lt_of_clear known unknown future).ne
    | none =>
        have known : (lookup? past right).isSome := by
          simpa [leftStarted, Option.isSome_iff_ne_none] using apart
        exact (epoch_lt_of_clear known leftStarted future).ne'
  · intro different
    rcases Nat.lt_or_gt_of_ne different with earlier | later
    · exact separatedByClear_of_epoch_lt leftKnown earlier
    · exact (separatedByClear_of_epoch_lt rightKnown later).symm

/-- A lookup is polled for the first time after the last clear. -/
def StartsAfterLastClear
    (events : List Event)
    (ticket : Ticket) : Prop :=
  ∃ past lookup future, events = past ++ .start lookup :: future ∧
    lookup.ticket = ticket ∧ lookup? past ticket = none ∧ .clear ∉ future

/-- The lookups that are polled for the first time after the last clear are those of the
present epoch. -/
theorem startsAfterLastClear_iff
    {events : List Event}
    {ticket : Ticket}
    (known : (lookup? events ticket).isSome) :
    StartsAfterLastClear events ticket ↔ epoch events ticket = clears events := by
  have atOnce : ∀ (lookup : Lookup) (future : List Event), lookup.ticket = ticket →
      epoch (.start lookup :: future) ticket = 0 := by
    rintro lookup future rfl
    simp [epoch, Event.startOf?]
  have nextClears : ∀ (lookup : Lookup) (future : List Event),
      clears (.start lookup :: future) = clears future := fun _ _ => rfl
  constructor
  · rintro ⟨past, lookup, future, rfl, same, unknown, unbroken⟩
    rw [epoch_append_of_eq_none unknown, atOnce lookup future same, clears_append,
      nextClears, clears_eq_zero unbroken]
  · intro present
    obtain ⟨found, lookupFound⟩ := Option.isSome_iff_exists.mp known
    obtain ⟨past, event, future, rfl, starts, before⟩ :=
      List.findSome?_eq_some_iff.mp lookupFound
    cases event with
    | start lookup =>
        have same : lookup.ticket = ticket := by
          by_contra different
          simp [Event.startOf?, different] at starts
        have unknown : lookup? past ticket = none :=
          List.findSome?_eq_none_iff.mpr before
        rw [epoch_append_of_eq_none unknown, atOnce lookup future same, clears_append,
          nextClears] at present
        refine ⟨past, lookup, future, rfl, same, unknown, ?_⟩
        intro cleared
        have positive : 0 < clears future := List.countP_pos_iff.mpr ⟨_, cleared, rfl⟩
        omega
    | poll other => cases starts
    | drop other => cases starts
    | clear => cases starts
    | change change => cases starts

end History

/-- An endpoint during one epoch. -/
structure LookupSpan where
  /-- The canonical endpoint. -/
  endpoint : String
  /-- The number of clears before. -/
  epoch : Nat
  deriving DecidableEq

namespace Cache

open History

/-- The span to which a lookup belongs: the canonical endpoint of its address and the
epoch of its first poll.  Two lookups belong to one span exactly when their addresses
have one endpoint and no clear lies between their first polls. -/
def span?
    (cache : Cache)
    (events : List Event)
    (ticket : Ticket) : Option LookupSpan :=
  (lookup? events ticket).map fun lookup =>
    ⟨cache.family.resolve lookup.address, epoch events ticket⟩

/-- A lookup that is started after a history belongs to its endpoint in the epoch that
lasts then. -/
theorem span?_start
    (cache : Cache)
    {past : List Event}
    {lookup : Lookup}
    (unknown : lookup? past lookup.ticket = none)
    (future : List Event) :
    cache.span? (past ++ .start lookup :: future) lookup.ticket =
      some ⟨cache.family.resolve lookup.address, clears past⟩ := by
  have starts : Event.startOf? lookup.ticket (.start lookup) = some lookup := by
    simp [Event.startOf?]
  have found : lookup? (.start lookup :: future) lookup.ticket = some lookup := by
    rw [lookup?, List.findSome?_cons, starts]
  have atOnce : epoch (.start lookup :: future) lookup.ticket = 0 := by
    rw [epoch, List.takeWhile_cons, starts]
    rfl
  rw [span?, lookup?_append, epoch_append_of_eq_none unknown, unknown, found, atOnce]
  rfl

/-- A lookup belongs to the endpoint that its address resolves to and to the epoch of its
first poll. -/
theorem span?_eq_some
    {cache : Cache}
    {events : List Event}
    {ticket : Ticket}
    {span : LookupSpan}
    (belongs : cache.span? events ticket = some span) :
    ∃ lookup, lookup? events ticket = some lookup ∧
      span = ⟨cache.family.resolve lookup.address, epoch events ticket⟩ := by
  obtain ⟨lookup, found, same⟩ := Option.map_eq_some_iff.mp belongs
  exact ⟨lookup, found, same.symm⟩

/-- Two lookups look up one endpoint, and no clear lies between their first polls. -/
def ShareSpan
    (cache : Cache)
    (events : List Event)
    (left right : Ticket) : Prop :=
  ∃ leftLookup rightLookup, lookup? events left = some leftLookup ∧
    lookup? events right = some rightLookup ∧
    cache.family.resolve leftLookup.address = cache.family.resolve rightLookup.address ∧
    ¬SeparatedByClear events left right

/-- Two lookups share a span exactly when they belong to one. -/
theorem shareSpan_iff
    {cache : Cache}
    {events : List Event}
    {left right : Ticket} :
    cache.ShareSpan events left right ↔
      ∃ span, cache.span? events left = some span ∧
        cache.span? events right = some span := by
  constructor
  · rintro ⟨leftLookup, rightLookup, leftFound, rightFound, endpoint, together⟩
    have leftKnown : (lookup? events left).isSome := by simp [leftFound]
    have rightKnown : (lookup? events right).isSome := by simp [rightFound]
    rw [separatedByClear_iff leftKnown rightKnown, not_ne_iff] at together
    refine ⟨⟨cache.family.resolve leftLookup.address, epoch events left⟩, ?_, ?_⟩
    · rw [span?, leftFound]
      rfl
    · rw [span?, rightFound, endpoint, together]
      rfl
  · rintro ⟨span, leftBelongs, rightBelongs⟩
    obtain ⟨leftLookup, leftFound, rfl⟩ := span?_eq_some leftBelongs
    obtain ⟨rightLookup, rightFound, same⟩ := span?_eq_some rightBelongs
    rw [LookupSpan.mk.injEq] at same
    have leftKnown : (lookup? events left).isSome := by simp [leftFound]
    have rightKnown : (lookup? events right).isSome := by simp [rightFound]
    refine ⟨leftLookup, rightLookup, leftFound, rightFound, same.1, ?_⟩
    rw [separatedByClear_iff leftKnown rightKnown, not_ne_iff]
    exact same.2

end Cache

/-- The turn in which a new cache has done nothing yet. -/
def Turn.fresh (surroundings : Surroundings) : Turn :=
  ⟨surroundings, .empty, []⟩

/-- The turn to which a history brings a new cache. -/
def Cache.after
    (cache : Cache)
    (surroundings : Surroundings)
    (events : List Event) : Turn :=
  cache.run (.fresh surroundings) events

theorem Cache.after_append
    (cache : Cache)
    (surroundings : Surroundings)
    (past future : List Event) :
    cache.after surroundings (past ++ future) =
      cache.run (cache.after surroundings past) future :=
  List.foldl_append

theorem Cache.after_concat
    (cache : Cache)
    (surroundings : Surroundings)
    (past : List Event)
    (event : Event) :
    cache.after surroundings (past ++ [event]) =
      cache.next (cache.after surroundings past) event := by
  rw [after_append]
  rfl

/-- What happens after a history happens to the turn to which the history has brought the
cache. -/
theorem Cache.after_cons
    (cache : Cache)
    (surroundings : Surroundings)
    (past future : List Event)
    (event : Event) :
    cache.after surroundings (past ++ event :: future) =
      cache.run (cache.next (cache.after surroundings past) event) future :=
  cache.after_append surroundings past (event :: future)

end Switchboard
