import Switchboard.Proofs.Cache.Attempt
import Switchboard.Proofs.Cache.Cached
import Switchboard.Proofs.Cache.Service

/-!
# A directory of connections

Served one request after the other, a cache is a plain directory: a table with one connection
per endpoint.  A lookup finds its entry or makes one; slots, locks and queues are not seen.
-/

namespace Switchboard

/-- What can be asked of a cache that is left in peace until it has served it. -/
inductive Directory.Request
  /-- A lookup is polled once, and given up unless it has ended. -/
  | lookup (lookup : Lookup)
  /-- The cache is cleared. -/
  | clear
  /-- The surroundings change. -/
  | change (change : Change)

/-- What happens to a cache that serves a request. -/
def Directory.Request.events : Directory.Request → List Event
  | .lookup wanted => [.start wanted, .drop wanted.ticket]
  | .clear => [.clear]
  | .change circumstance => [.change circumstance]

/-- A connection for each of some endpoints, what is around, and what has been done. -/
structure Directory where
  /-- The surroundings. -/
  surroundings : Surroundings
  /-- The connection of each endpoint that has one. -/
  connections : Table String Ticket
  /-- What has been done. -/
  effects : List Effect

namespace Directory

/-- A directory without entries. -/
def fresh (surroundings : Surroundings) : Directory :=
  ⟨surroundings, .empty, []⟩

/-- The directory when more has been done. -/
def record
    (directory : Directory)
    (effects : List Effect) : Directory :=
  { directory with effects := directory.effects ++ effects }

/-- A lookup looks once how its dial stands.  Only a dial that has succeeded makes an entry. -/
def settleDial
    (directory : Directory)
    (ticket : Ticket)
    (endpoint : String)
    (config : DialConfig) : Directory :=
  match directory.surroundings.answer endpoint config with
  | .pending => directory
  | .failed error => directory.record [.returned ticket (.error error)]
  | .connected state? =>
      Directory.record
        ⟨state?.elim directory.surroundings (directory.surroundings.report ticket),
          directory.connections.set endpoint ticket,
          directory.effects⟩
        [.notice (.established endpoint), .returned ticket (.ok ticket)]

/-- A lookup asks its authorizer for credentials, and dials if it gets them. -/
def dial
    (cache : Cache)
    (directory : Directory)
    (lookup : Lookup)
    (endpoint : String) : Directory :=
  let preparation := cache.prepare directory.surroundings.environment lookup.authorizer
  let asked :=
    directory.record
      (preparation.questions.map (.consulted lookup.ticket) ++
        preparation.notices.map .notice)
  match preparation.outcome with
  | .error error => asked.record [.returned lookup.ticket (.error error)]
  | .ok config =>
      let dialing : Directory :=
        { asked with surroundings := asked.surroundings.report lookup.ticket .ready }
      (dialing.record [.dialed lookup.ticket endpoint config]).settleDial lookup.ticket
        endpoint config

/-- A lookup closes the connection of an endpoint and deletes the entry. -/
def close
    (directory : Directory)
    (ticket connection : Ticket)
    (endpoint : String) : Directory :=
  let state := directory.surroundings.stateOf connection
  Directory.record
    ⟨directory.surroundings.report connection .shutdown,
      directory.connections.erase endpoint,
      directory.effects⟩
    [.notice (.evicting endpoint state), .closed ticket connection endpoint state]

/-- A lookup whose token has not fired hands out the connection of its endpoint, or closes
what may not be handed out, and dials. -/
def serve
    (cache : Cache)
    (directory : Directory)
    (lookup : Lookup)
    (endpoint : String) : Directory :=
  match directory.connections.find? endpoint with
  | none => directory.dial cache lookup endpoint
  | some connection =>
      let state := directory.surroundings.stateOf connection
      if cache.policy.reusable state then
        directory.record
          [.notice (.reusing endpoint state), .returned lookup.ticket (.ok connection)]
      else
        (directory.close lookup.ticket connection endpoint).dial cache lookup endpoint

/-- A lookup is served.  Nothing is done for one whose token has fired, and nothing at all for
a number that has been given before. -/
def lookUp
    (cache : Cache)
    (directory : Directory)
    (lookup : Lookup) : Directory :=
  if directory.surroundings.started.contains lookup.ticket then
    directory
  else
    let endpoint := cache.family.resolve lookup.address
    let registered : Directory :=
      { directory with surroundings := directory.surroundings.register lookup.ticket }
    if directory.surroundings.hasFired lookup.token? then
      registered.record [.returned lookup.ticket (.error (.cancelled endpoint))]
    else
      registered.serve cache lookup endpoint

/-- The directory after a request. -/
def next
    (cache : Cache)
    (directory : Directory) : Request → Directory
  | .lookup wanted => directory.lookUp cache wanted
  | .clear =>
      Directory.record { directory with connections := .empty }
        [.notice (.clearing directory.connections.size cache.family)]
  | .change change =>
      { directory with surroundings := directory.surroundings.apply change }

/-- The directory to which requests bring a new one. -/
def after
    (cache : Cache)
    (surroundings : Surroundings)
    (requests : List Request) : Directory :=
  requests.foldl (next cache) (fresh surroundings)

/-- A turn of a cache shows what a directory shows, apart from lookups under way. -/
structure IsShownBy
    (directory : Directory)
    (turn : Turn) : Prop where
  /-- The surroundings are the same. -/
  surroundings : turn.surroundings = directory.surroundings
  /-- The same has been done. -/
  effects : turn.effects = directory.effects
  /-- The same connections are cached. -/
  cached : ∀ endpoint, turn.state.cached? endpoint = directory.connections.find? endpoint
  /-- No endpoint has two entries. -/
  keys : directory.connections.HasDistinctKeys

end Directory

/-- A cache has served its requests as a directory does. -/
structure Cache.Serves
    (cache : Cache)
    (turn : Turn)
    (directory : Directory) : Prop extends directory.IsShownBy turn where
  /-- No lookup is under way. -/
  settled : turn.state.flights = []
  /-- Only endpoints with entries have places. -/
  placed : ∀ endpoint, (turn.state.places.find? endpoint).isSome =
    (directory.connections.find? endpoint).isSome
  /-- An address is contained if its endpoint has an entry. -/
  contains : ∀ address, cache.contains turn.state address =
    (directory.connections.find? (cache.family.resolve address)).isSome
  /-- The length is the number of entries. -/
  len : turn.state.len = directory.connections.size

/-! ## Polls and the directory -/

namespace Directory.IsShownBy

variable {cache : Cache} {turn : Turn} {directory : Directory} {flight : Flight}

theorem record
    (shown : directory.IsShownBy turn)
    (effects : List Effect) :
    (directory.record effects).IsShownBy (turn.record effects) :=
  ⟨shown.surroundings, congrArg (· ++ effects) shown.effects, shown.cached,
    shown.keys⟩

theorem leave
    (shown : directory.IsShownBy turn)
    (flight : Flight) :
    directory.IsShownBy { turn with state := turn.state.leave flight } := by
  refine ⟨shown.surroundings, shown.effects, ?_, shown.keys⟩
  intro endpoint
  exact (turn.state.cached?_leave flight endpoint).trans (shown.cached endpoint)

theorem finish
    (shown : directory.IsShownBy turn)
    (flight : Flight)
    (outcome : Outcome) :
    (directory.record [.returned flight.ticket outcome]).IsShownBy
      (turn.finish flight outcome) :=
  (shown.leave flight).record _

theorem awaitDial
    (shown : directory.IsShownBy turn)
    (atPlace : turn.state.IsAtPlace flight)
    (config : DialConfig) :
    (directory.settleDial flight.ticket flight.endpoint config).IsShownBy
      (Cache.awaitDial turn flight config) := by
  rw [settleDial, ← shown.surroundings]
  cases answer : turn.surroundings.answer flight.endpoint config with
  | pending =>
      rw [Cache.awaitDial_of_pending answer]
      exact shown
  | failed error =>
      rw [Cache.awaitDial_of_failed answer]
      exact shown.finish flight _
  | connected state? =>
      rw [Cache.awaitDial_of_connected answer]
      have filled : IsShownBy
          ⟨state?.elim turn.surroundings (turn.surroundings.report flight.ticket),
            directory.connections.set flight.endpoint flight.ticket, directory.effects⟩
          ⟨state?.elim turn.surroundings (turn.surroundings.report flight.ticket),
            turn.state.fill flight.slot (some flight.ticket), turn.effects⟩ := by
        refine ⟨rfl, shown.effects, ?_, shown.keys.set _ _⟩
        intro endpoint
        rw [CacheState.cached?_fill atPlace]
        split
        · next same => rw [same, Table.find?_set_self]
        · next different =>
            rw [Table.find?_set_of_ne _ _ different]
            exact shown.cached endpoint
      have ended := (filled.record [.notice (.established flight.endpoint)]).finish flight
        (.ok flight.ticket)
      rwa [Directory.record, Directory.record, List.append_assoc] at ended

theorem beginDial
    (shown : directory.IsShownBy turn)
    (atPlace : turn.state.IsAtPlace flight) :
    (directory.dial cache flight.lookup flight.endpoint).IsShownBy
      (cache.beginDial turn flight) := by
  have asked := shown.record
    ((cache.prepare turn.surroundings.environment flight.lookup.authorizer).questions.map
        (.consulted flight.ticket) ++
      (cache.prepare turn.surroundings.environment flight.lookup.authorizer).notices.map
        .notice)
  rw [dial, ← shown.surroundings]
  cases outcome : (cache.prepare turn.surroundings.environment
      flight.lookup.authorizer).outcome with
  | error error =>
      rw [Cache.beginDial_of_error outcome]
      exact asked.finish flight _
  | ok config =>
      rw [Cache.beginDial_of_ok outcome]
      have begun : IsShownBy
          { directory.record
              ((cache.prepare turn.surroundings.environment
                    flight.lookup.authorizer).questions.map (.consulted flight.ticket) ++
                (cache.prepare turn.surroundings.environment
                  flight.lookup.authorizer).notices.map .notice) with
            surroundings := directory.surroundings.report flight.ticket .ready }
          ⟨turn.surroundings.report flight.ticket .ready,
            turn.state.markDialing flight config,
            (cache.consult turn flight).effects⟩ :=
        ⟨congrArg (·.report flight.ticket .ready) shown.surroundings, asked.effects,
          shown.cached, shown.keys⟩
      exact (begun.record [.dialed flight.ticket flight.endpoint config]).awaitDial atPlace
        config

theorem evict
    (shown : directory.IsShownBy turn)
    (atPlace : turn.state.IsAtPlace flight)
    (connection : Ticket) :
    (directory.close flight.ticket connection flight.endpoint).IsShownBy
      (Cache.evict turn flight connection) := by
  have emptied : IsShownBy
      ⟨turn.surroundings.report connection .shutdown,
        directory.connections.erase flight.endpoint, directory.effects⟩
      ⟨turn.surroundings.report connection .shutdown,
        turn.state.fill flight.slot none, turn.effects⟩ := by
    refine ⟨rfl, shown.effects, ?_, shown.keys.erase _⟩
    intro endpoint
    rw [CacheState.cached?_fill atPlace]
    split
    · next same => rw [same, Table.find?_erase_self]
    · next different =>
        rw [Table.find?_erase_of_ne _ different]
        exact shown.cached endpoint
  rw [close, ← shown.surroundings]
  exact emptied.record _

theorem enter
    (shown : directory.IsShownBy turn)
    (atPlace : turn.state.IsAtPlace flight)
    (cache : Cache) :
    (directory.serve cache flight.lookup flight.endpoint).IsShownBy
      (cache.enter turn flight) := by
  rw [serve, Cache.enter, ← shown.cached, CacheState.cached?_of_isAtPlace atPlace,
    ← shown.surroundings]
  cases (turn.state.slotAt flight.slot).connection? with
  | none => exact shown.beginDial atPlace
  | some connection =>
      dsimp only
      split
      · have ended := (shown.record [.notice (.reusing flight.endpoint
          (turn.surroundings.stateOf connection))]).finish flight (.ok connection)
        rwa [Directory.record, Directory.record, List.append_assoc] at ended
      · exact (shown.evict atPlace connection).beginDial atPlace

/-- A lookup is polled once and given up unless it has ended. -/
theorem lookUp
    (shown : directory.IsShownBy turn)
    {span : Ticket → Option LookupSpan}
    {now : Nat}
    (charted : turn.state.Charted span now)
    (queued : turn.state.Queued turn.surroundings.started)
    (settled : turn.state.flights = [])
    (cache : Cache)
    (lookup : Lookup) :
    (directory.lookUp cache lookup).IsShownBy (cache.next turn (.start lookup)) := by
  rw [Directory.lookUp, ← shown.surroundings]
  split
  · next known =>
      rw [Cache.next_start_of_mem (List.contains_iff_mem.mp known)]
      exact shown
  · next unknown =>
      have new : lookup.ticket ∉ turn.surroundings.started :=
        mt List.contains_iff_mem.mpr unknown
      have registered : IsShownBy
          { directory with surroundings := turn.surroundings.register lookup.ticket }
          { turn with surroundings := turn.surroundings.register lookup.ticket } :=
        ⟨rfl, shown.effects, shown.cached, shown.keys⟩
      dsimp only
      split
      · next fired =>
          rw [Cache.next_start_of_fired new fired]
          exact registered.record _
      · next unfired =>
          rw [Bool.not_eq_true] at unfired
          have boarded : IsShownBy
              { directory with surroundings := turn.surroundings.register lookup.ticket }
              (turn.board lookup (cache.family.resolve lookup.address)) := by
            refine ⟨rfl, shown.effects, ?_, shown.keys⟩
            intro endpoint
            exact (CacheState.cached?_board (queued.slotAt_eq_vacant new) _ endpoint).trans
              (shown.cached endpoint)
          have free : ∀ number, turn.state.queueOf number = [] := by
            intro number
            rw [CacheState.queueOf, settled]
            rfl
          have served := boarded.enter
            (charted.isAtPlace_board queued new (cache.family.resolve lookup.address)) cache
          rw [← (Cache.enters_board queued new unfired (free _)).advance_eq cache,
            CacheState.board_snd] at served
          rw [Cache.next_start_of_unfired new unfired, CacheState.board_snd]
          exact served

/-- Once no lookup is under way, only endpoints with entries have places. -/
theorem isSome_places
    (shown : directory.IsShownBy turn)
    {span : Ticket → Option LookupSpan}
    {now : Nat}
    (charted : turn.state.Charted span now)
    (settled : turn.state.flights = [])
    (endpoint : String) :
    (turn.state.places.find? endpoint).isSome =
      (directory.connections.find? endpoint).isSome := by
  rw [← shown.cached, CacheState.cached?]
  cases placed : turn.state.places.find? endpoint with
  | none => rfl
  | some number =>
      rcases charted.occupied endpoint number placed with
        ⟨connection, held⟩ | ⟨flight, member, -⟩
      · rw [Option.bind_some, held]
        rfl
      · rw [settled] at member
        exact absurd member List.not_mem_nil

/-- Once no lookup is under way, there are as many places as entries. -/
theorem size_places
    (shown : directory.IsShownBy turn)
    {span : Ticket → Option LookupSpan}
    {now : Nat}
    (charted : turn.state.Charted span now)
    (settled : turn.state.flights = []) :
    turn.state.places.size = directory.connections.size := by
  have same : turn.state.places.keys.Perm directory.connections.keys := by
    rw [List.perm_ext_iff_of_nodup charted.keys shown.keys]
    intro endpoint
    rw [charted.keys.mem_keys_iff, shown.keys.mem_keys_iff, ← Option.isSome_iff_exists,
      ← Option.isSome_iff_exists, shown.isSome_places charted settled]
  simpa [Table.keys, Table.size] using same.length_eq

theorem clear
    (shown : directory.IsShownBy turn)
    {span : Ticket → Option LookupSpan}
    {now : Nat}
    (charted : turn.state.Charted span now)
    (settled : turn.state.flights = []) :
    (directory.next cache .clear).IsShownBy (cache.next turn .clear) := by
  have emptied : IsShownBy { directory with connections := .empty }
      { turn with state := turn.state.clear } :=
    ⟨shown.surroundings, shown.effects, fun _ => rfl, Table.hasDistinctKeys_empty⟩
  rw [next, ← shown.size_places charted settled]
  exact emptied.record _

theorem change
    (shown : directory.IsShownBy turn)
    (cache : Cache)
    (change : Change) :
    (directory.next cache (.change change)).IsShownBy (cache.next turn (.change change)) := by
  rw [Cache.next_change]
  exact ⟨congrArg (·.apply change) shown.surroundings, shown.effects, shown.cached, shown.keys⟩

end Directory.IsShownBy

namespace Cache

open History

/-- After its first poll, a lookup is under way alone if no other was. -/
theorem ticket_eq_of_mem_next_start
    (cache : Cache)
    {turn : Turn}
    (settled : turn.state.flights = [])
    (lookup : Lookup) :
    ∀ flight ∈ (cache.next turn (.start lookup)).state.flights,
      flight.ticket = lookup.ticket := by
  by_cases known : lookup.ticket ∈ turn.surroundings.started
  · rw [next_start_of_mem known, settled]
    exact List.forall_mem_nil _
  cases fired : turn.surroundings.hasFired lookup.token? with
  | true =>
      rw [next_start_of_fired known fired]
      change ∀ flight ∈ turn.state.flights, _
      rw [settled]
      exact List.forall_mem_nil _
  | false =>
      have alone := others_advance cache
        (turn.board lookup (cache.family.resolve lookup.address))
        (turn.state.board lookup (cache.family.resolve lookup.address)).2
      have boarded : (turn.board lookup (cache.family.resolve lookup.address)).state.flights =
          [(turn.state.board lookup (cache.family.resolve lookup.address)).2] := by
        change (turn.state.board _ _).1.flights = _
        rw [CacheState.flights_board, settled, List.nil_append]
      rw [next_start_of_unfired known fired]
      intro flight member
      rw [others, others, boarded, List.filter_singleton] at alone
      have isOwn := List.filter_eq_nil_iff.mp (alone.trans (by simp)) flight member
      rw [CacheState.board_snd, decide_eq_true_eq, not_not] at isOwn
      exact isOwn

/-- Once a lookup has been polled and given up, no lookup is under way if no other was. -/
theorem flights_attempt
    (cache : Cache)
    {turn : Turn}
    (settled : turn.state.flights = [])
    (lookup : Lookup) :
    (cache.attempt turn lookup).state.flights = [] := by
  have own := ticket_eq_of_mem_next_start cache settled lookup
  change (cache.next (cache.next turn (.start lookup)) (.drop lookup.ticket)).state.flights = []
  cases found : (cache.next turn (.start lookup)).state.flight? lookup.ticket with
  | none =>
      rw [next_drop_of_none found, List.eq_nil_iff_forall_not_mem]
      intro flight member
      have different := List.find?_eq_none.mp found flight member
      exact different (decide_eq_true (own flight member))
  | some flight =>
      have same := own flight (CacheState.flight?_eq_some found).1
      rw [next_drop_of_some found]
      change ((cache.next turn (.start lookup)).state.leave flight).flights = []
      rw [(CacheState.departs_leave _ flight).flights, List.filter_eq_nil_iff]
      intro other member
      simp [same, own other member]

/-- Giving up a lookup shows nowhere. -/
theorem isShownBy_drop
    (cache : Cache)
    {turn : Turn}
    {directory : Directory}
    (shown : directory.IsShownBy turn)
    (ticket : Ticket) :
    directory.IsShownBy (cache.next turn (.drop ticket)) := by
  cases found : turn.state.flight? ticket with
  | none =>
      rw [next_drop_of_none found]
      exact shown
  | some flight =>
      rw [next_drop_of_some found]
      exact shown.leave flight

/-- A cache that has served its requests one after the other is a directory. -/
theorem refines_directory
    (cache : Cache)
    (surroundings : Surroundings)
    (requests : List Directory.Request) :
    cache.Serves (cache.after surroundings (requests.flatMap (·.events)))
      (Directory.after cache surroundings requests) := by
  suffices alike :
      (Directory.after cache surroundings requests).IsShownBy
          (cache.after surroundings (requests.flatMap (·.events))) ∧
        (cache.after surroundings (requests.flatMap (·.events))).state.flights = [] by
    obtain ⟨shown, settled⟩ := alike
    have reached := cache.reached_end surroundings (requests.flatMap (·.events))
    have placed := shown.isSome_places reached.charted settled
    refine ⟨shown, settled, placed, ?_, ?_⟩
    · intro address
      rw [contains, Bool.eq_iff_iff, reached.charted.holds_iff reached.queued, placed]
    · rw [reached.charted.len_eq reached.queued, ← shown.size_places reached.charted settled,
        Table.keys, List.length_map]
      rfl
  induction requests using List.reverseRecOn with
  | nil => exact ⟨⟨rfl, rfl, fun _ => rfl, Table.hasDistinctKeys_empty⟩, rfl⟩
  | append_singleton past request inductionHypothesis =>
      obtain ⟨shown, settled⟩ := inductionHypothesis
      have reached := cache.reached_end surroundings (past.flatMap (·.events))
      rw [List.flatMap_append, List.flatMap_singleton, after_append, Directory.after,
        List.foldl_append, ← Directory.after]
      cases request with
      | lookup lookup =>
          have polled := shown.lookUp reached.charted reached.queued settled cache lookup
          exact ⟨isShownBy_drop cache polled lookup.ticket,
            flights_attempt cache settled lookup⟩
      | clear => exact ⟨shown.clear reached.charted settled, settled⟩
      | change change => exact ⟨shown.change cache change, settled⟩

end Cache
end Switchboard
