import Mathlib.Data.List.Basic
import Mathlib.Data.List.Induction
import Switchboard.Channel.Connection

/-!
# The life of a connection

Attempts to connect, requests that have ended, and closes reach a connection in any order,
and attempts may overlap.  The connection tells the transition that has been recorded last,
until it is closed; then it is shutdown for ever.  Of all closes only the first one counts.
-/

namespace Switchboard

/-- What can happen to a connection. -/
inductive Happening
  /-- An attempt to connect begins. -/
  | begins
  /-- An attempt to connect ends. -/
  | ends (result : Except SocketFault Unit)
  /-- A request has ended with a status. -/
  | observed (status : Status)
  /-- The connection is closed. -/
  | closes
  deriving DecidableEq

namespace Happening

/-- Whether a happening is the begin or the end of an attempt to connect. -/
def isAttempt : Happening → Bool
  | .begins | .ends _ => true
  | .observed _ | .closes => false

/-- The transition that a happening records, unless it comes too late. -/
def transition? : Happening → Option Connectivity
  | .begins => some .connecting
  | .ends (.ok _) => some .ready
  | .ends (.error _) => some .transientFailure
  | .observed status => if status.isConnectionFailure then some .transientFailure else none
  | .closes => none

theorem transition?_ne_shutdown (happening : Happening) :
    happening.transition? ≠ some .shutdown := by
  cases happening with
  | begins => nofun
  | ends result => cases result <;> nofun
  | observed status =>
      rw [transition?]
      split <;> nofun
  | closes => nofun

/-- The last transition that has been recorded is never to shutdown. -/
theorem latest_ne_shutdown (past : List Happening) :
    (past.filterMap transition?).getLast?.getD .idle ≠ .shutdown := by
  cases last : (past.filterMap transition?).getLast? with
  | none => nofun
  | some state =>
      obtain ⟨happening, -, records⟩ := List.mem_filterMap.mp (List.mem_of_getLast? last)
      rintro rfl
      exact happening.transition?_ne_shutdown records

end Happening

/-- Exactly two codes say that the connection itself failed. -/
theorem Status.isConnectionFailure_iff (status : Status) :
    status.isConnectionFailure = true ↔
      status.code = .unavailable ∨ status.code = .deadlineExceeded := by
  rw [isConnectionFailure]
  cases status.code <;> simp [Code.isConnectionFailure]

namespace Connection

/-- What a happening does to a connection in a state. -/
def undergo
    (connection : Connection)
    (state : Connectivity) : Happening → Report
  | .begins => ⟨beginAttempt state, []⟩
  | .ends result => endAttempt connection.uri state result
  | .observed status => connection.observe state status
  | .closes => connection.close state

/-- What has become of a connection that was idle at first. -/
def live
    (connection : Connection)
    (happenings : List Happening) : Report :=
  happenings.foldl
    (fun lived happening =>
      let report := connection.undergo lived.state happening
      ⟨report.state, lived.notices ++ report.notices⟩)
    ⟨.idle, []⟩

/-- A close that comes after certain happenings is the one that shuts the connection down,
and it says so. -/
def ShutsDown
    (connection : Connection)
    (before : List Happening) : Prop :=
  (connection.live before).state ≠ .shutdown ∧
    connection.close (connection.live before).state =
      ⟨.shutdown, [.closed connection.endpoint]⟩

/-- What a connection tells after certain happenings, and what comes of the next close and
of the next status. -/
structure Lives
    (connection : Connection)
    (past : List Happening) : Prop where
  /-- A connection that has been closed is shutdown. -/
  shutdown : .closes ∈ past → (connection.live past).state = .shutdown
  /-- Until then its state is the last transition that has been recorded. -/
  latest : .closes ∉ past →
    (connection.live past).state =
      (past.filterMap Happening.transition?).getLast?.getD .idle
  /-- Only the first close shuts the connection down. -/
  first_shutsDown : .closes ∉ past → connection.ShutsDown past
  /-- Exactly one close has shut down a connection that has been closed. -/
  closed_once : .closes ∈ past →
    ∃! before, connection.ShutsDown before ∧ ∃ after, past = before ++ .closes :: after
  /-- A later close changes nothing, and says nothing. -/
  later_idle : .closes ∈ past →
    connection.close (connection.live past).state = ⟨(connection.live past).state, []⟩
  /-- Exactly two codes say that the connection failed. -/
  codes : ∀ status : Status, status.isConnectionFailure = true ↔
    status.code = .unavailable ∨ status.code = .deadlineExceeded
  /-- These are what the one who hands in a status is told. -/
  failures : ∀ status,
    (connection.observe (connection.live past).state status).failed = true ↔
      status.code = .unavailable ∨ status.code = .deadlineExceeded
  /-- A status that says that the connection failed is recorded, and it is noted. -/
  observes : ∀ status, status.isConnectionFailure = true →
    connection.observe (connection.live past).state status =
      { state := if .closes ∈ past then .shutdown else .transientFailure
        notices := [.broken connection.endpoint status.code]
        failed := true }
  /-- Any other status changes nothing, and nothing is noted. -/
  ignores : ∀ status, status.isConnectionFailure = false →
    connection.observe (connection.live past).state status =
      { state := (connection.live past).state, notices := [], failed := false }

variable {connection : Connection}

theorem live_concat
    (connection : Connection)
    (past : List Happening)
    (happening : Happening) :
    connection.live (past ++ [happening]) =
      ⟨(connection.undergo (connection.live past).state happening).state,
        (connection.live past).notices ++
          (connection.undergo (connection.live past).state happening).notices⟩ :=
  List.foldl_concat _ _ _ _

/-- All but a close goes through the record of the state, which a shutdown does not leave. -/
theorem state_undergo
    {happening : Happening}
    (other : happening ≠ .closes)
    (connection : Connection)
    (state : Connectivity) :
    (connection.undergo state happening).state =
      happening.transition?.elim state state.record := by
  cases happening with
  | begins => rfl
  | ends result => cases result <;> rfl
  | observed status =>
      rw [undergo, observe, Happening.transition?]
      split <;> rfl
  | closes => exact absurd rfl other

/-- Nothing brings a connection back that is shutdown. -/
theorem state_undergo_shutdown
    (connection : Connection)
    (happening : Happening) :
    (connection.undergo .shutdown happening).state = .shutdown := by
  by_cases closes : happening = .closes
  · rw [closes]
    rfl
  · rw [state_undergo closes]
    cases happening.transition? <;> rfl

/-- A stale connection stays stale until an attempt to connect is recorded. -/
theorem isStale_undergo
    {state : Connectivity}
    (stale : state.isStale = true)
    (connection : Connection)
    {happening : Happening}
    (passive : happening.isAttempt = false) :
    (connection.undergo state happening).state.isStale = true := by
  cases happening with
  | begins => cases passive
  | ends result => cases passive
  | closes => rfl
  | observed status =>
      rw [undergo, observe]
      split
      · rw [Connectivity.record]
        split <;> rfl
      · exact stale

/-- A status that says that the connection failed makes the connection stale. -/
theorem isStale_observed
    (connection : Connection)
    (state : Connectivity)
    {status : Status}
    (failure : status.isConnectionFailure = true) :
    (connection.undergo state (.observed status)).state.isStale = true := by
  rw [undergo, observe, if_pos failure, Connectivity.record]
  split <;> rfl

/-- A connection is shutdown exactly if it has been closed, and tells the last transition
otherwise. -/
theorem state_live
    (connection : Connection)
    (past : List Happening) :
    (connection.live past).state =
      if .closes ∈ past then .shutdown
      else (past.filterMap Happening.transition?).getLast?.getD .idle := by
  induction past using List.reverseRecOn with
  | nil => rfl
  | append_singleton past happening inductionHypothesis =>
      rw [live_concat, inductionHypothesis]
      by_cases closed : .closes ∈ past
      · rw [if_pos closed, if_pos (List.mem_append_left _ closed)]
        exact connection.state_undergo_shutdown happening
      by_cases closes : happening = .closes
      · rw [if_neg closed, closes, if_pos List.mem_concat_self]
        rfl
      · have unclosed : .closes ∉ past ++ [happening] := by
          simpa [closed] using Ne.symm closes
        rw [if_neg closed, if_neg unclosed, state_undergo closes, List.filterMap_append]
        cases records : happening.transition? with
        | none =>
            rw [List.filterMap_cons_none records, List.filterMap_nil, List.append_nil]
            rfl
        | some state =>
            rw [List.filterMap_cons_some records, List.filterMap_nil, List.getLast?_concat]
            exact if_neg (Happening.latest_ne_shutdown past)

/-- Whoever hands in a status is told whether it says that the connection failed. -/
theorem failed_observe
    (connection : Connection)
    (state : Connectivity)
    (status : Status) :
    (connection.observe state status).failed = status.isConnectionFailure := by
  rw [observe]
  split
  · next failure => exact failure.symm
  · next other => exact (Bool.eq_false_iff.mpr other).symm

/-- A close shuts a connection down exactly if it is the first one. -/
theorem shutsDown_iff
    {past : List Happening} :
    connection.ShutsDown past ↔ .closes ∉ past := by
  have state := connection.state_live past
  constructor
  · rintro ⟨running, -⟩ closed
    rw [if_pos closed] at state
    exact running state
  · intro unclosed
    have running : (connection.live past).state ≠ .shutdown := by
      rw [state, if_neg unclosed]
      exact Happening.latest_ne_shutdown past
    exact ⟨running, by rw [close, closeNotices, if_neg running]⟩

/-- A shutdown connection has been shut down by one close. -/
theorem existsUnique_shutsDown
    {past : List Happening}
    (closed : .closes ∈ past) :
    ∃! before, connection.ShutsDown before ∧ ∃ after, past = before ++ .closes :: after := by
  obtain ⟨before, after, whole, unclosed⟩ := List.eq_append_cons_of_mem closed
  refine ⟨before, ⟨shutsDown_iff.mpr unclosed, after, whole⟩, ?_⟩
  rintro other ⟨shutsDown, otherAfter, otherWhole⟩
  have otherUnclosed := shutsDown_iff.mp shutsDown
  -- If one of the two were longer, it would contain the close that ends the other one.
  have same := whole.symm.trans otherWhole
  rcases List.append_eq_append_iff.mp same with
    ⟨between, longer, rest⟩ | ⟨between, longer, rest⟩
  · cases between with
    | nil => rw [longer, List.append_nil]
    | cons first more =>
        rw [List.cons_append, List.cons.injEq] at rest
        exact absurd (by simp [longer, ← rest.1]) otherUnclosed
  · cases between with
    | nil => rw [longer, List.append_nil]
    | cons first more =>
        rw [List.cons_append, List.cons.injEq] at rest
        exact absurd (by simp [longer, ← rest.1]) unclosed

/-- Whatever happens to a connection, it lives as it should. -/
theorem lives
    (connection : Connection)
    (past : List Happening) :
    connection.Lives past where
  shutdown closed := by rw [state_live, if_pos closed]
  latest unclosed := by rw [state_live, if_neg unclosed]
  first_shutsDown := shutsDown_iff.mpr
  closed_once := existsUnique_shutsDown
  later_idle closed := by
    rw [state_live, if_pos closed]
    rfl
  codes := Status.isConnectionFailure_iff
  failures status := by rw [failed_observe, Status.isConnectionFailure_iff]
  observes status failure := by
    rw [observe, if_pos failure, state_live]
    by_cases closed : .closes ∈ past
    · rw [if_pos closed, if_pos closed]
      rfl
    · rw [if_neg closed, if_neg closed, Connectivity.record,
        if_neg (Happening.latest_ne_shutdown past)]
  ignores status other := by rw [observe, if_neg (Bool.eq_false_iff.mp other)]

end Connection
end Switchboard
