/-!
# Locks

A lock has at most one owner.  Whoever asks for a lock that is taken waits; when
the owner leaves, the lock passes to the one that has waited longest.
-/

namespace Switchboard

/-- The number under which a lookup runs. -/
abbrev Ticket := Nat

/-- A lock and those who wait for it. -/
structure Lock where
  /-- The lookup that has the lock. -/
  owner? : Option Ticket
  /-- The lookups that wait, the first one in front. -/
  waiters : List Ticket
  deriving DecidableEq

namespace Lock

/-- A lock that nobody has asked for. -/
def idle : Lock :=
  ⟨none, []⟩

/-- Whether somebody has the lock. -/
def isTaken (lock : Lock) : Bool :=
  lock.owner?.isSome

/-- The lock after a lookup has asked for it. -/
def request (lock : Lock) (ticket : Ticket) : Lock :=
  match lock.owner? with
  | none => { lock with owner? := some ticket }
  | some _ => { lock with waiters := lock.waiters ++ [ticket] }

/-- The lock after its owner has passed it on. -/
def handOver (lock : Lock) : Lock :=
  match lock.waiters with
  | [] => ⟨none, []⟩
  | first :: others => ⟨some first, others⟩

/-- The lock after a lookup has left, whether it had the lock or waited. -/
def leave (lock : Lock) (ticket : Ticket) : Lock :=
  if lock.owner? = some ticket then
    lock.handOver
  else
    { lock with waiters := lock.waiters.filter (· ≠ ticket) }

/-- The owner and then the waiters. -/
def queue (lock : Lock) : List Ticket :=
  lock.owner?.toList ++ lock.waiters

end Lock
end Switchboard
