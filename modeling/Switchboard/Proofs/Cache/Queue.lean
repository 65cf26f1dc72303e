import Switchboard.Cache.Lock

/-!
# Locks as queues

A lock that has waiters has an owner.  Such a lock is its queue: the owner is the
head, asking appends at the end, and leaving takes a lookup out wherever it stands.
-/

namespace Switchboard
namespace Lock

/-- Nobody waits for a lock that nobody has. -/
def IsRegular (lock : Lock) : Prop :=
  lock.owner? = none → lock.waiters = []

theorem isRegular_idle : idle.IsRegular :=
  fun _ => rfl

theorem isRegular_request
    (lock : Lock)
    (ticket : Ticket) :
    (lock.request ticket).IsRegular := by
  intro unowned
  cases owner : lock.owner? with
  | none => simp [Lock.request, owner] at unowned
  | some other => simp [Lock.request, owner] at unowned

/-- Asking appends at the end. -/
theorem IsRegular.queue_request
    {lock : Lock}
    (regular : lock.IsRegular)
    (ticket : Ticket) :
    (lock.request ticket).queue = lock.queue ++ [ticket] := by
  cases owner : lock.owner? with
  | none =>
      have unwanted := regular owner
      simp [Lock.request, queue, owner, unwanted]
  | some other => simp [Lock.request, queue, owner]

theorem owner?_request_of_eq_some
    {lock : Lock}
    {owner : Ticket}
    (owned : lock.owner? = some owner)
    (ticket : Ticket) :
    (lock.request ticket).owner? = some owner := by
  simp [Lock.request, owned]

/-- The owner is the head of the queue. -/
theorem IsRegular.owner?_eq_head?
    {lock : Lock}
    (regular : lock.IsRegular) :
    lock.owner? = lock.queue.head? := by
  cases owner : lock.owner? with
  | none =>
      have unwanted := regular owner
      simp [queue, owner, unwanted]
  | some other => simp [queue, owner]

/-- A lock is free exactly when its queue is empty. -/
theorem IsRegular.isTaken_eq_false_iff
    {lock : Lock}
    (regular : lock.IsRegular) :
    lock.isTaken = false ↔ lock.queue = [] := by
  rw [isTaken, regular.owner?_eq_head?, Option.isSome_eq_false_iff,
    Option.isNone_iff_eq_none, List.head?_eq_none_iff]

theorem isRegular_handOver (lock : Lock) : lock.handOver.IsRegular := by
  intro unowned
  cases waiting : lock.waiters with
  | nil => simp [handOver, waiting]
  | cons first others => simp [handOver, waiting] at unowned

theorem queue_handOver (lock : Lock) : lock.handOver.queue = lock.waiters := by
  cases waiting : lock.waiters with
  | nil => simp [handOver, queue, waiting]
  | cons first others => simp [handOver, queue, waiting]

theorem IsRegular.leave
    {lock : Lock}
    (regular : lock.IsRegular)
    (ticket : Ticket) :
    (lock.leave ticket).IsRegular := by
  by_cases owner : lock.owner? = some ticket
  · rw [Lock.leave, if_pos owner]
    exact lock.isRegular_handOver
  · rw [Lock.leave, if_neg owner]
    intro unowned
    have unwanted := regular unowned
    simp [unwanted]

/-- Leaving takes a lookup out of the queue. -/
theorem IsRegular.queue_leave
    {lock : Lock}
    (regular : lock.IsRegular)
    (distinct : lock.queue.Nodup)
    (ticket : Ticket) :
    (lock.leave ticket).queue = lock.queue.filter (· ≠ ticket) := by
  cases owner : lock.owner? with
  | none =>
      have unwanted := regular owner
      simp [Lock.leave, queue, owner, unwanted]
  | some other =>
      rw [queue, owner] at distinct
      by_cases same : other = ticket
      · subst same
        have absent : ∀ waiter ∈ lock.waiters, waiter ≠ other := by
          intro waiter member equal
          subst equal
          exact (List.nodup_cons.mp distinct).1 member
        rw [Lock.leave, if_pos owner, queue_handOver, queue, owner]
        simp only [Option.toList_some, List.singleton_append, List.filter_cons, ne_eq,
          not_true_eq_false, decide_false, Bool.false_eq_true, if_false]
        rw [List.filter_eq_self.mpr]
        simpa using absent
      · have stays : lock.owner? ≠ some ticket := by
          rw [owner]
          simpa using same
        rw [Lock.leave, if_neg stays, queue, queue, owner]
        simp [same]

/-- An owner keeps the lock when somebody else leaves. -/
theorem owner?_leave_of_ne
    {lock : Lock}
    {owner ticket : Ticket}
    (owned : lock.owner? = some owner)
    (different : owner ≠ ticket) :
    (lock.leave ticket).owner? = some owner := by
  have stays : lock.owner? ≠ some ticket := by
    rw [owned]
    simpa using different
  rw [leave, if_neg stays]
  exact owned

end Lock
end Switchboard
