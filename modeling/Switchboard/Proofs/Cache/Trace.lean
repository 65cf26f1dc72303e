import Switchboard.Proofs.Cache.History

/-!
# Traces

The trace of a cache is all that it has done: who has dialed, which connections have been
closed and by whom, and which ones the lookups of a span have got.
-/

namespace Switchboard

namespace Effect

/-- The lookup that has an effect. -/
def ticket? : Effect → Option Ticket
  | .notice _ => none
  | .consulted ticket _ | .dialed ticket _ _ | .closed ticket _ _ _ | .returned ticket _ =>
      some ticket

/-- Whether an effect neither dials nor closes anything. -/
def isIdle : Effect → Bool
  | .notice _ | .consulted _ _ | .returned _ _ => true
  | .dialed _ _ _ | .closed _ _ _ _ => false

/-- Whether an effect neither dials, closes nor hands out anything. -/
def isQuiet : Effect → Bool
  | .notice _ | .consulted _ _ | .returned _ (.error _) => true
  | .dialed _ _ _ | .closed _ _ _ _ | .returned _ (.ok _) => false

/-- A quiet effect is an idle one. -/
theorem isIdle_of_isQuiet
    {effect : Effect}
    (quiet : effect.isQuiet = true) :
    effect.isIdle = true := by
  cases effect with
  | notice notice => rfl
  | consulted ticket question => rfl
  | returned ticket outcome => rfl
  | dialed ticket endpoint config => exact absurd quiet Bool.false_ne_true
  | closed ticket connection endpoint state => exact absurd quiet Bool.false_ne_true

end Effect

namespace Trace

/-- A lookup has dialed. -/
def HasDialed
    (effects : List Effect)
    (ticket : Ticket) : Prop :=
  ∃ endpoint config, .dialed ticket endpoint config ∈ effects

/-- A lookup has closed a connection. -/
def HasClosed
    (effects : List Effect)
    (ticket : Ticket) : Prop :=
  ∃ connection endpoint state, .closed ticket connection endpoint state ∈ effects

/-- A connection has been closed. -/
def WasClosed
    (effects : List Effect)
    (connection : Ticket) : Prop :=
  ∃ closer endpoint state, .closed closer connection endpoint state ∈ effects

/-- A lookup of a span has ended with a connection. -/
def HandsOut
    (span : Ticket → Option LookupSpan)
    (effects : List Effect)
    (home : Option LookupSpan)
    (connection : Ticket) : Prop :=
  ∃ ticket, span ticket = home ∧ .returned ticket (.ok connection) ∈ effects

/-- When a connection was dialed, all others that a span hands out had been closed. -/
def Succeeds
    (span : Ticket → Option LookupSpan)
    (effects : List Effect)
    (home : Option LookupSpan)
    (connection : Ticket) : Prop :=
  ∃ before endpoint config after,
    effects = before ++ .dialed connection endpoint config :: after ∧
      ∀ other, other ≠ connection → HandsOut span effects home other →
        WasClosed before other

/-- Nothing is dialed or closed in a trace. -/
def IsIdle (effects : List Effect) : Prop :=
  ∀ effect ∈ effects, effect.isIdle = true

/-- Nothing is dialed, closed or handed out in a trace. -/
def IsQuiet (effects : List Effect) : Prop :=
  ∀ effect ∈ effects, effect.isQuiet = true

variable {span : Ticket → Option LookupSpan} {effects more : List Effect}

theorem hasDialed_append
    {ticket : Ticket} :
    HasDialed (effects ++ more) ticket ↔
      HasDialed effects ticket ∨ HasDialed more ticket := by
  simp [HasDialed, exists_or]

theorem hasClosed_append
    {ticket : Ticket} :
    HasClosed (effects ++ more) ticket ↔
      HasClosed effects ticket ∨ HasClosed more ticket := by
  simp [HasClosed, exists_or]

theorem wasClosed_append
    {connection : Ticket} :
    WasClosed (effects ++ more) connection ↔
      WasClosed effects connection ∨ WasClosed more connection := by
  simp [WasClosed, exists_or]

/-- A connection is handed out in either part of a trace. -/
theorem handsOut_append
    {home : Option LookupSpan}
    {connection : Ticket} :
    HandsOut span (effects ++ more) home connection ↔
      HandsOut span effects home connection ∨ HandsOut span more home connection := by
  simp [HandsOut, and_or_left, exists_or]

theorem isIdle_returned
    (ticket : Ticket)
    (outcome : Outcome) :
    IsIdle [.returned ticket outcome] := by
  intro effect member
  rw [List.mem_singleton] at member
  exact member ▸ rfl

theorem isQuiet_notice (notice : Notice) : IsQuiet [.notice notice] := by
  intro effect member
  rw [List.mem_singleton] at member
  exact member ▸ rfl

/-- An error that is returned hands nothing out. -/
theorem isQuiet_error
    (ticket : Ticket)
    (error : ConnectError) :
    IsQuiet [.returned ticket (.error error)] := by
  intro effect member
  rw [List.mem_singleton] at member
  exact member ▸ rfl

theorem IsQuiet.isIdle (quiet : IsQuiet more) : IsIdle more := by
  intro effect member
  exact Effect.isIdle_of_isQuiet (quiet effect member)

/-- Idle effects dial for no lookup. -/
theorem IsIdle.hasDialed_append_iff
    (idle : IsIdle more)
    (ticket : Ticket) :
    HasDialed (effects ++ more) ticket ↔ HasDialed effects ticket := by
  rw [hasDialed_append]
  refine or_iff_left ?_
  rintro ⟨endpoint, config, member⟩
  exact Bool.false_ne_true (idle _ member)

theorem IsIdle.hasClosed_append_iff
    (idle : IsIdle more)
    (ticket : Ticket) :
    HasClosed (effects ++ more) ticket ↔ HasClosed effects ticket := by
  rw [hasClosed_append]
  refine or_iff_left ?_
  rintro ⟨connection, endpoint, state, member⟩
  exact Bool.false_ne_true (idle _ member)

/-- Idle effects close no connection. -/
theorem IsIdle.wasClosed_append_iff
    (idle : IsIdle more)
    (connection : Ticket) :
    WasClosed (effects ++ more) connection ↔ WasClosed effects connection := by
  rw [wasClosed_append]
  refine or_iff_left ?_
  rintro ⟨closer, endpoint, state, member⟩
  exact Bool.false_ne_true (idle _ member)

/-- Quiet effects return no connection. -/
theorem IsQuiet.not_returned
    (quiet : IsQuiet more)
    (ticket connection : Ticket) :
    .returned ticket (.ok connection) ∉ more := by
  intro member
  exact Bool.false_ne_true (quiet _ member)

/-- A connection still succeeds all others when only itself is handed out. -/
theorem Succeeds.append
    {home : Option LookupSpan}
    {connection : Ticket}
    (succeeds : Succeeds span effects home connection)
    (only : ∀ other, HandsOut span more home other → other = connection) :
    Succeeds span (effects ++ more) home connection := by
  obtain ⟨before, endpoint, config, after, rfl, closed⟩ := succeeds
  refine ⟨before, endpoint, config, after ++ more, ?_, ?_⟩
  · rw [List.append_assoc, List.cons_append]
  · intro other different handedOut
    rcases handsOut_append.mp handedOut with earlier | later
    · exact closed other different earlier
    · exact absurd (only other later) different

end Trace
end Switchboard
