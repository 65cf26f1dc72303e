import Switchboard.Interceptor

/-!
# Requests with credentials

A request is given its id first and its call credentials last.  Two connections that differ
only in their tokens send it with the same metadata except for the token, unless a token is no
legal value.
-/

namespace Switchboard

/-- Two optional values are both absent or both present. -/
theorem both_of_isSome_eq
    {value? : Option α}
    {other? : Option β}
    (same : value?.isSome = other?.isSome) :
    (value? = none ∧ other? = none) ∨
      ∃ value other, value? = some value ∧ other? = some other := by
  cases value? with
  | none =>
      have absent := Option.isSome_eq_false_iff.mp same.symm
      exact Or.inl ⟨rfl, Option.isNone_iff_eq_none.mp absent⟩
  | some value =>
      obtain ⟨other, present⟩ := Option.isSome_iff_exists.mp same.symm
      exact Or.inr ⟨value, other, rfl, present⟩

/-! ## Writing in place -/

namespace Metadata

theorem remove_put
    (metadata : Metadata)
    (key : String)
    (value : Text.Octets) :
    (metadata.put key value).remove key = metadata.remove key := by
  simp [put, remove]

/-- A value that may not be sent is refused, and the metadata stay as they are. -/
theorem run_write
    (key : String)
    (value : Text.Octets)
    (rejection : Status)
    (metadata : Metadata) :
    (write key value rejection).run metadata =
      if isSendable value then (.ok (), metadata.put key value)
      else (.error rejection, metadata) := by
  cases judged : isSendable value with
  | true =>
      rw [write, judged]
      rfl
  | false =>
      rw [write, judged]
      rfl

theorem result_write
    (key : String)
    (value : Text.Octets)
    (rejection : Status)
    (metadata : Metadata) :
    (write key value rejection).result metadata =
      if isSendable value then .ok (metadata.put key value) else .error rejection := by
  rw [Edit.result, Edit.after, run_write]
  split <;> rfl

end Metadata

/-- A token is shown in metadata if it may be sent. -/
theorem BearerToken.apply_eq
    (token : BearerToken)
    (metadata : Metadata) :
    token.apply metadata =
      if Metadata.isSendable token.value then .ok (metadata.put key token.value)
      else .error rejection :=
  Metadata.result_write _ _ _ _

/-- An id is shown in metadata if it may be sent. -/
theorem CorrelationId.apply_eq
    (id : CorrelationId)
    (metadata : Metadata) :
    id.apply metadata =
      if Metadata.isSendable id.value then .ok (metadata.put key id.value)
      else .error rejection :=
  Metadata.result_write _ _ _ _

/-! ## Requests -/

/-- The metadata of a request with the id that is attached to it. -/
def Request.identified (request : Request) : Except Status Metadata :=
  match request.id? with
  | some id => id.apply request.metadata
  | none => .ok request.metadata

theorem Interceptor.send_of_none
    {interceptor : Interceptor}
    (absent : interceptor.credentials? = none)
    (request : Request) :
    interceptor.send request = request.identified := by
  rw [Interceptor.send, Request.identified, absent]
  cases request.id? with
  | none => rfl
  | some id =>
      change (id.apply request.metadata).bind Except.ok = id.apply request.metadata
      cases id.apply request.metadata <;> rfl

theorem Interceptor.send_of_some
    {interceptor : Interceptor}
    {token : BearerToken}
    (given : interceptor.credentials? = some token)
    (request : Request) :
    interceptor.send request = request.identified.bind token.apply := by
  rw [Interceptor.send, Request.identified, given]
  cases request.id? <;> rfl

/-- Two interceptors send a request with the same metadata except for the token, or one of them
refuses a token that is no legal value. -/
structure Interceptor.SendsAlike
    (interceptor other : Interceptor)
    (request : Request) : Prop where
  /-- Without credentials nothing differs. -/
  plain : interceptor.credentials? = none → interceptor.send request = other.send request
  /-- What is sent differs at most under the key of the token. -/
  sent : ∀ sent otherSent, interceptor.send request = .ok sent →
    other.send request = .ok otherSent →
      sent.remove BearerToken.key = otherSent.remove BearerToken.key
  /-- What is refused by one alone is its token. -/
  refused : ∀ status, interceptor.send request = .error status →
    other.send request = .error status ∨
      status = BearerToken.rejection ∧
        ∃ token, interceptor.credentials? = some token ∧ Metadata.isSendable token.value = false

theorem BearerToken.remove_of_apply
    {token : BearerToken}
    {metadata sent : Metadata}
    (applies : token.apply metadata = .ok sent) :
    sent.remove key = metadata.remove key := by
  rw [BearerToken.apply_eq] at applies
  split at applies
  · cases applies
    exact Metadata.remove_put _ _ _
  · cases applies

theorem BearerToken.of_apply_eq_error
    {token : BearerToken}
    {metadata : Metadata}
    {status : Status}
    (refuses : token.apply metadata = .error status) :
    status = rejection ∧ Metadata.isSendable token.value = false := by
  rw [BearerToken.apply_eq] at refuses
  split at refuses
  · cases refuses
  next illegal =>
    cases refuses
    exact ⟨rfl, Bool.eq_false_iff.mpr illegal⟩

/-- Interceptors that differ at most in the token send every request alike. -/
theorem Interceptor.sendsAlike
    {interceptor other : Interceptor}
    (credentials : interceptor.credentials?.isSome = other.credentials?.isSome)
    (request : Request) :
    interceptor.SendsAlike other request := by
  rcases both_of_isSome_eq credentials with ⟨first, second⟩ | ⟨token, otherToken, first, second⟩
  · have same : interceptor.send request = other.send request := by
      rw [send_of_none first, send_of_none second]
    refine ⟨fun _ => same, fun sent otherSent sends otherSends => ?_, fun status refuses => ?_⟩
    · rw [same, otherSends] at sends
      cases sends
      rfl
    · exact Or.inl (same ▸ refuses)
  · have present : interceptor.credentials? ≠ none := by
      rw [first]
      nofun
    cases identified : request.identified with
    | error fault =>
        have refuses : interceptor.send request = .error fault := by
          rw [send_of_some first, identified]
          rfl
        have otherRefuses : other.send request = .error fault := by
          rw [send_of_some second, identified]
          rfl
        refine ⟨fun absent => absurd absent present, fun _ _ sends _ => ?_, fun status fails => ?_⟩
        · rw [refuses] at sends
          cases sends
        · exact Or.inl (otherRefuses.trans (refuses.symm.trans fails))
    | ok metadata =>
        have applies : interceptor.send request = token.apply metadata := by
          rw [send_of_some first, identified]
          rfl
        have otherApplies : other.send request = otherToken.apply metadata := by
          rw [send_of_some second, identified]
          rfl
        refine ⟨fun absent => absurd absent present, fun sent otherSent sends otherSends => ?_,
          fun status fails => ?_⟩
        · rw [applies] at sends
          rw [otherApplies] at otherSends
          rw [BearerToken.remove_of_apply sends, BearerToken.remove_of_apply otherSends]
        · rw [applies] at fails
          obtain ⟨rejected, illegal⟩ := BearerToken.of_apply_eq_error fails
          exact Or.inr ⟨rejected, token, first, illegal⟩

end Switchboard
