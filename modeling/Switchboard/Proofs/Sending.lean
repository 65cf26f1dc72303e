import Mathlib.Data.List.Induction
import Switchboard.Proofs.Interceptor

/-!
# What is sent with a request

The id of a request and the token of its connection are written under their own keys, each in
place of all values that the key has had.  Every other key keeps its values.  The id is judged
first, and whatever is not legal is refused before it is written.
-/

namespace Switchboard
namespace Metadata

/-- A value may be sent: it has no control but the tab. -/
def IsLegal (value : Text.Octets) : Prop :=
  ∀ octet ∈ value, octet = 9 ∨ 32 ≤ octet ∧ octet ≠ 127

theorem isSendable_iff (value : Text.Octets) :
    isSendable value = true ↔ IsLegal value := by
  simp [isSendable, isSendableOctet, IsLegal]

/-- A value that need not be given may be sent if it is legal when it is given. -/
theorem all_isSendable_iff
    (given? : Option α)
    (value : α → Text.Octets) :
    (given?.map value).all isSendable = true ↔
      ∀ given, given? = some given → IsLegal (value given) := by
  cases given? with
  | none => simp
  | some given => simp [isSendable_iff]

/-! ## Values under keys -/

theorem values_put_self
    (metadata : Metadata)
    (key : String)
    (value : Text.Octets) :
    (metadata.put key value).values key = [value] := by
  simp [values, put, remove]

theorem values_put_of_ne
    (metadata : Metadata)
    {key other : String}
    (different : other ≠ key)
    (value : Text.Octets) :
    (metadata.put key value).values other = metadata.values other := by
  have kept : (metadata.remove key).values other = metadata.values other := by
    rw [values, values, remove, List.filter_filter]
    congr 1
    apply List.filter_congr
    rintro ⟨name, _⟩ -
    by_cases same : name = other
    · simp [same, different]
    · simp [same]
  rw [← kept]
  simp [values, put, different.symm]

/-- The metadata in which a key has exactly the value that is given, if one is. -/
def putOptional
    (metadata : Metadata)
    (key : String) : Option Text.Octets → Metadata
  | none => metadata
  | some value => metadata.put key value

/-- Only the key of a value that is given is touched. -/
theorem values_putOptional
    (metadata : Metadata)
    {key other : String}
    {value? : Option Text.Octets}
    (untouched : other = key → value? = none) :
    (metadata.putOptional key value?).values other = metadata.values other := by
  cases value? with
  | none => rfl
  | some value =>
      have different : other ≠ key := fun same => nomatch untouched same
      exact metadata.values_put_of_ne different value

end Metadata

/-! ## Requests that are completed -/

/-- A request with metadata, to which ids have been attached one after the other. -/
def Request.tagged
    (metadata : Metadata)
    (ids : List CorrelationId) : Request :=
  ids.foldl attach (ofMetadata metadata)

/-- The id that is attached last counts. -/
theorem Request.tagged_eq
    (metadata : Metadata)
    (ids : List CorrelationId) :
    tagged metadata ids = ⟨metadata, ids.getLast?⟩ := by
  induction ids using List.reverseRecOn with
  | nil => rfl
  | append_singleton earlier id inductionHypothesis =>
      rw [tagged, List.foldl_append, ← tagged, inductionHypothesis, List.getLast?_concat]
      rfl

theorem Request.identified_eq (request : Request) :
    request.identified =
      if (request.id?.map CorrelationId.value).all Metadata.isSendable then
        .ok (request.metadata.putOptional CorrelationId.key
          (request.id?.map CorrelationId.value))
      else .error CorrelationId.rejection := by
  rw [identified]
  cases request.id? with
  | none => rfl
  | some id => exact id.apply_eq request.metadata

namespace Interceptor

/-- What is sent with a request: first the id is judged and then the token. -/
theorem send_eq
    (interceptor : Interceptor)
    (request : Request) :
    interceptor.send request =
      if (request.id?.map CorrelationId.value).all Metadata.isSendable then
        if (interceptor.credentials?.map BearerToken.value).all Metadata.isSendable then
          .ok ((request.metadata.putOptional CorrelationId.key
            (request.id?.map CorrelationId.value)).putOptional BearerToken.key
              (interceptor.credentials?.map BearerToken.value))
        else .error BearerToken.rejection
      else .error CorrelationId.rejection := by
  cases given : interceptor.credentials? with
  | none =>
      rw [send_of_none given, Request.identified_eq]
      rfl
  | some token =>
      rw [send_of_some given, Request.identified_eq]
      split
      · exact token.apply_eq _
      · rfl

/-- How a connection completes a request that has certain metadata, and to which ids have been
attached one after the other. -/
structure Completes
    (interceptor : Interceptor)
    (metadata : Metadata)
    (ids : List CorrelationId) : Prop where
  /-- The request is sent exactly if the last id and the token are legal, as far as there are
  any. -/
  sent_iff : (∃ sent, interceptor.send (.tagged metadata ids) = .ok sent) ↔
    (∀ id, ids.getLast? = some id → Metadata.IsLegal (Text.octets id.text)) ∧
      ∀ token, interceptor.credentials? = some token →
        Metadata.IsLegal (Text.octets ("Bearer " ++ token.secret))
  /-- The last id is sent as the only one. -/
  identified : ∀ sent id, interceptor.send (.tagged metadata ids) = .ok sent →
    ids.getLast? = some id → sent.values "x-correlation-id" = [Text.octets id.text]
  /-- The token is sent as the only one. -/
  authorized : ∀ sent token, interceptor.send (.tagged metadata ids) = .ok sent →
    interceptor.credentials? = some token →
      sent.values "authorization" = [Text.octets ("Bearer " ++ token.secret)]
  /-- Every other key keeps its values in order; so does the key of the id when there is none,
  and that of the token without credentials. -/
  kept : ∀ sent key, interceptor.send (.tagged metadata ids) = .ok sent →
    (key = "x-correlation-id" → ids = []) →
      (key = "authorization" → interceptor.credentials? = none) →
        sent.values key = metadata.values key
  /-- With an illegal id the request is refused for its argument, whatever the token is. -/
  misidentified : ∀ status id, interceptor.send (.tagged metadata ids) = .error status →
    ids.getLast? = some id → ¬Metadata.IsLegal (Text.octets id.text) →
      status = ⟨.invalidArgument, "correlation id is not valid metadata"⟩
  /-- Otherwise it is refused for its token. -/
  unauthorized : ∀ status, interceptor.send (.tagged metadata ids) = .error status →
    (∀ id, ids.getLast? = some id → Metadata.IsLegal (Text.octets id.text)) →
      status = ⟨.unauthenticated, "bearer token is not valid metadata"⟩

variable {interceptor : Interceptor} {metadata sent : Metadata} {ids : List CorrelationId}

/-- What is sent has been judged twice and written twice. -/
theorem send_tagged_eq_ok_iff :
    interceptor.send (.tagged metadata ids) = .ok sent ↔
      (∀ id, ids.getLast? = some id → Metadata.IsLegal id.value) ∧
        (∀ token, interceptor.credentials? = some token → Metadata.IsLegal token.value) ∧
        sent = (metadata.putOptional CorrelationId.key
          (ids.getLast?.map CorrelationId.value)).putOptional BearerToken.key
            (interceptor.credentials?.map BearerToken.value) := by
  rw [Request.tagged_eq, send_eq, ← Metadata.all_isSendable_iff,
    ← Metadata.all_isSendable_iff]
  split
  · next identified =>
      split
      · next authorized => simp [identified, authorized, eq_comm]
      · next unauthorized => simp [unauthorized]
  · next misidentified => simp [misidentified]

/-- What is refused is refused for the id, or for the token of a request with a legal id. -/
theorem send_tagged_eq_error
    {status : Status}
    (refuses : interceptor.send (.tagged metadata ids) = .error status) :
    (¬(∀ id, ids.getLast? = some id → Metadata.IsLegal id.value) ∧
        status = CorrelationId.rejection) ∨
      ((∀ id, ids.getLast? = some id → Metadata.IsLegal id.value) ∧
        status = BearerToken.rejection) := by
  rw [Request.tagged_eq, send_eq] at refuses
  rw [← Metadata.all_isSendable_iff]
  split at refuses
  · next identified =>
      split at refuses
      · cases refuses
      · exact Or.inr ⟨identified, (Except.error.inj refuses).symm⟩
  · next misidentified => exact Or.inl ⟨misidentified, (Except.error.inj refuses).symm⟩

/-- Every connection completes every request so. -/
theorem completes
    (interceptor : Interceptor)
    (metadata : Metadata)
    (ids : List CorrelationId) :
    interceptor.Completes metadata ids where
  sent_iff := by
    simp only [send_tagged_eq_ok_iff]
    exact ⟨fun ⟨_, legal, tokenLegal, _⟩ => ⟨legal, tokenLegal⟩,
      fun ⟨legal, tokenLegal⟩ => ⟨_, legal, tokenLegal, rfl⟩⟩
  identified := by
    intro sent id sends last
    obtain ⟨-, -, rfl⟩ := send_tagged_eq_ok_iff.mp sends
    rw [Metadata.values_putOptional _ fun same => absurd same (by decide), last]
    exact metadata.values_put_self _ _
  authorized := by
    intro sent token sends given
    obtain ⟨-, -, rfl⟩ := send_tagged_eq_ok_iff.mp sends
    rw [given]
    exact Metadata.values_put_self _ _ _
  kept := by
    intro sent key sends idless tokenless
    obtain ⟨-, -, rfl⟩ := send_tagged_eq_ok_iff.mp sends
    rw [Metadata.values_putOptional _ fun same => ?_,
      Metadata.values_putOptional _ fun same => ?_]
    · rw [idless same]
      rfl
    · rw [tokenless same]
      rfl
  misidentified := by
    intro status id refuses last illegal
    rcases send_tagged_eq_error refuses with ⟨-, rejected⟩ | ⟨legal, -⟩
    · exact rejected
    · exact absurd (legal id last) illegal
  unauthorized := by
    intro status refuses legal
    rcases send_tagged_eq_error refuses with ⟨illegal, -⟩ | ⟨-, rejected⟩
    · exact absurd legal illegal
    · exact rejected

end Interceptor

/-- Every connection completes requests so.  What a token makes of metadata is what it leaves
when it is written in place; an illegal one leaves them as they are. -/
theorem requests_completed :
    (∀ (interceptor : Interceptor) metadata ids, interceptor.Completes metadata ids) ∧
    ∀ (token : BearerToken) (metadata : Metadata),
      (token.apply metadata =
        (token.write.run metadata).1.map fun _ => (token.write.run metadata).2) ∧
      (¬Metadata.IsLegal (Text.octets ("Bearer " ++ token.secret)) →
        token.write.run metadata =
          (.error ⟨.unauthenticated, "bearer token is not valid metadata"⟩, metadata)) := by
  refine ⟨Interceptor.completes, fun token metadata => ⟨rfl, ?_⟩⟩
  intro illegal
  rw [BearerToken.write, Metadata.run_write, if_neg]
  · rfl
  · rw [Metadata.isSendable_iff]
    exact illegal

end Switchboard
