import Switchboard.Cache.Basic

/-!
# Endpoints as addresses

A canonical endpoint can be looked up as an address.  It leads back to itself unless its
address is open: then a bracket begins it behind which no port is found, not even the one
that has been appended.
-/

namespace Switchboard
namespace Endpoint

theorem bracketColon_cons
    (first : Char)
    (rest : List Char) :
    bracketColon (first :: rest) =
      (first == ']' && rest.head? == some ':' || bracketColon rest) := by
  rw [bracketColon.eq_def]
  split
  · next more whole =>
      obtain ⟨rfl, rfl⟩ := List.cons.inj whole
      rfl
  · next other whole =>
      obtain ⟨rfl, rfl⟩ := List.cons.inj whole
      have begins : (first == ']' && rest.head? == some ':') = false := by
        rw [Bool.and_eq_false_imp]
        intro closes
        rw [beq_eq_false_iff_ne]
        intro colon
        obtain ⟨more, rfl⟩ := List.head?_eq_some_iff.mp colon
        exact other more (eq_of_beq closes) rfl
      rw [begins, Bool.false_or]
  · next whole => cases whole

/-- A bracket is closed with a colon behind it exactly if the two signs follow each other. -/
theorem bracketColon_iff (chars : List Char) :
    bracketColon chars = true ↔ [']', ':'] <:+: chars := by
  induction chars with
  | nil => simp [bracketColon]
  | cons first rest inductionHypothesis =>
      rw [bracketColon_cons, Bool.or_eq_true, inductionHypothesis, List.infix_cons_iff]
      refine or_congr_left ?_
      cases rest with
      | nil => simp
      | cons second more =>
          simp only [List.head?_cons, Bool.and_eq_true, beq_iff_eq, Option.some.injEq,
            List.cons_prefix_cons, List.nil_prefix, and_true]
          exact and_congr eq_comm eq_comm

theorem bracketColon_eq_false
    {chars : List Char}
    (unclosed : ']' ∉ chars) :
    bracketColon chars = false := by
  rw [← Bool.not_eq_true, bracketColon_iff]
  intro inside
  exact unclosed (inside.subset List.mem_cons_self)

/-- A colon that is appended follows a closing bracket only if the bracket is the last
sign. -/
theorem bracketColon_append_colon
    {digits : List Char}
    (unclosed : ']' ∉ digits)
    (chars : List Char) :
    bracketColon (chars ++ ':' :: digits) =
      (bracketColon chars || chars.getLast? == some ']') := by
  induction chars with
  | nil =>
      apply bracketColon_eq_false
      simpa using unclosed
  | cons first rest inductionHypothesis =>
      rw [List.cons_append, bracketColon_cons, inductionHypothesis, bracketColon_cons]
      cases rest with
      | nil => simp [bracketColon]
      | cons second more => simp [Bool.or_assoc]

/-- An address that begins with a bracket, has no port, and does not end with a closed
bracket. -/
def IsOpen (address : List Char) : Prop :=
  address.head? = some '[' ∧ ¬[']', ':'] <:+: address ∧ address.getLast? ≠ some ']'

instance (address : List Char) : Decidable (IsOpen address) :=
  inferInstanceAs (Decidable (_ ∧ _ ∧ _))

/-- An address begins with a bracket, or a colon anywhere makes a port. -/
theorem hasPort_eq
    (address : List Char) :
    hasPort address =
      if address.head? = some '[' then bracketColon address else address.contains ':' := by
  unfold hasPort
  split
  · rfl
  · next other =>
      rw [if_neg]
      intro begins
      obtain ⟨rest, rfl⟩ := List.head?_eq_some_iff.mp begins
      exact other rest rfl

/-- What has got a port has one, unless it is open. -/
theorem hasPort_append_colon
    {address digits : List Char}
    (unclosed : ']' ∉ digits)
    (portless : hasPort address = false) :
    hasPort (address ++ ':' :: digits) = true ↔ ¬IsOpen address := by
  rw [hasPort_eq] at portless ⊢
  by_cases begins : address.head? = some '['
  · have stillBegins : (address ++ ':' :: digits).head? = some '[' := by
      rw [List.head?_append, begins, Option.some_or]
    rw [if_pos begins] at portless
    rw [if_pos stillBegins, bracketColon_append_colon unclosed, portless, Bool.false_or,
      beq_iff_eq, IsOpen, ← bracketColon_iff, portless]
    simp [begins]
  · have beginsOtherwise : (address ++ ':' :: digits).head? ≠ some '[' := by
      rw [List.head?_append]
      cases head : address.head? with
      | none => simp
      | some first => simpa [head] using begins
    rw [if_neg beginsOtherwise]
    exact iff_of_true (by simp) (fun isOpen => begins isOpen.1)

theorem resolve_of_hasPort
    {address : String}
    (ported : hasPort address.toList = true)
    (port : Nat) :
    resolve address port = address :=
  if_pos ported

theorem resolve_of_portless
    {address : String}
    (portless : hasPort address.toList = false)
    (port : Nat) :
    resolve address port = address ++ ":" ++ toString port := by
  rw [resolve, portless, if_neg Bool.false_ne_true]

/-- Exactly what has a port is left as it is. -/
theorem resolve_eq_self_iff
    (address : String)
    (port : Nat) :
    resolve address port = address ↔ hasPort address.toList = true := by
  refine ⟨fun same => ?_, fun ported => resolve_of_hasPort ported port⟩
  cases ported : hasPort address.toList with
  | true => rfl
  | false =>
      rw [resolve_of_portless ported] at same
      have lengths := congrArg String.length same
      rw [String.length_append, String.length_append] at lengths
      have colon : ":".length = 1 := rfl
      omega

/-- An open address does not keep the port that is appended to it, any other one does. -/
theorem hasPort_append_port
    {address : String}
    (portless : hasPort address.toList = false)
    (port : Nat) :
    hasPort (address ++ ":" ++ toString port).toList = true ↔ ¬IsOpen address.toList := by
  have digits : ']' ∉ (toString port).toList := by
    intro member
    have isDigit : (']').isDigit = true :=
      Nat.isDigit_of_mem_toDigits (by decide) (by decide) (Nat.toList_repr ▸ member)
    exact absurd isDigit (by decide)
  have written : (address ++ ":" ++ toString port).toList =
      address.toList ++ ':' :: (toString port).toList := by
    rw [String.toList_append, String.toList_append, List.append_assoc]
    rfl
  rw [written]
  exact hasPort_append_colon digits portless

/-- An address with a port is not open. -/
theorem not_isOpen_of_hasPort
    {address : List Char}
    (ported : hasPort address = true) :
    ¬IsOpen address := by
  rintro ⟨begins, unclosed, -⟩
  rw [hasPort_eq, if_pos begins, bracketColon_iff] at ported
  exact unclosed ported

/-- Exactly the endpoint of an address that is not open leads back to itself; then a cache has
one entry for both, and an address without a port shares it with the address that has the
default port. -/
theorem resolve_stable_iff (address : String) :
    (∀ port, resolve (resolve address port) port = resolve address port ↔
      ¬IsOpen address.toList) ∧
    (∀ port, hasPort address.toList = false →
      (resolve (address ++ ":" ++ toString port) port = resolve address port ↔
        ¬IsOpen address.toList)) ∧
    (¬IsOpen address.toList → ∀ (cache : Cache) (state : CacheState),
      cache.contains state (cache.family.resolve address) = cache.contains state address) := by
  have appended : ∀ port, hasPort address.toList = false →
      (resolve (address ++ ":" ++ toString port) port = resolve address port ↔
        ¬IsOpen address.toList) := by
    intro port portless
    rw [resolve_of_portless portless, resolve_eq_self_iff, hasPort_append_port portless]
  have twice : ∀ port, resolve (resolve address port) port = resolve address port ↔
      ¬IsOpen address.toList := by
    intro port
    cases ported : hasPort address.toList with
    | true =>
        rw [resolve_of_hasPort ported, resolve_of_hasPort ported]
        exact iff_of_true rfl (not_isOpen_of_hasPort ported)
    | false =>
        have same := appended port ported
        rwa [← resolve_of_portless ported] at same
  refine ⟨twice, appended, ?_⟩
  intro closed cache state
  have same : cache.family.resolve (cache.family.resolve address) =
      cache.family.resolve address := (twice _).mpr closed
  rw [Cache.contains, Cache.contains, same]

/-- An open address gets one port more each time it is resolved. -/
theorem resolve_unstable :
    resolve "[::1" 55000 = "[::1:55000" ∧
      resolve (resolve "[::1" 55000) 55000 = "[::1:55000:55000" := by
  decide

end Endpoint
end Switchboard
