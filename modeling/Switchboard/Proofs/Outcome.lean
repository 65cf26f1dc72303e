/-!
# Steps that can fail

A sequence of steps succeeds exactly if each of them does, one after the other.
-/

namespace Switchboard

/-- A chain of two steps succeeds when both do. -/
theorem bind_eq_ok_iff
    {first : Except ε α}
    {next : α → Except ε β}
    {value : β} :
    first.bind next = .ok value ↔ ∃ middle, first = .ok middle ∧ next middle = .ok value := by
  cases first <;> simp [Except.bind]

/-- Only a result that is a success is one once it has been mapped. -/
theorem map_eq_ok_iff
    {first : Except ε α}
    {next : α → β}
    {value : β} :
    first.map next = .ok value ↔ ∃ middle, first = .ok middle ∧ next middle = value := by
  cases first <;> simp [Except.map]

/-- Renaming the error changes no success. -/
theorem mapError_eq_ok_iff
    {result : Except ε α}
    {rename : ε → δ}
    {value : α} :
    result.mapError rename = .ok value ↔ result = .ok value := by
  cases result with
  | error fault => exact iff_of_false nofun nofun
  | ok found =>
      constructor
      · rintro ⟨⟩
        rfl
      · rintro ⟨⟩
        rfl

theorem map_map
    (first : Except ε α)
    (next : α → β)
    (last : β → γ) :
    (first.map next).map last = first.map fun value => last (next value) := by
  cases first <;> rfl

end Switchboard
