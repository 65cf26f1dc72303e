import Mathlib.Data.List.Nodup
import Switchboard.Table

/-!
# The keys of a table

Setting and erasing keep the keys of a table distinct.  In a table with distinct keys
the entries are exactly what is found.
-/

namespace Switchboard
namespace Table

variable {κ ν : Type} [DecidableEq κ]

theorem others_eq_filter
    (entries : List (κ × ν))
    (key : κ) :
    others entries key = entries.filter (·.1 ≠ key) := by
  induction entries with
  | nil => rfl
  | cons entry rest ih =>
      by_cases same : entry.1 = key <;> simp [others, same, ih]

/-- The keys are listed once each. -/
def HasDistinctKeys (table : Table κ ν) : Prop :=
  table.keys.Nodup

omit [DecidableEq κ] in
theorem hasDistinctKeys_empty : (empty : Table κ ν).HasDistinctKeys :=
  List.nodup_nil

/-- Erasing a key leaves the others distinct. -/
theorem HasDistinctKeys.erase
    {table : Table κ ν}
    (distinct : table.HasDistinctKeys)
    (key : κ) :
    (table.erase key).HasDistinctKeys := by
  unfold HasDistinctKeys keys Table.erase at *
  rw [others_eq_filter]
  exact distinct.sublist (List.filter_sublist.map _)

/-- Setting a key replaces its entry, so the keys stay distinct. -/
theorem HasDistinctKeys.set
    {table : Table κ ν}
    (distinct : table.HasDistinctKeys)
    (key : κ)
    (value : ν) :
    (table.set key value).HasDistinctKeys := by
  have erased := distinct.erase key
  unfold HasDistinctKeys keys Table.erase Table.set at *
  rw [List.map_append, List.nodup_append]
  refine ⟨erased, List.nodup_singleton key, ?_⟩
  intro other member last lastMember equal
  rw [others_eq_filter] at member
  obtain ⟨entry, kept, rfl⟩ := List.mem_map.mp member
  have different := (List.mem_filter.mp kept).2
  simp only [List.map_cons, List.map_nil, List.mem_singleton] at lastMember
  simp [equal, lastMember] at different

/-- When keys are distinct, the first entry of a key is its only one. -/
theorem first?_eq_some_iff
    {entries : List (κ × ν)}
    (distinct : (entries.map (·.1)).Nodup)
    {key : κ}
    {value : ν} :
    first? entries key = some value ↔ (key, value) ∈ entries := by
  induction entries with
  | nil => simp [first?]
  | cons entry rest ih =>
      obtain ⟨headKey, headValue⟩ := entry
      rw [List.map_cons, List.nodup_cons] at distinct
      rw [first?, List.mem_cons]
      by_cases same : headKey = key
      · subst same
        have absent : (headKey, value) ∉ rest := by
          intro member
          exact distinct.1 (List.mem_map.mpr ⟨_, member, rfl⟩)
        simp [absent, eq_comm]
      · simp [same, Ne.symm same, ih distinct.2]

/-- In a table with distinct keys the entries are what is found. -/
theorem HasDistinctKeys.find?_eq_some_iff
    {table : Table κ ν}
    (distinct : table.HasDistinctKeys)
    {key : κ}
    {value : ν} :
    table.find? key = some value ↔ (key, value) ∈ table.entries :=
  first?_eq_some_iff distinct

/-- In a table with distinct keys the keys are those under which something is found. -/
theorem HasDistinctKeys.mem_keys_iff
    {table : Table κ ν}
    (distinct : table.HasDistinctKeys)
    {key : κ} :
    key ∈ table.keys ↔ ∃ value, table.find? key = some value := by
  simp [keys, distinct.find?_eq_some_iff]

end Table
end Switchboard
