/-!
# Finite tables

A table gives at most one value to each key.  Setting a key replaces its value
and erasing a key removes it; other keys keep what they have.
-/

namespace Switchboard

/-- Keys with values, each key being listed once. -/
structure Table (κ ν : Type) where
  /-- The keys and their values. -/
  entries : List (κ × ν)

namespace Table

variable {κ ν : Type} [DecidableEq κ]

/-- No key has a value. -/
def empty : Table κ ν :=
  ⟨[]⟩

/-- The first value that a list gives to a key. -/
def first? : List (κ × ν) → κ → Option ν
  | [], _ => none
  | (other, value) :: rest, key => if other = key then some value else first? rest key

/-- The entries of a list that belong to other keys. -/
def others : List (κ × ν) → κ → List (κ × ν)
  | [], _ => []
  | (other, value) :: rest, key =>
      if other = key then others rest key else (other, value) :: others rest key

/-- The value of a key. -/
def find? (table : Table κ ν) (key : κ) : Option ν :=
  first? table.entries key

/-- The table without a key. -/
def erase (table : Table κ ν) (key : κ) : Table κ ν :=
  ⟨others table.entries key⟩

/-- The table in which a key has a value. -/
def set (table : Table κ ν) (key : κ) (value : ν) : Table κ ν :=
  ⟨others table.entries key ++ [(key, value)]⟩

/-- The number of keys. -/
def size (table : Table κ ν) : Nat :=
  table.entries.length

/-- The keys, in the order in which they got their values. -/
def keys (table : Table κ ν) : List κ :=
  table.entries.map (·.1)

theorem first?_others_self
    (entries : List (κ × ν))
    (key : κ) :
    first? (others entries key) key = none := by
  induction entries with
  | nil => rfl
  | cons entry rest ih =>
      by_cases same : entry.1 = key <;> simp [others, first?, same, ih]

theorem first?_others_of_ne
    (entries : List (κ × ν))
    {key other : κ}
    (different : other ≠ key) :
    first? (others entries key) other = first? entries other := by
  induction entries with
  | nil => rfl
  | cons entry rest ih =>
      by_cases same : entry.1 = key
      · simp [others, first?, same, Ne.symm different, ih]
      · simp [others, first?, same, ih]

theorem first?_append
    (left right : List (κ × ν))
    (key : κ) :
    first? (left ++ right) key = (first? left key).or (first? right key) := by
  induction left with
  | nil => simp [first?]
  | cons entry rest ih =>
      by_cases same : entry.1 = key <;> simp [first?, same, ih]

@[simp]
theorem find?_erase_self
    (table : Table κ ν)
    (key : κ) :
    (table.erase key).find? key = none :=
  first?_others_self table.entries key

theorem find?_erase_of_ne
    (table : Table κ ν)
    {key other : κ}
    (different : other ≠ key) :
    (table.erase key).find? other = table.find? other :=
  first?_others_of_ne table.entries different

@[simp]
theorem find?_set_self
    (table : Table κ ν)
    (key : κ)
    (value : ν) :
    (table.set key value).find? key = some value := by
  simp [find?, set, first?_append, first?_others_self, first?]

theorem find?_set_of_ne
    (table : Table κ ν)
    {key other : κ}
    (value : ν)
    (different : other ≠ key) :
    (table.set key value).find? other = table.find? other := by
  simp [find?, set, first?_append, first?_others_of_ne _ different, first?,
    Ne.symm different]

end Table
end Switchboard
