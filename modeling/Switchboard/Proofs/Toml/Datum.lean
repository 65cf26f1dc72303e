import Mathlib.Logic.Function.Basic
import Switchboard.Config.Decode
import Switchboard.Proofs.Toml.Distinct

/-!
# What values say

A value can be written in many ways and at many places, and the keys of a table can be written in
any order.  What the value says is its datum; two tables say the same if every key has the same
datum in both of them.
-/

namespace Switchboard
namespace Toml

/-- What a value says.  Nothing depends on which number has a point and on which date or time it
is, but for whether the number is within double precision. -/
inductive Datum
  | string (text : String)
  | integer (value : Int)
  | float (representable : Bool)
  | boolean (value : Bool)
  | dateTime
  | array (items : List Datum)
  | table (contents : String → Option Datum)

/-- What a table says: the datum of each key. -/
abbrev Contents := String → Option Datum

/-- No key has a datum. -/
def Contents.empty : Contents := fun _ => none

mutual

/-- What a value says. -/
def Value.datum : Value → Datum
  | .string text => .string text
  | .integer value => .integer value
  | .float number => .float number.value?.isSome
  | .boolean value => .boolean value
  | .dateTime => .dateTime
  | .array _ items => .array (itemData items)
  | .table _ entries => .table (contents entries)

/-- What the items of an array say. -/
def itemData : List (Span × Value) → List Datum
  | [] => []
  | (_, value) :: rest => value.datum :: itemData rest

/-- What the entries of a table say. -/
def contents : List (Key × Span × Value) → Contents
  | [] => .empty
  | (key, _, value) :: rest => Function.update (contents rest) key.text (some value.datum)

end

/-- All numbers in a datum can be represented: whole numbers within 128 bits, others within double
precision. -/
inductive Datum.Fits : Datum → Prop
  | string (text : String) : Fits (.string text)
  | integer {value : Int}
      (lower : -Int.pow 2 127 ≤ value)
      (upper : value < Int.pow 2 128) :
      Fits (.integer value)
  | float : Fits (.float true)
  | boolean (value : Bool) : Fits (.boolean value)
  | dateTime : Fits .dateTime
  | array {items : List Datum}
      (each : ∀ item ∈ items, item.Fits) :
      Fits (.array items)
  | table {contents : Contents}
      (each : ∀ name datum, contents name = some datum → datum.Fits) :
      Fits (.table contents)

theorem itemData_eq (items : List (Span × Value)) :
    itemData items = items.map (·.2.datum) := by
  induction items with
  | nil => rfl
  | cons item rest inductionHypothesis => rw [itemData, inductionHypothesis, List.map_cons]

section Cons

variable {text : String} {place span : Span} {value : Value} {rest : Entries}

theorem contents_cons_self :
    contents ((⟨text, place⟩, span, value) :: rest) text = some value.datum :=
  Function.update_self ..

theorem contents_cons_of_ne
    {name : String}
    (other : name ≠ text) :
    contents ((⟨text, place⟩, span, value) :: rest) name = contents rest name :=
  Function.update_of_ne other ..

end Cons

/-- The contents of a table are the data of what is found there. -/
theorem contents_eq
    (entries : Entries)
    (name : String) :
    contents entries name = (Tree.find? entries name).map (·.2.datum) := by
  induction entries with
  | nil => rfl
  | cons entry rest inductionHypothesis =>
      obtain ⟨⟨text, place⟩, span, value⟩ := entry
      rw [Tree.find?_cons]
      by_cases same : text = name
      · rw [← same, contents_cons_self, if_pos rfl]
        rfl
      · rw [contents_cons_of_ne (Ne.symm same), inductionHypothesis, if_neg same]

/-- A table has no contents under a name that no entry has. -/
theorem contents_eq_none_iff
    {entries : Entries}
    {name : String} :
    contents entries name = none ↔ ∀ entry ∈ entries, entry.1.text ≠ name := by
  rw [contents_eq, Option.map_eq_none_iff, Tree.find?_eq_none_iff]

/-! ## Numbers that can be represented -/

/-- An integer fits from the least signed to the greatest unsigned one of 128 bits. -/
theorem fits_integer_iff {value : Int} :
    Datum.Fits (.integer value) ↔ -Int.pow 2 127 ≤ value ∧ value < Int.pow 2 128 := by
  constructor
  · rintro (_ | ⟨lower, upper⟩)
    exact ⟨lower, upper⟩
  · exact fun within => .integer within.1 within.2

theorem fits_float_iff {representable : Bool} :
    Datum.Fits (.float representable) ↔ representable = true := by
  constructor
  · rintro (_ | _ | _)
    rfl
  · rintro rfl
    exact .float

theorem fits_array_iff {items : List Datum} :
    Datum.Fits (.array items) ↔ ∀ item ∈ items, item.Fits := by
  constructor
  · rintro (_ | _ | _ | _ | _ | each)
    exact each
  · exact .array

/-- A table fits when all it contains does. -/
theorem fits_table_iff {contents : Contents} :
    Datum.Fits (.table contents) ↔ ∀ name datum, contents name = some datum → datum.Fits := by
  constructor
  · rintro (_ | _ | _ | _ | _ | _ | each)
    exact each
  · exact .table

theorem fits_table_empty : Datum.Fits (.table Contents.empty) :=
  fits_table_iff.mpr nofun

theorem fits_table_update
    {key : String}
    {datum : Datum}
    {rest : Contents}
    (first : datum.Fits)
    (others : Datum.Fits (.table rest)) :
    Datum.Fits (.table (Function.update rest key (some datum))) := by
  refine fits_table_iff.mpr fun name other given => ?_
  by_cases same : name = key
  · rw [same, Function.update_self] at given
    cases given
    exact first
  · rw [Function.update_of_ne same] at given
    exact fits_table_iff.mp others name other given

/-! ## Tables without repeated keys -/

namespace AreTidy

variable {entries : Entries} {name : String} {datum : Datum}

/-- What a table without repeated keys says is what its entries say. -/
theorem contents_eq_some_iff (tidy : AreTidy entries) :
    contents entries name = some datum ↔
      ∃ entry ∈ entries, entry.1.text = name ∧ entry.2.2.datum = datum := by
  rw [contents_eq, Option.map_eq_some_iff]
  constructor
  · rintro ⟨⟨span, value⟩, found, given⟩
    obtain ⟨place, member⟩ := tidy.find?_eq_some_iff.mp found
    exact ⟨_, member, rfl, given⟩
  · rintro ⟨⟨⟨text, place⟩, span, value⟩, member, rfl, given⟩
    exact ⟨(span, value), tidy.find?_eq_some_iff.mpr ⟨place, member⟩, given⟩

/-- The order of the keys is no matter. -/
theorem of_perm
    {others : Entries}
    (tidy : AreTidy entries)
    (perm : others.Perm entries) :
    AreTidy others where
  distinct := (perm.map _).nodup_iff.mpr tidy.distinct
  each entry member := tidy.each entry (perm.mem_iff.mp member)

/-- The order of tidy entries does not matter to their contents. -/
theorem contents_of_perm
    {others : Entries}
    (tidy : AreTidy entries)
    (perm : others.Perm entries) :
    contents others = contents entries := by
  funext name
  refine Option.ext fun datum => ?_
  simp only [tidy.contents_eq_some_iff, (tidy.of_perm perm).contents_eq_some_iff, perm.mem_iff]

/-- The contents of tidy entries fit when each entry's datum does. -/
theorem fits_contents_iff (tidy : AreTidy entries) :
    Datum.Fits (.table (contents entries)) ↔ ∀ entry ∈ entries, entry.2.2.datum.Fits := by
  rw [fits_table_iff]
  constructor
  · intro each entry member
    exact each _ _ (tidy.contents_eq_some_iff.mpr ⟨entry, member, rfl, rfl⟩)
  · intro each name datum given
    obtain ⟨entry, member, -, rfl⟩ := tidy.contents_eq_some_iff.mp given
    exact each entry member

end AreTidy

/-! ## Ignored values -/

/-- Of several complaints one comes first. -/
theorem leastKey_eq_none_iff {complaints : List (String × Located)} :
    leastKey complaints = none ↔ complaints = [] := by
  induction complaints with
  | nil => simp [leastKey]
  | cons first rest inductionHypothesis =>
      obtain ⟨key, located⟩ := first
      rw [leastKey]
      split
      · simp
      · next behind =>
          rw [inductionHypothesis]
          refine iff_of_false ?_ (List.cons_ne_nil _ _)
          rintro rfl
          exact behind rfl

mutual

/-- There is no complaint about an ignored value if all its numbers can be represented. -/
theorem ignored_eq_none_iff
    (span : Span) :
    (value : Value) → value.IsTidy → (ignored span value = none ↔ value.datum.Fits)
  | .string text, _ => iff_of_true rfl (.string text)
  | .integer value, _ => by
      rw [ignored, Value.datum, fits_integer_iff, checkInteger]
      by_cases within : -Int.pow 2 127 ≤ value ∧ value < Int.pow 2 128
      · rw [if_pos within]
        exact iff_of_true rfl within
      · rw [if_neg within]
        exact iff_of_false nofun within
  | .float number, _ => by
      rw [ignored, Value.datum, fits_float_iff, checkFloat]
      cases number.value? <;> simp
  | .boolean value, _ => iff_of_true rfl (.boolean value)
  | .dateTime, _ => iff_of_true rfl .dateTime
  | .array _ items, tidy => by
      rw [ignored, Value.datum, fits_array_iff, itemData_eq, List.forall_mem_map]
      exact ignoredItems_eq_none_iff items (isTidy_array_iff.mp tidy)
  | .table _ entries, tidy => by
      have entriesTidy := isTidy_table_iff.mp tidy
      rw [ignored, Value.datum, entriesTidy.fits_contents_iff, leastKey_eq_none_iff]
      exact ignoredEntries_eq_nil_iff entries entriesTidy.each

theorem ignoredItems_eq_none_iff :
    (items : List (Span × Value)) → (∀ item ∈ items, item.2.IsTidy) →
      (ignoredItems items = none ↔ ∀ item ∈ items, item.2.datum.Fits)
  | [], _ => by simp [ignoredItems]
  | (span, value) :: rest, tidy => by
      rw [List.forall_mem_cons] at tidy
      rw [ignoredItems, Option.or_eq_none_iff, ignored_eq_none_iff span value tidy.1,
        ignoredItems_eq_none_iff rest tidy.2, List.forall_mem_cons]

theorem ignoredEntries_eq_nil_iff :
    (entries : List (Key × Span × Value)) → (∀ entry ∈ entries, entry.2.2.IsTidy) →
      (ignoredEntries entries = [] ↔ ∀ entry ∈ entries, entry.2.2.datum.Fits)
  | [], _ => by simp [ignoredEntries]
  | (key, span, value) :: rest, tidy => by
      rw [List.forall_mem_cons] at tidy
      rw [List.forall_mem_cons, ← ignored_eq_none_iff span value tidy.1,
        ← ignoredEntries_eq_nil_iff rest tidy.2, ignoredEntries]
      cases ignored span value <;> simp

end

/-- A value behind an unknown key is passed over exactly when its datum fits. -/
theorem ignore_eq_ok_iff
    {span : Span}
    {value : Value}
    (tidy : value.IsTidy) :
    ignore span value = .ok () ↔ value.datum.Fits := by
  rw [← ignored_eq_none_iff span value tidy, ignore]
  cases ignored span value <;> simp

end Toml
end Switchboard
