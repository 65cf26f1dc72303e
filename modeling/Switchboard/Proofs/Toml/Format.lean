import Switchboard.Proofs.Outcome
import Switchboard.Proofs.Toml.Datum

/-!
# Tables that set fields

A table is read entry by entry.  A key that is known sets a field to what it states, and a field
without a key stays as it is; of any other key only the numbers behind it matter, which have to be
such that they can be represented.  So what is read depends on what the table says and not on how
it is written.
-/

namespace Switchboard

open Toml

/-- How the keys of a table are understood. -/
structure Format (State Field Setting : Type) where
  /-- The key of a field. -/
  name : Field → String
  /-- The field that a setting is for. -/
  field : Setting → Field
  /-- Whether a setting is stated by a datum. -/
  IsStatedBy : Setting → Datum → Prop
  /-- The setting of a field, if there is one. -/
  setting? : State → Field → Option Setting

namespace Format

variable {State Field Setting : Type}

/-- Numbers behind keys that are not known can be represented. -/
def RestFits
    (name : Field → String)
    (contents : Contents) : Prop :=
  ∀ other datum, (∀ field, name field ≠ other) → contents other = some datum → datum.Fits

/-- What is set for a field behind its key: what the key states, or what was set before if there
is no key. -/
def Sets
    (format : Format State Field Setting)
    (field : Field)
    (datum? : Option Datum)
    (before after : Option Setting) : Prop :=
  match datum? with
  | none => after = before
  | some datum =>
      ∃ setting, format.field setting = field ∧ format.IsStatedBy setting datum ∧
        after = some setting

/-- What a table says leads from one state to another. -/
structure Describes
    (format : Format State Field Setting)
    (contents : Contents)
    (before after : State) : Prop where
  rest : RestFits format.name contents
  fields : ∀ field, format.Sets field (contents (format.name field)) (format.setting? before field)
    (format.setting? after field)

variable {format : Format State Field Setting}

/-- An entry with a key that is not known has to be such that its numbers can be represented. -/
theorem describes_cons_of_unknown
    {text : String}
    {place span : Span}
    {value : Value}
    {rest : Entries}
    {before after : State}
    (unknown : ∀ field, format.name field ≠ text)
    (fresh : contents rest text = none) :
    format.Describes (contents ((⟨text, place⟩, span, value) :: rest)) before after ↔
      value.datum.Fits ∧ format.Describes (contents rest) before after := by
  constructor
  · intro described
    refine ⟨described.rest _ _ unknown contents_cons_self, ?_, fun field => ?_⟩
    · intro name datum unlisted given
      by_cases same : name = text
      · rw [same, fresh] at given
        cases given
      · exact described.rest name datum unlisted ((contents_cons_of_ne same).trans given)
    · rw [← contents_cons_of_ne (unknown field)]
      exact described.fields field
  · rintro ⟨fits, described⟩
    refine ⟨fun name datum unlisted given => ?_, fun field => ?_⟩
    · by_cases same : name = text
      · rw [same, contents_cons_self] at given
        cases given
        exact fits
      · exact described.rest name datum unlisted ((contents_cons_of_ne same).symm.trans given)
    · rw [contents_cons_of_ne (unknown field)]
      exact described.fields field

/-- The entries of a table are read in this way one by one. -/
structure Reads
    (format : Format State Field Setting)
    [DecidableEq Field]
    (add : State → Key × Span × Value → Except Located State)
    (apply : State → Setting → State) : Prop where
  injective : Function.Injective format.name
  known : ∀ field place span value before after, value.IsTidy →
    (add before (⟨format.name field, place⟩, span, value) = .ok after ↔
      ∃ setting, format.field setting = field ∧ format.IsStatedBy setting value.datum ∧
        apply before setting = after)
  unknown : ∀ key span value before after, value.IsTidy → (∀ field, format.name field ≠ key.text) →
    (add before (key, span, value) = .ok after ↔ value.datum.Fits ∧ before = after)
  setting?_apply : ∀ state setting field, format.setting? (apply state setting) field =
    if format.field setting = field then some setting else format.setting? state field
  ext : ∀ left right, (∀ field, format.setting? left field = format.setting? right field) →
    left = right

variable [DecidableEq Field] {add : State → Key × Span × Value → Except Located State}
  {apply : State → Setting → State}

namespace Reads

theorem describes_empty_iff
    (reads : format.Reads add apply)
    {before after : State} :
    format.Describes .empty before after ↔ before = after := by
  constructor
  · exact fun described => reads.ext _ _ fun field => (described.fields field).symm
  · rintro rfl
    exact ⟨nofun, fun _ => rfl⟩

/-- An entry with a key that is known makes a setting, and the others lead on from there. -/
theorem describes_cons_of_known
    (reads : format.Reads add apply)
    {field : Field}
    {place span : Span}
    {value : Value}
    {rest : Entries}
    {before after : State}
    (fresh : contents rest (format.name field) = none) :
    format.Describes (contents ((⟨format.name field, place⟩, span, value) :: rest)) before after ↔
      ∃ setting, format.field setting = field ∧ format.IsStatedBy setting value.datum ∧
        format.Describes (contents rest) (apply before setting) after := by
  constructor
  · intro described
    have set := described.fields field
    rw [contents_cons_self] at set
    obtain ⟨setting, sameField, stated, made⟩ := set
    refine ⟨setting, sameField, stated, ⟨?_, fun other => ?_⟩⟩
    · intro name datum unknown given
      refine described.rest name datum unknown ?_
      rw [contents_cons_of_ne (unknown field).symm, given]
    · rw [reads.setting?_apply]
      by_cases same : other = field
      · subst same
        rw [fresh, if_pos sameField]
        exact made
      · rw [if_neg fun equal => same (equal.symm.trans sameField),
          ← contents_cons_of_ne (reads.injective.ne same)]
        exact described.fields other
  · rintro ⟨setting, sameField, stated, described⟩
    refine ⟨?_, fun other => ?_⟩
    · intro name datum unknown given
      rw [contents_cons_of_ne (unknown field).symm] at given
      exact described.rest name datum unknown given
    · have set := described.fields other
      rw [reads.setting?_apply] at set
      by_cases same : other = field
      · subst same
        rw [fresh, if_pos sameField] at set
        rw [contents_cons_self]
        exact ⟨setting, sameField, stated, set⟩
      · rw [if_neg fun equal => same (equal.symm.trans sameField)] at set
        rw [contents_cons_of_ne (reads.injective.ne same)]
        exact set

/-- The entries of a table are accepted exactly if what the table says leads from the state before
to the one after. -/
theorem foldlM_eq_ok_iff
    (reads : format.Reads add apply)
    {entries : Entries}
    (tidy : AreTidy entries)
    {before after : State} :
    entries.foldlM add before = .ok after ↔ format.Describes (contents entries) before after := by
  induction entries generalizing before with
  | nil => exact (iff_of_eq (Except.ok.injEq _ _)).trans reads.describes_empty_iff.symm
  | cons entry rest inductionHypothesis =>
      obtain ⟨⟨text, place⟩, span, value⟩ := entry
      obtain ⟨valueTidy, restTidy⟩ := List.forall_mem_cons.mp tidy.each
      obtain ⟨unrepeated, distinct⟩ := List.nodup_cons.mp tidy.distinct
      -- No key is there twice, so what the rest says leaves room for the first entry.
      have fresh : contents rest text = none :=
        contents_eq_none_iff.mpr fun entry member same =>
          unrepeated (List.mem_map.mpr ⟨entry, member, same⟩)
      have behind := @inductionHypothesis ⟨distinct, restTidy⟩
      have unfolded : List.foldlM add before ((⟨text, place⟩, span, value) :: rest) =
          (add before (⟨text, place⟩, span, value)).bind fun middle => rest.foldlM add middle :=
        List.foldlM_cons
      rw [unfolded, bind_eq_ok_iff]
      simp only [behind]
      by_cases isKnown : ∃ field, format.name field = text
      · obtain ⟨field, rfl⟩ := isKnown
        rw [reads.describes_cons_of_known fresh]
        constructor
        · rintro ⟨middle, added, described⟩
          obtain ⟨setting, same, stated, rfl⟩ :=
            (reads.known field place span value before middle valueTidy).mp added
          exact ⟨setting, same, stated, described⟩
        · rintro ⟨setting, same, stated, described⟩
          exact ⟨_, (reads.known field place span value before _ valueTidy).mpr
            ⟨setting, same, stated, rfl⟩, described⟩
      · have unknown : ∀ field, format.name field ≠ text := not_exists.mp isKnown
        rw [describes_cons_of_unknown unknown fresh]
        constructor
        · rintro ⟨middle, added, described⟩
          obtain ⟨fits, rfl⟩ :=
            (reads.unknown ⟨text, place⟩ span value before middle valueTidy unknown).mp added
          exact ⟨fits, described⟩
        · rintro ⟨fits, described⟩
          exact ⟨before, (reads.unknown ⟨text, place⟩ span value before before valueTidy
            unknown).mpr ⟨fits, rfl⟩, described⟩

/-- The order in which the entries are read is no matter. -/
theorem foldlM_sortedEntries_eq_ok_iff
    (reads : format.Reads add apply)
    {entries : Entries}
    (tidy : AreTidy entries)
    {before after : State} :
    (sortedEntries entries).foldlM add before = .ok after ↔
      format.Describes (contents entries) before after := by
  have perm : (sortedEntries entries).Perm entries := List.mergeSort_perm entries _
  rw [reads.foldlM_eq_ok_iff (tidy.of_perm perm), tidy.contents_of_perm perm]

end Reads

/-- The value of one key is changed or taken away, and with it changes one field. -/
theorem Describes.update
    {contents : Contents}
    {before after changed : State}
    (described : format.Describes contents before after)
    (injective : Function.Injective format.name)
    (field : Field)
    {datum? : Option Datum}
    (sets : format.Sets field datum? (format.setting? before field)
      (format.setting? changed field))
    (others : ∀ other, other ≠ field →
      format.setting? changed other = format.setting? after other) :
    format.Describes (Function.update contents (format.name field) datum?) before changed where
  rest := by
    intro name datum unknown given
    rw [Function.update_of_ne (unknown field).symm] at given
    exact described.rest name datum unknown given
  fields := by
    intro other
    by_cases same : other = field
    · subst same
      rw [Function.update_self]
      exact sets
    · rw [Function.update_of_ne (injective.ne same), others other same]
      exact described.fields other

end Format
end Switchboard
