/-!
# Edits

Something that stays with its owner is edited in place, and the edit may be refused on the way.
Whatever has been done before stays done.
-/

namespace Switchboard

/-- An edit in place, which may be refused. -/
abbrev Edit (Refusal State : Type) : Type → Type :=
  ExceptT Refusal (StateM State)

namespace Edit

variable {Refusal State : Type}

/-- The edit in which something else is made of what is there; if it cannot be made, all stays
as it is. -/
def remake (make : State → Except Refusal State) : Edit Refusal State Unit :=
  ExceptT.mk fun state =>
    match make state with
    | .ok made => (.ok (), made)
    | .error refusal => (.error refusal, state)

theorem run_remake_of_ok
    {make : State → Except Refusal State}
    {state made : State}
    (makes : make state = .ok made) :
    (remake make).run state = (.ok (), made) := by
  simp only [remake, ExceptT.run_mk, makes]

theorem run_remake_of_error
    {make : State → Except Refusal State}
    {state : State}
    {refusal : Refusal}
    (refuses : make state = .error refusal) :
    (remake make).run state = (.error refusal, state) := by
  simp only [remake, ExceptT.run_mk, refuses]

/-- What is there after an edit, whether it has been refused or not. -/
def after (edit : Edit Refusal State Unit) (state : State) : State :=
  (edit.run state).2

/-- What an edit makes, unless it is refused. -/
def result (edit : Edit Refusal State Unit) (state : State) : Except Refusal State :=
  (edit.run state).1.map fun _ => edit.after state

end Edit
end Switchboard
