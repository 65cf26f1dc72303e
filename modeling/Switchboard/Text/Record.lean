/-!
# Records as text

A record is shown by its name and its fields in order, an optional value by
whether it is there.
-/

namespace Switchboard
namespace Text

/-- A value of a record that is there, marked as such. -/
def present (value : String) : String :=
  "Some(" ++ value ++ ")"

/-- An optional value of a record, shown by `show?` when it is there. -/
def optional
    (show? : α → String)
    (value : Option α) : String :=
  match value with
  | none => "None"
  | some value => present (show? value)

/-- A truth value of a record. -/
def truth (value : Bool) : String :=
  if value then "true" else "false"

/-- A record with its fields, each a name and a shown value. -/
def record
    (name : String)
    (fields : List (String × String)) : String :=
  let shown := fields.map fun (field, value) => field ++ ": " ++ value
  name ++ " \x7b " ++ String.intercalate ", " shown ++ " \x7d"

end Text
end Switchboard
