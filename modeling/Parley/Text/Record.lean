/-!
Values with named parts, as diagnostics show them.
-/

namespace Parley.Text

-- Whether a record shows all its fields; if some are held back, two points stand for them.
inductive Extent where
  | whole
  | partly

-- The name, then the fields in braces, each with its label.
def record (name : String) (fields : List (String × String)) (extent : Extent) : String :=
  let shown := fields.map fun (label, value) => label ++ ": " ++ value
  let items := match extent with
    | .whole => shown
    | .partly => shown ++ [".."]
  name ++ " \x7b " ++ String.intercalate ", " items ++ " \x7d"

-- A value that may be missing.
def optional : Option String → String
  | none => "None"
  | some value => "Some(" ++ value ++ ")"

def truth (b : Bool) : String :=
  if b then "true" else "false"

end Parley.Text
