import TemplatePaint.Json.Number
import TemplatePaint.Sorted

/-!
# JSON values

A value as the host gives it. The members of an object have distinct keys.
-/

namespace TemplatePaint

/-- A JSON value. -/
inductive Json where
  | null
  | bool (b : Bool)
  | number (n : Number)
  | text (s : String)
  | list (items : List Json)
  | object (members : List (String × Json))

namespace Json

/-- The value of a key, if the value is an object with this key. -/
def member? (j : Json) (key : String) : Option Json :=
  match j with
  | object members => (members.find? (·.1 == key)).map (·.2)
  | _ => none

/-- The members of an object in the order of their keys. -/
def inKeyOrder (members : List (String × Json)) : List (String × Json) :=
  sortBy (fun m n => decide (m.1 ≤ n.1)) members

end Json

end TemplatePaint
