/-
# JSON values

Integers of the 64-bit ranges, signed or unsigned, are kept exactly; every other number is a double.
The members of an object are in text order, each key once.
-/

import QueryConsole.Number.Decimal

namespace QueryConsole

/-- A JSON value. -/
inductive Json where
  | null
  | bool (b : Bool)
  | int (n : Int)
  | double (d : Double)
  | str (s : String)
  | arr (items : List Json)
  | obj (members : List (String × Json))

namespace Json

/-- The members with the value put under the key: in place of the value that the key has, or else at
the end. -/
def put (members : List (String × Json)) (key : String) (value : Json) : List (String × Json) :=
  match members with
  | [] => [(key, value)]
  | (k, v) :: rest => if k = key then (k, value) :: rest else (k, v) :: put rest key value

/-- The members of a text put one after the other: a repeated key keeps its first place and takes
its last value. -/
def ofMembers (members : List (String × Json)) : Json :=
  .obj (members.foldl (fun ms (k, v) => put ms k v) [])

/-- The value that members have under a key. -/
def lookup? (members : List (String × Json)) (key : String) : Option Json :=
  (members.find? fun (k, _) => k = key).map (·.2)

/-- The member of an object. -/
def member? (key : String) : Json → Option Json
  | .obj members => lookup? members key
  | _ => none

/-- The text of a string. -/
def string? : Json → Option String
  | .str s => some s
  | _ => none

/-- A number as a double. -/
def number? : Json → Option Double
  | .int n => some (Double.ofInt n)
  | .double d => some d
  | _ => none

/-- The elements of an array. -/
def items? : Json → Option (List Json)
  | .arr items => some items
  | _ => none

/-- The members of an object. -/
def members? : Json → Option (List (String × Json))
  | .obj members => some members
  | _ => none

end Json
end QueryConsole
