/-
# Why JSON text cannot be read

The text ends too early, or is no JSON, or holds a value of another type than the reader wants.
Text is read from its start and the first problem decides, so a value of a wrong type in front of a
malformed part is a mismatch.
-/

import QueryConsole.Json.Printer
import QueryConsole.Text.Quoted

namespace QueryConsole
namespace Json

/-- What a reader wanted. -/
inductive Expected where
  | string
  | boolean
  | sequence
  | tables
  | row
  | response
  | settings
  deriving DecidableEq, Repr

namespace Expected

/-- The wording of what was wanted. -/
def wording : Expected → String
  | string => "a string"
  | boolean => "a boolean"
  | sequence => "a sequence"
  | tables => "a map of table names to column lists"
  | row => "an object of column values"
  | response => "struct QueryResponse"
  | settings => "struct AppConfig"

end Expected

/-- What a reader found instead. -/
inductive Found where
  | null
  | bool (b : Bool)
  | int (n : Int)
  | double (d : Double)
  | str (s : String)
  | sequence
  | map
  deriving DecidableEq

namespace Found

/-- What a value shows of itself. -/
def ofValue : Json → Found
  | .null => null
  | .bool b => bool b
  | .int n => int n
  | .double d => double d
  | .str s => str s
  | .arr _ => sequence
  | .obj _ => map

/-- A text between grave accents. -/
def ticked (kind : String) (cs : List Char) : String :=
  kind ++ String.ofList (' ' :: '\x60' :: cs ++ ['\x60'])

/-- The wording of what was found. -/
def wording : Found → String
  | null => "null"
  | bool b => ticked "boolean" (Json.bool b).chars
  | int n => ticked "integer" (intChars n)
  | double d => ticked "floating point" d.marked
  | str s => "string " ++ String.ofList (Text.quoted s.toList)
  | sequence => "sequence"
  | map => "map"

end Found

/-- A well-formed value that is not what the reader wants. -/
inductive Mismatch where
  | type (found : Found) (expected : Expected)
  | repeatedField (name : String)
  | tooManyItems (count : Nat)
  | other (text : String)
  deriving DecidableEq

namespace Mismatch

/-- The wording of a mismatch. -/
def message : Mismatch → String
  | type found expected => "invalid type: " ++ found.wording ++ ", expected " ++ expected.wording
  | repeatedField name => "duplicate field " ++ String.ofList ('\x60' :: name.toList ++ ['\x60'])
  | tooManyItems count =>
    "invalid length " ++ Decimal.text count ++ ", expected fewer elements in array"
  | other text => text

end Mismatch

/-- Why text cannot be read: it ends too early, is malformed, or has another type. -/
inductive Problem where
  | ended
  | malformed
  | mismatch (cause : Mismatch)
  deriving DecidableEq

end Json
end QueryConsole
