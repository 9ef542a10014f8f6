/-
# Questions

What is sent to the service: the question without blank characters around it, and the database that
it is about, unless there is only one.  A blank question is not sent.

Models `QueryRequest`.
-/

import QueryConsole.Json.Printer
import QueryConsole.Text.Blank

namespace QueryConsole

/-- A question for the service. -/
structure QueryRequest where
  query : String
  database : Option String
  deriving DecidableEq, Repr

namespace QueryRequest

/-- The question that a text asks, if it is not blank. -/
def ofText? (text : String) (database : Option String) : Option QueryRequest :=
  let query := Text.trim text.toList
  if query = [] then none else some ⟨String.ofList query, database⟩

/-- The question as a JSON object; the database is left out where there is none. -/
def toJson (r : QueryRequest) : Json :=
  let database := match r.database with
    | some name => [("databaseName", Json.str name)]
    | none => []
  .obj (("query", .str r.query) :: database)

/-- The text that is sent. -/
def body (r : QueryRequest) : String := r.toJson.compact

end QueryRequest
end QueryConsole
