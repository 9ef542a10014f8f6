/-
# Answers

The service answers a question with an object of optional fields.  A field of a wrong type counts as
missing.  A non-empty error message makes the answer a failure whatever else it holds; any other
answer is a success.

Models `QueryResponse` with `lenient` and `into_outcome`, `QueryOutcome` and `QuerySuccess`.
-/

import QueryConsole.Service.Row

namespace QueryConsole

/-- The fields of an answer. -/
structure Response where
  intent : Option String
  generatedQuery : Option String
  executionTimeMs : Option Double
  rowCount : Option Double
  confidence : Option Double
  results : Option (List Row)
  errorMessage : Option String
  deriving DecidableEq

/-- What a successful answer carries. -/
structure QuerySuccess where
  intent : Option String
  generatedQuery : Option String
  executionTimeMs : Double
  rowCount : Double
  confidence : Option Double
  results : List Row
  deriving DecidableEq

/-- A successful answer, or the error message of the service. -/
inductive QueryOutcome where
  | success (s : QuerySuccess)
  | failure (message : String)
  deriving DecidableEq

namespace Response

open Utf8 (Piece)

/-- The names of the fields, in order. -/
def fields : List String :=
  ["intent", "generatedQuery", "executionTimeMs", "rowCount", "confidence", "results",
    "errorMessage"]

/-- The rows that a value is: an array whose elements are all objects. -/
def rows? (v : Json) : Option (List Row) :=
  match v.items? with
  | some items => items.mapM Row.ofJson?
  | none => none

/-- The answer whose fields have the given values. -/
def ofFields (value? : String → Option Json) : Response where
  intent := (value? "intent").bind Json.string?
  generatedQuery := (value? "generatedQuery").bind Json.string?
  executionTimeMs := (value? "executionTimeMs").bind Json.number?
  rowCount := (value? "rowCount").bind Json.number?
  confidence := (value? "confidence").bind Json.number?
  results := (value? "results").bind rows?
  errorMessage := (value? "errorMessage").bind Json.string?

/-- The answer that a JSON value is: an object, or an array of the fields in order. -/
def ofJson (v : Json) : Except Json.Mismatch Response :=
  match v with
  | .obj members => .ok (ofFields (Json.lookup? members))
  | .arr items =>
    if items.length ≤ fields.length then .ok (ofFields (Json.lookup? (fields.zip items)))
    else .error (.tooManyItems items.length)
  | v => .error (.type (Json.Found.ofValue v) .response)

/-- Reads an answer; each field may be written once. -/
def read (s : List Piece) : Json.Read Response :=
  (Json.record .response fields
    (fun name members s =>
      (Json.value (Json.maxDepth - 1) s).map fun (v, s) => ((name, v) :: members, s)) [] s).map
    fun (members, s) => (ofFields (Json.lookup? members), s)

/-- The answer that a text writes. -/
def parse (s : String) : Except Json.Problem Response :=
  Json.whole read (Utf8.ofChars s.toList)

/-- A number of an answer, zero where it is missing or not finite. -/
def finiteOrZero (d : Option Double) : Double :=
  match d with
  | some d => if d.isFinite then d else ⟨0⟩
  | none => ⟨0⟩

/-- The outcome that an answer reports. -/
def outcome (r : Response) : QueryOutcome :=
  match r.errorMessage.filter (· ≠ "") with
  | some message => .failure message
  | none =>
    .success
      { intent := r.intent
        generatedQuery := r.generatedQuery
        executionTimeMs := finiteOrZero r.executionTimeMs
        rowCount := finiteOrZero r.rowCount
        confidence := r.confidence
        results := r.results.getD [] }

end Response
end QueryConsole
