/-
# Views of answers

What the console shows of a successful answer: the generated query, time, row count, confidence,
intent, and the table.

Models `ResultView`, `ResultMetadata` and `format_confidence`.
-/

import QueryConsole.Results.Table
import QueryConsole.Service.Response

namespace QueryConsole

/-- What the console shows of a successful answer. -/
structure ResultView where
  generatedQuery : String
  executionTime : String
  rowCount : String
  confidence : String
  intent : Option String
  table : ResultTable
  deriving DecidableEq

namespace ResultView

/-- A fraction in whole percent; zero where it is missing or not finite. -/
def percentage (fraction : Option Double) : String :=
  String.ofList (Json.intChars (Response.finiteOrZero fraction).roundedHundredfold ++ ['%'])

/-- The view of a successful answer. -/
def ofSuccess (phrases : Phrases) (s : QuerySuccess) : ResultView where
  generatedQuery := (s.generatedQuery.filter (· ≠ "")).getD phrases.notAvailable
  executionTime := String.ofList (s.executionTimeMs.display ++ ['m', 's'])
  rowCount := String.ofList s.rowCount.display
  confidence := percentage s.confidence
  intent := s.intent.filter (· ≠ "")
  table := ResultTable.ofRows phrases s.results

end ResultView
end QueryConsole
