/-
# Failed calls

Why a call to the service brings no answer.  An error message of the service is not a failed call.

Models `ApiError`.
-/

import QueryConsole.Json.Problem
import QueryConsole.Text.Utf8

namespace QueryConsole

/-- Why a call brings no answer: no reply came, the reply has an error status, its body cannot be
read, or the address of the server is no URL. -/
inductive CallError where
  | transport (text : String)
  | status (code : Nat) (body : String)
  | decode (problem : Json.Problem)
  | invalidUrl (url : String)
  deriving DecidableEq

namespace CallError

/-- The number of characters of a body that a status error keeps. -/
def keptLength : Nat := 200

/-- The error of a reply with an error status: the start of its body, as text. -/
def ofStatus (code : Nat) (body : List UInt8) : CallError :=
  status code (String.ofList ((Utf8.lossy body).take keptLength))

/-- The wording of a problem with the body. -/
def problemText : Json.Problem → String
  | .ended => "unexpected end of text"
  | .malformed => "malformed text"
  | .mismatch cause => cause.message

/-- The wording of an error. -/
def message : CallError → String
  | transport text => "request failed: " ++ text
  | status code body =>
    "server returned HTTP " ++ String.ofList (Nat.toDigits 10 code) ++ ": " ++ body
  | decode problem => "could not decode response: " ++ problemText problem
  | invalidUrl url => "invalid server url '" ++ url ++ "'"

end CallError
end QueryConsole
