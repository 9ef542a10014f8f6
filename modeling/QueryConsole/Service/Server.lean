/-
# Calls to the service

| call | request |
| --- | --- |
| list of databases | `GET /api/query/databases` |
| schema of a database | `GET /api/query/schema`, with `dbName` for a named database |
| question | `POST /api/query` with a JSON body |

A reply is decoded where its status is 2xx.  The answer to a question may report an error message
under any status, so its body is read before the status is judged.

Models `HttpBackend` with `new`, `url`, `send`, `decode` and its three calls, and `error_message`.
-/

import QueryConsole.Service.CallError
import QueryConsole.Service.Credentials
import QueryConsole.Service.Request
import QueryConsole.Service.Response
import QueryConsole.Service.Schema
import QueryConsole.Url.Basic

namespace QueryConsole

/-- A call to the service. -/
inductive Call where
  | databases
  | schema (database : Option String)
  | query (request : QueryRequest)
  deriving DecidableEq

namespace Call

/-- The path of a call behind the address of the server. -/
def path : Call → List Char
  | databases => "/api/query/databases".toList
  | schema _ => "/api/query/schema".toList
  | query _ => "/api/query".toList

end Call

/-- A request as the server receives it. -/
structure HttpRequest where
  method : String
  target : List Char
  authorization : Option (List Char)
  accept : String
  userAgent : String
  contentType : Option String
  body : String

/-- A complete reply. -/
structure Reply where
  status : Nat
  body : List UInt8

namespace Reply

/-- The reply that a server sends with a status and a body, of which all or only a part arrives.  A
status has three digits; an interim one (1xx, but for 101) announces a reply that does not follow.
Replies with the status 101, 204 or 304 have no body, so nothing of theirs can be missing. -/
def received? (status : Nat) (body : List UInt8) (isWhole : Bool) : Option Reply :=
  if status = 101 ∨ status = 204 ∨ status = 304 then some ⟨status, []⟩
  else if 200 ≤ status ∧ status ≤ 999 ∧ isWhole then some ⟨status, body⟩
  else none

end Reply

/-- The address of a server, as text. -/
structure Server where
  address : List Char
  deriving DecidableEq

namespace Server

/-- The address without blank ends and without slashes at its end. -/
def trimAddress (text : String) : List Char :=
  Text.dropEndWhile (· = '/') (Text.trim text.toList)

/-- The server at an address, which has to be a URL. -/
def ofAddress (text : String) : Except CallError Server :=
  let address := trimAddress text
  match Url.parse? address with
  | some _ => .ok ⟨address⟩
  | none => .error (.invalidUrl (String.ofList address))

/-- The address as text. -/
def endpoint (s : Server) : String := String.ofList s.address

/-- The URL of a call: the address and the path of the call, read as one text. -/
def url? (s : Server) (call : Call) : Option Url :=
  (Url.parse? (s.address ++ call.path)).map fun url =>
    match call with
    | .schema (some name) => url.addField "dbName".toList name.toList
    | _ => url

/-- Whether a text may be the value of a header. -/
def isHeaderText (cs : List Char) : Bool :=
  cs.all fun c => c = '\t' || (0x20 ≤ c.toNat && c.toNat ≠ 0x7F)

/-- A header value as it is read: without spaces and tabs at its ends. -/
def headerValue (cs : List Char) : List Char :=
  let isSpace (c : Char) : Bool := c = ' ' || c = '\t'
  Text.dropEndWhile isSpace (cs.dropWhile isSpace)

/-- The credentials in a URL, decoded. -/
def urlCredentials? (url : Url) : Option Credentials :=
  match url.userInfo with
  | none => none
  | some info =>
    let text? (cs : List Char) : Option (List Char) := Utf8.text? (Percent.decode cs)
    match text? info.username with
    | none => none
    | some username =>
      let password := info.password.bind text?
      if username = [] ∧ password = none then none
      else some (.basic (String.ofList username) (String.ofList (password.getD [])))

/-- Whether requests are sent under a scheme. -/
def isHttp (scheme : List Char) : Bool := scheme = "http".toList || scheme = "https".toList

/-- The request of a call.  There is none where the scheme is neither `http` nor `https`, or a header
text is not allowed.  Credentials in the address come first. -/
def request? (s : Server) (credentials : Credentials) (call : Call) : Option HttpRequest :=
  match s.url? call with
  | none => none
  | some url =>
    let given := credentials.header?
    let header := ((urlCredentials? url).bind Credentials.header?).or given
    if !isHttp url.scheme || given.any fun h => !isHeaderText h then none
    else
      some
        { method := match call with
            | .query _ => "POST"
            | _ => "GET"
          target := url.target
          authorization := header.map headerValue
          accept := "application/json"
          userAgent := "nlq_tui/1.0.0"
          contentType := match call with
            | .query _ => some "application/json"
            | _ => none
          body := match call with
            | .query request => request.body
            | _ => "" }

end Server

namespace Reply

/-- Whether the status reports success. -/
def isSuccess (r : Reply) : Bool := 200 ≤ r.status && r.status ≤ 299

/-- What a reader makes of the body, where the status reports success. -/
def decode {α : Type} (r : Reply) (read : List UInt8 → Except Json.Problem α) :
    Except CallError α :=
  if r.isSuccess then (read r.body).mapError .decode else .error (.ofStatus r.status r.body)

/-- The names of the databases. -/
def databases (r : Reply) : Except CallError (List String) :=
  r.decode fun bytes => Json.whole (Json.sequence Json.text) (Utf8.pieces bytes)

/-- The schema of a database. -/
def schema (r : Reply) : Except CallError Schema := r.decode Schema.parseBytes

/-- The error message of a JSON value, if it is not empty. -/
def errorMessage? (v : Json) : Option String :=
  ((v.member? "errorMessage").bind Json.string?).filter (· ≠ "")

/-- The outcome of a question. -/
def outcome (r : Reply) : Except CallError QueryOutcome :=
  match Json.parseBytes r.body with
  | .error problem =>
    if r.isSuccess then .error (.decode problem) else .error (.ofStatus r.status r.body)
  | .ok v =>
    match errorMessage? v with
    | some message => .ok (.failure message)
    | none =>
      if r.isSuccess then
        match Response.ofJson v with
        | .ok response => .ok response.outcome
        | .error cause => .error (.decode (.mismatch cause))
      else .error (.ofStatus r.status r.body)

end Reply
end QueryConsole
