/-
# What a question sends

A submission sends the text of the box without the blank characters around it, and the database that is
selected at that moment, unless there is only one.  `question_on_the_wire` follows it from the console
to the bytes of the request: what a reader of JSON makes of them has the member `query`, the member
`databaseName` exactly if a database is named, and no other.

| step | fact |
| --- | --- |
| trimming | `head?_trim`, `getLast?_trim`, `exists_trim` |
| request | `request?_query` |
| body | `parseBytes_body` |
-/

import QueryConsole.Proofs.Console.Transition
import QueryConsole.Proofs.Json.ReadBack
import QueryConsole.Proofs.Service.Endpoint
import QueryConsole.Proofs.Text.Ends
import QueryConsole.Proofs.Text.Utf8

namespace QueryConsole

/-! ## Trimming -/

namespace Text

/-- **What is left after trimming starts with no blank character.** -/
theorem head?_trim (cs : List Char) : ∀ c ∈ (trim cs).head?, isBlank c = false := by
  intro c hc
  obtain ⟨back, hback, -⟩ := exists_dropEndWhile_append isBlank (trimStart cs)
  have hstart : c ∈ (trimStart cs).head? := by
    rw [hback, List.head?_append, ← trim, hc]
    rfl
  exact head?_dropWhile isBlank cs c hstart

/-- **What is left after trimming ends with no blank character.** -/
theorem getLast?_trim (cs : List Char) : ∀ c ∈ (trim cs).getLast?, isBlank c = false :=
  getLast?_dropEndWhile isBlank (trimStart cs)

end Text

/-! ## The body of a request -/

/-- Bytes are read as the text that they encode. -/
theorem Json.parseBytes_encode (s : String) : parseBytes (Utf8.encode s.toList) = parse s := by
  rw [parseBytes, Utf8.pieces_encode, parse]

namespace QueryRequest

/-- The members of a request: the question, and the database if one is named. -/
def members (r : QueryRequest) : List (String × Json) :=
  ("query", .str r.query) :: r.database.toList.map fun name => ("databaseName", .str name)

theorem toJson_eq (r : QueryRequest) : r.toJson = .obj r.members := by
  obtain ⟨query, database⟩ := r
  cases database <;> rfl

theorem recoverable_toJson (r : QueryRequest) : Json.Recoverable Json.maxDepth r.toJson := by
  obtain ⟨query, database⟩ := r
  cases database with
  | none =>
    exact .obj (List.nodup_singleton _) (List.forall_mem_singleton.mpr (.str _ _))
  | some name =>
    have hkeys : ["query", "databaseName"].Nodup := by decide
    exact .obj hkeys (List.forall_mem_cons.mpr ⟨.str _ _, List.forall_mem_singleton.mpr (.str _ _)⟩)

/-- **The body of a request is read back** as an object of its members. -/
theorem parseBytes_body (r : QueryRequest) :
    Json.parseBytes (Utf8.encode r.body.toList) = .ok (.obj r.members) := by
  rw [Json.parseBytes_encode, body, Json.parse_compact r.recoverable_toJson, toJson_eq]

end QueryRequest

/-- A question is posted as JSON. -/
theorem Server.request?_query {server : Server} {credentials : Credentials} {request : QueryRequest}
    {http : HttpRequest} (h : server.request? credentials (.query request) = some http) :
    http.method = "POST" ∧ http.contentType = some "application/json" ∧
      http.body = request.body := by
  unfold request? at h
  split at h
  · cases h
  · dsimp only at h
    split at h
    · cases h
    · obtain rfl := Option.some.inj h
      exact ⟨rfl, rfl, rfl⟩

/-! ## Submissions -/

namespace Console

/-- A question names the database that is selected, unless only one database is meant. -/
theorem members_question (s : Console) (query : String) :
    QueryRequest.members ⟨query, s.questionDatabase⟩ =
      ("query", .str query) ::
        match s.singleDatabase, s.databases.selectedName with
        | false, some name => [("databaseName", .str name)]
        | _, _ => [] := by
  rw [QueryRequest.members, questionDatabase]
  cases s.singleDatabase <;> cases s.databases.selectedName <;> rfl

/-- **From the box to the wire.**  A submission leaves the submitted text in the box as it is.  It
sends a question exactly if that text has a character that is not blank, and then one question only:
the text without the blank characters around it, which is not empty and neither starts nor ends with
one.  Its body, as bytes, is an object that has as `query` this question, as `databaseName` the
database that is selected at that moment, unless there is none or only one database is meant, and no
other member.  Every request for the question posts this body, and there is such a request to every
server under `http` or `https` whose address ends in no control character and no space, with all
credentials that may be sent. -/
theorem question_on_the_wire (phrases : Phrases) (s : Console) {action : Action} {input : Editor}
    (hsubmits : action.submitted? s.input = some input) :
    (s.reduce phrases action).1.input = input ∧
      ((∃ generation request, .submitQuery generation request ∈ (s.reduce phrases action).2) ↔
        ∃ c ∈ input.chars, Text.isBlank c = false) ∧
      ∀ generation request, .submitQuery generation request ∈ (s.reduce phrases action).2 →
        (s.reduce phrases action).2 = [.submitQuery generation request] ∧
        (∃ front back, input.chars = front ++ request.query.toList ++ back ∧
          (∀ c ∈ front, Text.isBlank c = true) ∧ ∀ c ∈ back, Text.isBlank c = true) ∧
        (∃ c ∈ request.query.toList.head?, Text.isBlank c = false) ∧
        (∃ c ∈ request.query.toList.getLast?, Text.isBlank c = false) ∧
        Json.parseBytes (Utf8.encode request.body.toList) =
          .ok (.obj (("query", .str request.query) ::
            match s.singleDatabase, s.databases.selectedName with
            | false, some name => [("databaseName", .str name)]
            | _, _ => [])) ∧
        (∀ (server : Server) (credentials : Credentials) (http : HttpRequest),
          server.request? credentials (.query request) = some http →
            http.method = "POST" ∧ http.contentType = some "application/json" ∧
              http.body = request.body) ∧
        ∀ (server : Server) (base : Url) (credentials : Credentials),
          Url.parse? server.address = some base →
          base.scheme = "http".toList ∨ base.scheme = "https".toList →
          (∀ c ∈ Url.lastKept server.address, 0x20 < c.toNat) →
          (∀ header ∈ credentials.header?, Server.isHeaderText header = true) →
          (server.request? credentials (.query request)).isSome := by
  rw [reduce_of_submitted hsubmits]
  by_cases hblank : input.IsBlank
  · rw [beginSubmit_of_isBlank (s := { s with input }) hblank]
    refine ⟨rfl, ⟨fun ⟨_, _, hmem⟩ => absurd hmem List.not_mem_nil, fun ⟨c, hc, hprinted⟩ => ?_⟩,
      fun _ _ hmem => absurd hmem List.not_mem_nil⟩
    rw [hblank c hc] at hprinted
    cases hprinted
  · rw [beginSubmit_of_not_isBlank (s := { s with input }) hblank]
    have hprinted : ∃ c ∈ input.chars, Text.isBlank c = false := by
      simpa [Editor.IsBlank] using hblank
    have hne : Text.trim input.chars ≠ [] := fun h => hblank (Text.trim_eq_nil_iff.mp h)
    refine ⟨rfl, ⟨fun _ => hprinted, fun _ => ⟨_, _, List.mem_cons_self⟩⟩,
      fun generation request hmem => ?_⟩
    obtain ⟨rfl, rfl⟩ := Effect.submitQuery.inj (List.mem_singleton.mp hmem)
    have hquery : (String.ofList (Text.trim input.chars)).toList = Text.trim input.chars :=
      String.toList_ofList
    obtain ⟨first, hfirst⟩ := Option.ne_none_iff_exists'.mp (mt List.head?_eq_none_iff.mp hne)
    obtain ⟨last, hlast⟩ := Option.ne_none_iff_exists'.mp (mt List.getLast?_eq_none_iff.mp hne)
    dsimp only
    rw [hquery]
    refine ⟨rfl, Text.exists_trim input.chars, ⟨first, hfirst, Text.head?_trim _ first hfirst⟩,
      ⟨last, hlast, Text.getLast?_trim _ last hlast⟩, ?_, fun _ _ _ => Server.request?_query,
      fun server base credentials hbase hscheme hprinted hheader => ?_⟩
    · rw [QueryRequest.parseBytes_body]
      exact congrArg (fun members => Except.ok (Json.obj members)) (s.members_question _)
    · obtain ⟨http, hhttp⟩ := Server.exists_request?_of_parse? hscheme hbase hprinted hheader _
      exact Option.isSome_of_eq_some hhttp

/-- A suggestion between blank characters of other widths, about a database with a quote in its name,
for a server under `https`. -/
theorem suggestion_on_the_wire :
    ∃ s : Console,
      s = { start "" false with databases := ⟨["sales", "the \"big\" one"], some 1⟩ } ∧
      Action.submitted? s.input (.applySuggestion "\u3000list \t\"all\"\n\u00a0") =
        some (.ofText "\u3000list \t\"all\"\n\u00a0") ∧
      (s.reduce .english (.applySuggestion "\u3000list \t\"all\"\n\u00a0")).2 =
        [.submitQuery 1 ⟨"list \t\"all\"", some "the \"big\" one"⟩] ∧
      Json.parseBytes
          (Utf8.encode (QueryRequest.body ⟨"list \t\"all\"", some "the \"big\" one"⟩).toList) =
        .ok (.obj [("query", .str "list \t\"all\""), ("databaseName", .str "the \"big\" one")]) ∧
      ∃ http, Server.request? ⟨"https://[::1]/v1".toList⟩ .anonymous
          (.query ⟨"list \t\"all\"", some "the \"big\" one"⟩) = some http ∧
        http.method = "POST" ∧
        http.body = QueryRequest.body ⟨"list \t\"all\"", some "the \"big\" one"⟩ := by
  have hsubmits : Action.submitted? (Console.start "" false).input
      (.applySuggestion "\u3000list \t\"all\"\n\u00a0") =
        some (.ofText "\u3000list \t\"all\"\n\u00a0") := rfl
  have hread : Url.parse? "https://[::1]/v1".toList = some
      { scheme := "https".toList, userInfo := none, host := some (.ipv6 [0, 0, 0, 0, 0, 0, 0, 1]),
        port := none, path := .segments ["v1".toList], query := none, fragment := none } := by rfl
  have hprinted : ∀ c ∈ Url.lastKept "https://[::1]/v1".toList, 0x20 < c.toNat := by
    intro c hc
    obtain rfl : '1' = c := Option.some.inj hc
    decide
  refine ⟨_, rfl, hsubmits, by decide, ?_⟩
  obtain ⟨-, -, hsent⟩ := question_on_the_wire .english
    { start "" false with databases := ⟨["sales", "the \"big\" one"], some 1⟩ } hsubmits
  obtain ⟨-, -, -, -, hbody, hposts, hexists⟩ :=
    hsent 1 ⟨"list \t\"all\"", some "the \"big\" one"⟩ (by decide)
  obtain ⟨http, hhttp⟩ := Option.isSome_iff_exists.mp
    (hexists ⟨"https://[::1]/v1".toList⟩ _ .anonymous hread (.inr rfl) hprinted nofun)
  obtain ⟨hmethod, -, hposted⟩ := hposts _ _ http hhttp
  exact ⟨hbody, http, hhttp, hmethod, hposted⟩

end Console
end QueryConsole
