/-
# Where calls arrive

An address is checked once, on its own, and the URL of a call is read from the address with the path of
the call behind it.  `Server.Reaches` says that this URL is the endpoint: that of the address, with the
path of the call behind its own path, and no query but the field of the call.

Not every address that is accepted leads there.  Under `http` and `https`,
`Server.calls_reach_endpoints_iff` names the ones that do, for all calls alike:

| the address | where the path of the call goes |
| --- | --- |
| has a fragment | into the fragment, which is not sent |
| has a query | into the query |
| ends in a control character or a space | behind a longer name, or nowhere behind a host or port |
| ends in a slash, or has a path that ends in two | behind one slash too many |
| is any other | behind the path of the address |
-/

import QueryConsole.Proofs.Url.Behind
import QueryConsole.Service.Server

namespace QueryConsole

/-! ## What a call puts behind an address -/

namespace Call

/-- The names in the path of a call. -/
def names : Call → List (List Char)
  | databases => ["api".toList, "query".toList, "databases".toList]
  | schema _ => ["api".toList, "query".toList, "schema".toList]
  | query _ => ["api".toList, "query".toList]

/-- **A call may stand behind an address.** -/
theorem isPath_path (call : Call) : Url.IsPath call.path call.names := by
  have hnames : call.names ⊆
      ["api".toList, "query".toList, "databases".toList, "schema".toList] := by
    cases call <;> simp [names]
  have hdots : ∀ name ∈ ["api".toList, "query".toList, "databases".toList, "schema".toList],
      Url.isDots name = false := by decide
  have hplain : ∀ name ∈ ["api".toList, "query".toList, "databases".toList, "schema".toList],
      name.all (fun c => 0x20 < c.toNat ∧ Percent.inPath c = false ∧ Url.isSlash true c = false) =
        true := by decide
  refine ⟨?_, ?_, ?_, ?_⟩
  · cases call <;> rfl
  · cases call <;> exact List.cons_ne_nil _ _
  · intro name hname
    exact hdots name (hnames hname)
  · intro name hname c hc
    exact of_decide_eq_true (List.all_eq_true.mp (hplain name (hnames hname)) c hc)

theorem letter_mem_path (call : Call) : 'a' ∈ call.path := by
  have hstart : "/api".toList <+: call.path := by
    cases call with
    | databases => exact ⟨"/query/databases".toList, rfl⟩
    | schema _ => exact ⟨"/query/schema".toList, rfl⟩
    | query _ => exact ⟨"/query".toList, rfl⟩
  have hletter : 'a' ∈ "/api".toList := by decide
  exact hstart.subset hletter

/-- The query that a call has: the name of the database whose schema is asked for, as a form field. -/
def field? : Call → Option (List Char)
  | schema (some name) => some ("dbName=".toList ++ Percent.form name.toList)
  | _ => none

/-- The URL of a call, with its field in the query. -/
def withField (call : Call) (url : Url) : Url :=
  match call with
  | schema (some name) => url.addField "dbName".toList name.toList
  | _ => url

/-- The field changes nothing but the query. -/
theorem withField_eq (call : Call) (url : Url) :
    call.withField url = { url with query := (call.withField url).query } := by
  rcases call with _ | (_ | name) | _ <;> rfl

/-- Where there was no query, it is the field. -/
theorem query_withField (call : Call) (url : Url) (h : url.query = none) :
    (call.withField url).query = call.field? := by
  rcases call with _ | (_ | name) | _
  · exact h
  · exact h
  · have hname : Percent.form "dbName".toList = "dbName".toList := by decide
    rw [withField, Url.addField, h, hname]
    rfl
  · exact h

end Call

namespace Server

variable {server : Server} {base url : Url} {call : Call}

theorem url?_eq (server : Server) (call : Call) :
    server.url? call = (Url.parse? (server.address ++ call.path)).map call.withField := by
  rcases call with _ | (_ | name) | _ <;> rfl

/-! ## Endpoints -/

/-- **The call reaches its endpoint** behind the address: the host of its URL is the host of the address,
its path is the path of the address without slashes at its end and the path of the call behind it, and
its query is the field of the call.  This is also what the request names, which there is where the scheme
is `http` or `https` and the credentials may be sent. -/
def Reaches (server : Server) (base : Url) (call : Call) : Prop :=
  ∃ url, server.url? call = some url ∧
    url.scheme = base.scheme ∧ url.userInfo = base.userInfo ∧ url.host = base.host ∧
    url.port = base.port ∧
    url.pathText = Text.dropEndWhile (· = '/') base.pathText ++ call.path ∧
    url.query = call.field? ∧ url.fragment = none ∧
    ∀ credentials : Credentials, base.scheme = "http".toList ∨ base.scheme = "https".toList →
      (∀ header ∈ credentials.header?, isHeaderText header = true) →
      ∃ http, server.request? credentials call = some http ∧
        http.target = Text.dropEndWhile (· = '/') base.pathText ++ call.path ++
          match call.field? with
          | some field => '?' :: field
          | none => []

theorem isHttp_iff {scheme : List Char} :
    isHttp scheme = true ↔ scheme = "http".toList ∨ scheme = "https".toList := by
  rw [isHttp, Bool.or_eq_true, decide_eq_true_iff, decide_eq_true_iff]

/-- A request names the URL of its call. -/
theorem exists_request? {credentials : Credentials} (hurl : server.url? call = some url)
    (hscheme : url.scheme = "http".toList ∨ url.scheme = "https".toList)
    (hheader : ∀ header ∈ credentials.header?, isHeaderText header = true) :
    ∃ http, server.request? credentials call = some http ∧ http.target = url.target := by
  have hallowed : ¬(!isHttp url.scheme ||
      credentials.header?.any fun header => !isHeaderText header) = true := by
    rw [isHttp_iff.mpr hscheme, Bool.not_true, Bool.false_or]
    intro hrefused
    obtain ⟨header, hmem, hrefused⟩ := (Option.any_eq_true _ _).mp hrefused
    rw [hheader header hmem] at hrefused
    cases hrefused
  unfold request?
  rw [hurl]
  dsimp only
  rw [if_neg hallowed]
  exact ⟨_, rfl, rfl⟩

theorem target_of_ne_nil (h : url.pathText ≠ []) :
    url.target = url.pathText ++
      match url.query with
      | some query => '?' :: query
      | none => [] := by
  rw [Url.target, if_neg h]
  cases url.query with
  | none => exact (List.append_nil _).symm
  | some query => rfl

/-- Where the path of the call is put into a directory, that has to be the path of the address without
slashes at its end. -/
theorem reaches_iff_of_parse? {directory : List (List Char)} (hquery : base.query = none)
    (hfragment : base.fragment = none)
    (hparse : Url.parse? (server.address ++ call.path) =
      some { base with path := .segments (directory ++ call.names) }) :
    server.Reaches base call ↔
      Text.dropEndWhile (· = '/') base.pathText = Url.segmentsText directory := by
  have hurl := server.url?_eq call
  rw [hparse, Option.map_some, call.withField_eq,
    call.query_withField { base with path := .segments (directory ++ call.names) } hquery] at hurl
  have hpath : Url.pathText
      { base with path := .segments (directory ++ call.names), query := call.field? } =
        Url.segmentsText directory ++ call.path := by
    rw [call.isPath_path.eq_segmentsText, ← Url.segmentsText_append]
    rfl
  constructor
  · rintro ⟨url, hreached, -, -, -, -, hreachedPath, -⟩
    rw [hurl] at hreached
    obtain rfl := Option.some.inj hreached
    rw [hpath] at hreachedPath
    exact (List.append_cancel_right hreachedPath).symm
  · intro hdirectory
    refine ⟨_, hurl, rfl, rfl, rfl, rfl, ?_, rfl, hfragment, ?_⟩
    · rw [hpath, hdirectory]
    · intro credentials hscheme hheader
      obtain ⟨http, hhttp, htarget⟩ := exists_request? hurl hscheme hheader
      refine ⟨http, hhttp, ?_⟩
      have hne : Url.segmentsText directory ++ call.path ≠ [] := by
        obtain ⟨tail, htail⟩ := call.isPath_path.exists_eq_cons
        rw [htail]
        exact List.append_ne_nil_of_right_ne_nil _ (List.cons_ne_nil _ _)
      rw [htarget, target_of_ne_nil (by rwa [hpath]), hpath, hdirectory]

/-- Where the path of the address stays as it is, no call reaches its endpoint. -/
theorem not_reaches_of_path_eq (hparse : Url.parse? (server.address ++ call.path) = some url)
    (hpath : url.path = base.path) : ¬server.Reaches base call := by
  rintro ⟨reached, hreached, -, -, -, -, hreachedPath, -⟩
  rw [url?_eq, hparse, Option.map_some, call.withField_eq] at hreached
  obtain rfl := Option.some.inj hreached
  obtain ⟨slashes, hslashes, hall⟩ := Text.exists_dropEndWhile_append (· = '/') base.pathText
  have hsame : Url.pathText { url with query := (call.withField url).query } = base.pathText := by
    rw [Url.pathText, Url.pathText, hpath]
  rw [hsame] at hreachedPath
  have hends := hslashes.symm.trans hreachedPath
  have hcall : slashes = call.path := (List.append_right_inj _).mp hends
  have hletter := call.letter_mem_path
  rw [← hcall] at hletter
  have hslash := hall 'a' hletter
  revert hslash
  decide

/-- An address that is accepted is a URL. -/
theorem exists_parse?_of_ofAddress {text : String} (h : ofAddress text = .ok server) :
    ∃ base, Url.parse? server.address = some base := by
  unfold ofAddress at h
  dsimp only at h
  split at h
  · rename_i base hbase
    obtain rfl := Except.ok.inj h
    exact ⟨base, hbase⟩
  · cases h

/-- **When the path of a call is put behind the path of the address:** the address ends in no slash and in
nothing that is read only because the call follows, and its path ends in no two slashes. -/
theorem reaches_iff_of_path (hspecial : Url.isSpecial base.scheme = true)
    (hfile : base.scheme ≠ "file".toList) (hbase : Url.parse? server.address = some base)
    (hquery : base.query = none) (hfragment : base.fragment = none) :
    server.Reaches base call ↔
      (∀ c ∈ Url.lastKept server.address, 0x20 < c.toNat ∧ Url.isSlash true c = false) ∧
        ¬['/', '/'] <:+ base.pathText := by
  obtain ⟨rest, trail, hfollowed⟩ := Url.exists_followed hbase call.isPath_path
  obtain ⟨front, hfirst, hlast, hpath, hparse⟩ :=
    Url.parse?_append_of_path hspecial hfile hbase call.isPath_path hfollowed hfragment hquery
  have hpathText : base.pathText = Url.segmentsText (Url.pathSegments true front) := by
    rw [Url.pathText, hpath]
    rfl
  by_cases htrail : trail = []
  · have hprinted := hfollowed.eq_nil_iff.mp htrail
    rw [if_neg (fun h => h.1 htrail), htrail, List.append_nil] at hparse
    rw [reaches_iff_of_parse? hquery hfragment hparse, hpathText,
      Url.dropEndWhile_pathText_eq_iff hfirst, hlast htrail]
    refine and_congr_left' ⟨fun h c hc => ⟨hprinted c hc, h c hc⟩, fun h c hc => (h c hc).2⟩
  · refine iff_of_false ?_ (fun h => htrail (hfollowed.eq_nil_iff.mpr fun c hc => (h.1 c hc).1))
    by_cases hhost : front = []
    · rw [if_pos ⟨htrail, hhost⟩] at hparse
      rintro ⟨url, hurl, -⟩
      rw [url?_eq, hparse] at hurl
      cases hurl
    · rw [if_neg (fun h => hhost h.2)] at hparse
      rw [reaches_iff_of_parse? hquery hfragment hparse, hpathText]
      intro heq
      have hlt := Url.length_pathText_lt hhost hfirst htrail hfollowed.le_space
      have hle := Text.length_dropEndWhile_le (· = '/')
        (Url.segmentsText (Url.pathSegments true front))
      rw [heq] at hle
      omega

/-- The schemes of requests are special, and not that of files. -/
theorem special_of_http (h : base.scheme = "http".toList ∨ base.scheme = "https".toList) :
    Url.isSpecial base.scheme = true ∧ base.scheme ≠ "file".toList := by
  rcases h with h | h <;> rw [h] <;> decide

/-- **There is a URL for every call** behind an address that ends in no control character and no
space. -/
theorem exists_url? (hscheme : base.scheme = "http".toList ∨ base.scheme = "https".toList)
    (hbase : Url.parse? server.address = some base)
    (hprinted : ∀ c ∈ Url.lastKept server.address, 0x20 < c.toNat) (call : Call) :
    ∃ url, server.url? call = some url ∧ url.scheme = base.scheme := by
  obtain ⟨hspecial, hfile⟩ := special_of_http hscheme
  obtain ⟨rest, trail, hfollowed⟩ := Url.exists_followed hbase call.isPath_path
  have hread : ∃ read, Url.parse? (server.address ++ call.path) = some read ∧
      read.scheme = base.scheme := by
    cases hfragment : base.fragment with
    | some part =>
      obtain ⟨longer, hparse⟩ :=
        Url.parse?_append_of_fragment hspecial hfile hbase call.isPath_path hfollowed hfragment
      exact ⟨_, hparse, rfl⟩
    | none =>
      cases hquery : base.query with
      | some part =>
        obtain ⟨longer, hparse⟩ :=
          Url.parse?_append_of_query hspecial hfile hbase call.isPath_path hfollowed hfragment hquery
        exact ⟨_, hparse, rfl⟩
      | none =>
        obtain ⟨front, -, -, -, hparse⟩ :=
          Url.parse?_append_of_path hspecial hfile hbase call.isPath_path hfollowed hfragment hquery
        rw [if_neg fun h => h.1 (hfollowed.eq_nil_iff.mpr hprinted)] at hparse
        exact ⟨_, hparse, rfl⟩
  obtain ⟨read, hparse, hsame⟩ := hread
  refine ⟨call.withField read, ?_, ?_⟩
  · rw [url?_eq, hparse, Option.map_some]
  · rw [call.withField_eq]
    exact hsame

/-- **There is a request for every call** behind such an address, if the credentials may be sent. -/
theorem exists_request?_of_parse? {credentials : Credentials}
    (hscheme : base.scheme = "http".toList ∨ base.scheme = "https".toList)
    (hbase : Url.parse? server.address = some base)
    (hprinted : ∀ c ∈ Url.lastKept server.address, 0x20 < c.toNat)
    (hheader : ∀ header ∈ credentials.header?, isHeaderText header = true) (call : Call) :
    ∃ http, server.request? credentials call = some http := by
  obtain ⟨url, hurl, hsame⟩ := exists_url? hscheme hbase hprinted call
  obtain ⟨http, hhttp, -⟩ := exists_request? hurl (hsame ▸ hscheme) hheader
  exact ⟨http, hhttp⟩

/-- **Which addresses lead to the endpoints.**  The address of a server that is accepted has a URL; let
its scheme be `http` or `https`.  Then a call reaches its endpoint exactly if the address has no query and
no fragment, ends in no slash of either kind, control character or space, and has a path that ends in no
two slashes; tabs and line ends do not count.  Whether it does is the same for all calls. -/
theorem calls_reach_endpoints_iff {text : String} (haccepted : ofAddress text = .ok server) :
    ∃ base, Url.parse? server.address = some base ∧
      (base.scheme = "http".toList ∨ base.scheme = "https".toList →
        ∀ call, server.Reaches base call ↔
          base.query = none ∧ base.fragment = none ∧
            (∀ c ∈ Url.lastKept server.address, 0x20 < c.toNat ∧ Url.isSlash true c = false) ∧
            ¬['/', '/'] <:+ base.pathText) := by
  obtain ⟨base, hbase⟩ := exists_parse?_of_ofAddress haccepted
  refine ⟨base, hbase, fun hscheme call => ?_⟩
  obtain ⟨hspecial, hfile⟩ := special_of_http hscheme
  obtain ⟨rest, trail, hfollowed⟩ := Url.exists_followed hbase call.isPath_path
  cases hfragment : base.fragment with
  | some part =>
    obtain ⟨longer, hparse⟩ :=
      Url.parse?_append_of_fragment hspecial hfile hbase call.isPath_path hfollowed hfragment
    exact iff_of_false (not_reaches_of_path_eq hparse rfl) (fun h => nomatch h.2.1)
  | none =>
    cases hquery : base.query with
    | some part =>
      obtain ⟨longer, hparse⟩ :=
        Url.parse?_append_of_query hspecial hfile hbase call.isPath_path hfollowed hfragment hquery
      exact iff_of_false (not_reaches_of_path_eq hparse rfl) (fun h => nomatch h.1)
    | none =>
      rw [reaches_iff_of_path hspecial hfile hbase hquery hfragment]
      simp

/-- An address with slashes and blank characters at its end, and a schema of a database with a space in
its name. -/
theorem schema_behind_path :
    ∃ server base, ofAddress " http://[::1]:8080/v1// " = .ok server ∧
      Url.parse? server.address = some base ∧
      server.Reaches base (.schema (some "my db")) ∧
      ∃ http, server.request? .anonymous (.schema (some "my db")) = some http ∧
        http.target = "/v1/api/query/schema?dbName=my+db".toList := by
  have haccepted : ofAddress " http://[::1]:8080/v1// " =
      .ok ⟨"http://[::1]:8080/v1".toList⟩ := by rfl
  obtain ⟨base, hbase, hreaches⟩ := calls_reach_endpoints_iff haccepted
  have hread : Url.parse? "http://[::1]:8080/v1".toList = some
      { scheme := "http".toList, userInfo := none, host := some (.ipv6 [0, 0, 0, 0, 0, 0, 0, 1]),
        port := some 8080, path := .segments ["v1".toList], query := none, fragment := none } := by rfl
  obtain rfl := Option.some.inj (hread.symm.trans hbase)
  have hend : ∀ c ∈ Url.lastKept "http://[::1]:8080/v1".toList,
      0x20 < c.toNat ∧ Url.isSlash true c = false := by
    intro c hc
    obtain rfl : '1' = c := Option.some.inj hc
    decide
  have hreached := (hreaches (.inl rfl) (.schema (some "my db"))).mpr ⟨rfl, rfl, hend, by decide⟩
  exact ⟨_, _, haccepted, hread, hreached, _, rfl, by rfl⟩

/-- An address with a key in its query: the path of the call ends up in the query, behind the key. -/
theorem query_swallows_path :
    ∃ server base, ofAddress "http://[::1]/v1?key=1" = .ok server ∧
      Url.parse? server.address = some base ∧ base.scheme = "http".toList ∧
      ¬server.Reaches base .databases ∧
      ∃ http, server.request? (.basic "admin" "admin") .databases = some http ∧
        http.target = "/v1?key=1/api/query/databases".toList := by
  have haccepted : ofAddress "http://[::1]/v1?key=1" = .ok ⟨"http://[::1]/v1?key=1".toList⟩ := by rfl
  have hread : Url.parse? "http://[::1]/v1?key=1".toList = some
      { scheme := "http".toList, userInfo := none, host := some (.ipv6 [0, 0, 0, 0, 0, 0, 0, 1]),
        port := none, path := .segments ["v1".toList], query := some "key=1".toList
        fragment := none } := by rfl
  have hcall : Url.parse? ("http://[::1]/v1?key=1".toList ++ Call.databases.path) = some
      { scheme := "http".toList, userInfo := none, host := some (.ipv6 [0, 0, 0, 0, 0, 0, 0, 1]),
        port := none, path := .segments ["v1".toList]
        query := some "key=1/api/query/databases".toList, fragment := none } := by rfl
  exact ⟨_, _, haccepted, hread, rfl, not_reaches_of_path_eq hcall rfl, _, rfl, by rfl⟩

end Server
end QueryConsole
