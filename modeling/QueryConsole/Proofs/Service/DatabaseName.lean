/-
# Names of databases in requests

The schema of a named database is asked for with the name in the query of the request, as a form field.
Every text may be such a name.  The field is encoded, so nothing in the name ends the field, starts another
one or reaches the path (`NamesDatabase`): the request for a name differs from the one without a name in
its query alone, and from this the name is read back.

This holds behind every address without a query and a fragment (`schema_request_names_database`).
-/

import QueryConsole.Proofs.Service.Endpoint
import QueryConsole.Proofs.Url.Percent

namespace QueryConsole

/-! ## Addresses without a query -/

namespace Url

variable {text path : List Char} {names : List (List Char)} {base url : Url}

/-- **Behind an address without a query and a fragment** there is none either where a path follows. -/
theorem query_of_parse?_append (hbase : parse? text = some base) (hquery : base.query = none)
    (hfragment : base.fragment = none) (hpath : IsPath path names)
    (h : parse? (text ++ path) = some url) : url.query = none ∧ '?' ∉ url.pathText := by
  obtain ⟨rest, trail, hfollowed⟩ := exists_followed hbase hpath
  obtain ⟨alone, halone, hbaseQuery, hbaseFragment, -⟩ := exists_parts hbase
  obtain ⟨longer, hlonger, hlongerQuery, -, hquestion⟩ := exists_parts h
  obtain ⟨-, rfl⟩ := Prod.mk.inj (Option.some.inj (hfollowed.alone.symm.trans halone))
  obtain ⟨-, rfl⟩ := Prod.mk.inj (Option.some.inj (hfollowed.followed.symm.trans hlonger))
  rw [hfragment, eq_comm, Option.map_eq_none_iff] at hbaseFragment
  rw [fst_cut_of_none hbaseFragment, hquery, eq_comm, Option.map_eq_none_iff] at hbaseQuery
  have hfragmentCut : cut '#' (rest ++ (trail ++ path)) = (rest ++ (trail ++ path), none) := by
    rw [cut_append (hfollowed.not_mem hpath (by decide) (by decide) (by decide)), hbaseFragment]
  have hqueryCut : cut '?' (rest ++ (trail ++ path)) = (rest ++ (trail ++ path), none) := by
    rw [cut_append (hfollowed.not_mem hpath (by decide) (by decide) (by decide)), hbaseQuery]
  rw [hfragmentCut, hqueryCut] at hlongerQuery
  exact ⟨hlongerQuery, hquestion⟩

/-- A field in a URL without a query is all that is added to what a request names. -/
theorem target_addField (hquery : url.query = none) (name value : List Char) :
    (url.addField name value).target =
      url.target ++ '?' :: (Percent.form name ++ '=' :: Percent.form value) := by
  rw [target, target, addField, hquery]
  rfl

end Url

namespace Server

variable {server : Server} {base url : Url}

/-! ## The field of a name -/

/-- The fields of a query as texts; a field whose bytes write no text has none. -/
def queryFields (query : List Char) : List (Option (List Char) × Option (List Char)) :=
  (Percent.formFields query).map fun (name, value) => (Utf8.text? name, Utf8.text? value)

/-- The query for the schema of a database. -/
def databaseField (name : String) : List Char :=
  Percent.form "dbName".toList ++ '=' :: Percent.form name.toList

/-- **The name of a database is read back,** as the only field of the query. -/
theorem queryFields_databaseField (name : String) :
    queryFields (databaseField name) = [(some "dbName".toList, some name.toList)] := by
  rw [queryFields, databaseField, Percent.formFields_field, List.map_singleton]
  dsimp only
  rw [Utf8.text?_encode, Utf8.text?_encode]

/-- Names of databases reach a request only as the one field of its query.  What a request names, with
the name of a database or without, is cut at its first question mark into path and query: there is a
request for every name or for none, its path is always the same, without a name there is no query, and
else the field of the query says the name, so that requests for two names differ. -/
structure NamesDatabase (target? : Option String → Option (List Char)) : Prop where
  isSome_eq : ∀ name : String, (target? (some name)).isSome = (target? none).isSome
  plain : ∀ target ∈ target? none, (Url.cut '?' target).2 = none
  named : ∀ name : String, ∀ target ∈ target? none, ∀ named ∈ target? (some name),
    ∃ query, Url.cut '?' named = ((Url.cut '?' target).1, some query) ∧
      queryFields query = [(some "dbName".toList, some name.toList)]
  injective : ∀ name other : String, ∀ target ∈ target? (some name), target ∈ target? (some other) →
    name = other

/-- Where the field is put behind a path, it is all that a name does. -/
theorem namesDatabase_of_append {target? : Option String → Option (List Char)}
    (hplain : ∀ path ∈ target? none, '?' ∉ path)
    (hnamed : ∀ name, target? (some name) =
      (target? none).map fun path => path ++ '?' :: databaseField name) :
    NamesDatabase target? := by
  have hcut : ∀ name, ∀ path ∈ target? none, ∀ named ∈ target? (some name),
      Url.cut '?' named = (path, some (databaseField name)) := by
    intro name path hpath named hmem
    rw [hnamed, Option.mem_def.mp hpath, Option.map_some] at hmem
    obtain rfl := Option.some.inj hmem
    exact Url.cut_append_cons (hplain path hpath) _
  refine ⟨?_, ?_, ?_, ?_⟩
  · intro name
    rw [hnamed, Option.isSome_map]
  · intro path hpath
    rw [Url.cut_of_not_mem (hplain path hpath)]
  · intro name path hpath named hmem
    rw [Url.cut_of_not_mem (hplain path hpath)]
    exact ⟨databaseField name, hcut name path hpath named hmem, queryFields_databaseField name⟩
  · intro name other target htarget hother
    rw [hnamed] at htarget
    obtain ⟨path, hpath, -⟩ := Option.map_eq_some_iff.mp htarget
    rw [← hnamed] at htarget
    have hfields := (hcut name path hpath target htarget).symm.trans
      (hcut other path hpath target hother)
    have hfield : databaseField name = databaseField other :=
      Option.some.inj (Prod.mk.inj hfields).2
    have hread := congrArg queryFields hfield
    rw [queryFields_databaseField, queryFields_databaseField] at hread
    have htext : name.toList = other.toList := by simpa using hread
    exact String.toList_inj.mp htext

/-! ## URLs and requests -/

/-- The URL for a name is the one without, with the field of the name. -/
theorem url?_schema_some (server : Server) (name : String) :
    server.url? (.schema (some name)) =
      (server.url? (.schema none)).map fun url => url.addField "dbName".toList name.toList := by
  rw [url?_eq, url?_eq, Option.map_map]
  rfl

/-- The URL of the schema without a name has no query behind an address without one. -/
theorem query_of_url?_schema_none (hbase : Url.parse? server.address = some base)
    (hquery : base.query = none) (hfragment : base.fragment = none)
    (hurl : server.url? (.schema none) = some url) : url.query = none ∧ '?' ∉ url.target := by
  rw [url?_eq, Option.map_eq_some_iff] at hurl
  obtain ⟨read, hread, rfl⟩ := hurl
  have hparts := Url.query_of_parse?_append hbase hquery hfragment
    (Call.isPath_path (.schema none)) hread
  refine ⟨hparts.1, ?_⟩
  have hcut := Url.cut_target hparts.2
  rw [hparts.1] at hcut
  intro hmem
  have hwhole := Url.fst_cut_of_none (congrArg Prod.snd hcut)
  have hnot := Url.not_mem_fst_cut '?' read.target
  rw [hwhole] at hnot
  exact hnot hmem

/-- The target of a URL for a name. -/
theorem target_of_url? (hbase : Url.parse? server.address = some base) (hquery : base.query = none)
    (hfragment : base.fragment = none) (name : String) :
    (server.url? (.schema (some name))).map Url.target =
      ((server.url? (.schema none)).map Url.target).map
        fun path => path ++ '?' :: databaseField name := by
  rw [url?_schema_some, Option.map_map, Option.map_map]
  refine Option.map_congr fun url hurl => ?_
  exact Url.target_addField (query_of_url?_schema_none hbase hquery hfragment hurl).1 _ _

/-- A request names its URL. -/
theorem target_of_request? {credentials : Credentials} {call : Call} {http : HttpRequest}
    (h : server.request? credentials call = some http) :
    ∃ url, server.url? call = some url ∧ http.target = url.target := by
  unfold request? at h
  split at h
  · cases h
  · rename_i url hurl
    dsimp only at h
    split at h
    · cases h
    · obtain rfl := Option.some.inj h
      exact ⟨url, hurl, rfl⟩

/-- There is a request for a name where there is one without. -/
theorem isSome_request?_schema (server : Server) (credentials : Credentials) (name : String) :
    (server.request? credentials (.schema (some name))).isSome =
      (server.request? credentials (.schema none)).isSome := by
  unfold request?
  rw [url?_schema_some]
  cases server.url? (.schema none) with
  | none => rfl
  | some url =>
    rw [Option.map_some]
    dsimp only
    have hscheme : (url.addField "dbName".toList name.toList).scheme = url.scheme := rfl
    rw [hscheme]
    split
    · rfl
    · rfl

/-- The target of a request for a name. -/
theorem target_of_request?_schema (hbase : Url.parse? server.address = some base)
    (hquery : base.query = none) (hfragment : base.fragment = none) (credentials : Credentials)
    (name : String) :
    (server.request? credentials (.schema (some name))).map HttpRequest.target =
      ((server.request? credentials (.schema none)).map HttpRequest.target).map
        fun path => path ++ '?' :: databaseField name := by
  have hsame := server.isSome_request?_schema credentials name
  cases hplain : server.request? credentials (.schema none) with
  | none =>
    rw [hplain, Option.isSome_none, Option.isSome_eq_false_iff, Option.isNone_iff_eq_none] at hsame
    rw [hsame]
    rfl
  | some plain =>
    rw [hplain, Option.isSome_some, Option.isSome_iff_exists] at hsame
    obtain ⟨named, hnamed⟩ := hsame
    obtain ⟨url, hurl, htarget⟩ := target_of_request? hplain
    obtain ⟨url', hurl', htarget'⟩ := target_of_request? hnamed
    have htargets := target_of_url? hbase hquery hfragment name
    rw [hurl, hurl'] at htargets
    rw [hnamed, Option.map_some, Option.map_some, htarget, htarget']
    exact htargets

/-- **The name of a database alters nothing but the query of the schema request.**  Let the address of a
server have neither a query nor a fragment.  Then every text may name a database, in URLs and in requests
with any credentials (`NamesDatabase`).  Under `http` and `https` there is such a URL if the address ends in
no control character and no space, and a request too if the credentials may be sent. -/
theorem schema_request_names_database (hbase : Url.parse? server.address = some base)
    (hquery : base.query = none) (hfragment : base.fragment = none) :
    NamesDatabase (fun database => (server.url? (.schema database)).map Url.target) ∧
      (∀ credentials, NamesDatabase fun database =>
        (server.request? credentials (.schema database)).map HttpRequest.target) ∧
      (base.scheme = "http".toList ∨ base.scheme = "https".toList →
        (∀ c ∈ Url.lastKept server.address, 0x20 < c.toNat) →
        ∀ database, (server.url? (.schema database)).isSome ∧
          ∀ credentials : Credentials,
            (∀ header ∈ credentials.header?, isHeaderText header = true) →
            (server.request? credentials (.schema database)).isSome) := by
  refine ⟨?_, ?_, ?_⟩
  · refine namesDatabase_of_append ?_ (target_of_url? hbase hquery hfragment)
    intro path hpath
    obtain ⟨url, hurl, rfl⟩ := Option.map_eq_some_iff.mp hpath
    exact (query_of_url?_schema_none hbase hquery hfragment hurl).2
  · intro credentials
    refine namesDatabase_of_append ?_ (target_of_request?_schema hbase hquery hfragment credentials)
    intro path hpath
    obtain ⟨http, hhttp, rfl⟩ := Option.map_eq_some_iff.mp hpath
    obtain ⟨url, hurl, htarget⟩ := target_of_request? hhttp
    rw [htarget]
    exact (query_of_url?_schema_none hbase hquery hfragment hurl).2
  · intro hscheme hprinted database
    obtain ⟨url, hurl, -⟩ := exists_url? hscheme hbase hprinted (.schema database)
    refine ⟨Option.isSome_of_eq_some hurl, fun credentials hheader => ?_⟩
    obtain ⟨http, hrequest⟩ :=
      exists_request?_of_parse? hscheme hbase hprinted hheader (.schema database)
    exact Option.isSome_of_eq_some hrequest

/-- A name with characters that would end the field, the query or the path, and one outside ASCII. -/
theorem reserved_characters_in_name :
    ∃ (server : Server) (base : Url),
      Url.parse? server.address = some base ∧ base.query = none ∧ base.fragment = none ∧
      NamesDatabase (fun database =>
        (server.request? .anonymous (.schema database)).map HttpRequest.target) ∧
      (server.request? .anonymous (.schema none)).isSome ∧
      ∃ http, server.request? .anonymous (.schema (some "a&b=c#d?e+f%20 /é")) = some http ∧
        http.target =
          "/v1/api/query/schema?dbName=a%26b%3Dc%23d%3Fe%2Bf%2520+%2F%C3%A9".toList := by
  let server : Server := ⟨"http://[::1]/v1".toList⟩
  have hread : Url.parse? server.address = some
      { scheme := "http".toList, userInfo := none, host := some (.ipv6 [0, 0, 0, 0, 0, 0, 0, 1]),
        port := none, path := .segments ["v1".toList], query := none, fragment := none } := by rfl
  obtain ⟨-, hrequests, hexists⟩ := schema_request_names_database hread rfl rfl
  have hprinted : ∀ c ∈ Url.lastKept server.address, 0x20 < c.toNat := by
    intro c hc
    obtain rfl : '1' = c := Option.some.inj hc
    decide
  have hsome := (hexists (.inl rfl) hprinted none).2 .anonymous nofun
  have htarget : (server.request? .anonymous (.schema (some "a&b=c#d?e+f%20 /é"))).map
      HttpRequest.target =
        some "/v1/api/query/schema?dbName=a%26b%3Dc%23d%3Fe%2Bf%2520+%2F%C3%A9".toList := by
    decide +kernel
  obtain ⟨http, hrequest, htarget⟩ := Option.map_eq_some_iff.mp htarget
  exact ⟨server, _, hread, rfl, rfl, hrequests .anonymous, hsome, http, hrequest, htarget⟩

end Server
end QueryConsole
