/-
# The JSON export of an answer

The rows of an answer go through four forms until they are in the exported text: the JSON objects that
the service sends become rows of cells, nested values as compact text; the rows become a table with the
columns of the first one; the table becomes objects again, nested values read back from their text; and
the objects are written as indented text.

What comes out is what was sent, restricted to the keys of the first row (`export_restricts_rows`).
Only an integer above the signed 64-bit ones is another value then: the text of its digits.
-/

import QueryConsole.Proofs.Service.Cell
import QueryConsole.Proofs.Service.Response
import QueryConsole.Results.Export

namespace QueryConsole

/-! ## Rows -/

namespace Row

theorem columns_ofMembers (members : List (String × Json)) :
    (ofMembers members).columns = members.map Prod.fst := by
  rw [columns, ofMembers, List.map_map]
  rfl

theorem get?_ofMembers (members : List (String × Json)) (key : String) :
    (ofMembers members).get? key = (Json.lookup? members key).map Cell.ofJson := by
  rw [get?, ofMembers, Json.lookup?, List.find?_map, Option.map_map, Option.map_map]
  rfl

end Row

/-! ## Documents -/

/-- A row as it is exported: the keys of the first row that this row has, with their values. -/
def restricted (keys : List String) (sent : List (String × Json)) : List (String × Json) :=
  keys.filterMap fun key => (Json.lookup? sent key).map fun v => (key, v.exported)

/-- What a document has of the row that was sent: of the given keys those that the row has, in their
order, each with the value that the row has there. -/
structure Restricts (keys : List String) (sent document : List (String × Json)) : Prop where
  keys : document.map Prod.fst = keys.filter (· ∈ sent.map Prod.fst)
  values : ∀ m ∈ document, ∃ v, Json.lookup? sent m.1 = some v ∧ m.2 = v.exported

variable {keys : List String} {sent : List (String × Json)}

theorem restricts_restricted (keys : List String) (sent : List (String × Json)) :
    Restricts keys sent (restricted keys sent) where
  keys := by
    rw [restricted, List.map_filterMap, ← List.filterMap_eq_filter]
    refine List.filterMap_congr fun key _ => ?_
    have hmem : decide (key ∈ sent.map Prod.fst) = (Json.lookup? sent key).isSome := by
      rw [Bool.eq_iff_iff, decide_eq_true_iff, Json.lookup?_isSome_iff]
    rw [Option.guard, hmem]
    cases Json.lookup? sent key <;> rfl
  values m hm := by
    obtain ⟨key, -, hkey⟩ := List.mem_filterMap.mp hm
    obtain ⟨v, hv, rfl⟩ := Option.map_eq_some_iff.mp hkey
    exact ⟨v, hv, rfl⟩

theorem nodup_keys_restricted (hkeys : keys.Nodup) (sent : List (String × Json)) :
    ((restricted keys sent).map Prod.fst).Nodup := by
  rw [(restricts_restricted keys sent).keys]
  exact hkeys.filter _

/-- The object of a row is the row as it is exported. -/
theorem rowJson_ofMembers (hkeys : keys.Nodup)
    (hsent : ∀ m ∈ sent, Json.Recoverable Json.maxDepth m.2) :
    ResultTable.rowJson keys (keys.map (Row.ofMembers sent).get?) = .obj (restricted keys sent) := by
  have hcells (key : String) : ((Row.ofMembers sent).get? key).map (fun cell => (key, cell.toJson)) =
      (Json.lookup? sent key).map fun v => (key, v.exported) := by
    rw [Row.get?_ofMembers, Option.map_map]
    refine Option.map_congr fun v hv => ?_
    rw [Function.comp_apply, Cell.toJson_ofJson (hsent _ (Json.mem_of_lookup? hv))]
  have hmembers : ((keys.zip (keys.map (Row.ofMembers sent).get?)).filterMap
      fun m => m.2.map fun cell => (m.1, cell.toJson)) = restricted keys sent := by
    rw [← List.map_prod_left_eq_zip, List.filterMap_map]
    exact List.filterMap_congr fun key _ => hcells key
  rw [← Json.ofMembers_of_nodup (nodup_keys_restricted hkeys sent)]
  exact congrArg Json.ofMembers hmembers

/-- The table of rows as a JSON value: the rows as they are exported, with the keys of the first. -/
theorem toJson_ofRows (phrases : Phrases) (first : List (String × Json))
    (others : List (List (String × Json))) (hkeys : (first.map Prod.fst).Nodup)
    (hsent : ∀ sent ∈ first :: others, ∀ m ∈ sent, Json.Recoverable Json.maxDepth m.2) :
    (ResultTable.ofRows phrases ((first :: others).map Row.ofMembers)).toJson =
      .arr (((first :: others).map (restricted (first.map Prod.fst))).map .obj) := by
  have hrows : (ResultTable.ofRows phrases ((first :: others).map Row.ofMembers)).toJson =
      .arr ((((first :: others).map Row.ofMembers).map fun row =>
        (first.map Prod.fst).map row.get?).map (ResultTable.rowJson (first.map Prod.fst))) := by
    rw [← Row.columns_ofMembers first]
    rfl
  rw [hrows, List.map_map, List.map_map, List.map_map]
  exact congrArg Json.arr (List.map_congr_left fun sent hmem =>
    rowJson_ofMembers hkeys (hsent sent hmem))

/-- What is exported for a recoverable value is recoverable. -/
theorem Json.Recoverable.exported {n : Nat} {v : Json} (h : Recoverable n v) :
    Recoverable n v.exported := by
  cases v with
  | int m =>
    rw [Json.exported]
    split
    · exact h
    · exact .str n _
  | _ => exact h

/-- The exported rows nest two brackets deeper than the values in them. -/
theorem recoverable_restricted {n : Nat} (hkeys : keys.Nodup) {rows : List (List (String × Json))}
    (h : ∀ sent ∈ rows, ∀ m ∈ sent, Json.Recoverable n m.2) :
    Json.Recoverable (n + 2) (.arr ((rows.map (restricted keys)).map .obj)) := by
  refine .arr fun v hv => ?_
  obtain ⟨_, hdocument, rfl⟩ := List.mem_map.mp hv
  obtain ⟨sent, hsent, rfl⟩ := List.mem_map.mp hdocument
  refine .obj (nodup_keys_restricted hkeys sent) fun m hm => ?_
  obtain ⟨v, hv, heq⟩ := (restricts_restricted keys sent).values m hm
  exact heq ▸ (h sent hsent _ (Json.mem_of_lookup? hv)).exported

/-! ## Answers -/

/-- The objects that an answer carries as its results: under the key of that name, or in its place
among the fields. -/
inductive Sends : Json → List (List (String × Json)) → Prop where
  | obj {members : List (String × Json)} {rows : List (List (String × Json))}
      (h : Json.lookup? members "results" = some (.arr (rows.map .obj))) : Sends (.obj members) rows
  | arr {items : List Json} {rows : List (List (String × Json))}
      (h : items[5]? = some (.arr (rows.map .obj))) : Sends (.arr items) rows

/-- The rows of an answer are those of the objects that it sends. -/
theorem exists_sends {v : Json} {r : Response} {rows : List Row}
    (hanswer : Response.ofJson v = .ok r) (hresults : r.results = some rows) :
    ∃ sent, Sends v sent ∧ rows = sent.map Row.ofMembers := by
  have hfields {value? : String → Option Json}
      (h : (value? "results").bind Response.rows? = some rows) :
      ∃ sent : List (List (String × Json)), value? "results" = some (.arr (sent.map .obj)) ∧
        rows = sent.map Row.ofMembers := by
    obtain ⟨w, hw, hrows⟩ := Option.bind_eq_some_iff.mp h
    obtain ⟨sent, rfl, hsent⟩ := (Response.rows?_eq_some_iff w rows).mp hrows
    exact ⟨sent, hw, hsent⟩
  cases v with
  | obj members =>
    obtain rfl := Except.ok.inj hanswer
    obtain ⟨sent, hvalue, hsent⟩ := hfields hresults
    exact ⟨sent, .obj hvalue, hsent⟩
  | arr items =>
    rw [Response.ofJson] at hanswer
    split at hanswer
    · obtain rfl := Except.ok.inj hanswer
      obtain ⟨sent, hvalue, hsent⟩ := hfields hresults
      rw [Json.lookup?_zip (by decide)] at hvalue
      exact ⟨sent, .arr hvalue, hsent⟩
    · cases hanswer
  | _ => cases hanswer

/-- The values in the rows that are sent are inside three brackets. -/
theorem Sends.recoverable {n : Nat} {v : Json} {sent : List (List (String × Json))}
    (h : Sends v sent) (hv : Json.Recoverable (n + 3) v) :
    ∀ row ∈ sent, (row.map Prod.fst).Nodup ∧ ∀ m ∈ row, Json.Recoverable n m.2 := by
  have hresults : Json.Recoverable (n + 2) (.arr (sent.map .obj)) := by
    cases h with
    | obj h => exact hv.of_obj _ (Json.mem_of_lookup? h)
    | arr h => exact hv.of_arr _ (List.mem_of_getElem? h)
  intro row hrow
  have hobject := hresults.of_arr _ (List.mem_map_of_mem hrow)
  exact ⟨hobject.nodup_keys, hobject.of_obj⟩

/-- **The JSON export is what the service sent, restricted to the keys of the first row.**  For every
body whose results are rows, at least one, the exported text is an array with one object for each row
in order; it has the keys of the first row that its row has, in the order of the first row, and under
each key the value that was sent there, integers above the signed 64-bit ones as their digits.
A double in the body has to be one that is read back from its own text. -/
theorem export_restricts_rows (phrases : Phrases) {body : List UInt8} {v : Json} {r : Response}
    {rows : List Row} (hbody : Json.parseBytes body = .ok v) (hanswer : Response.ofJson v = .ok r)
    (hresults : r.results = some rows) (hrows : rows ≠ []) (hdoubles : v.DoublesReadBack) :
    ∃ first others documents, Sends v (first :: others) ∧
      Json.parse (ResultTable.ofRows phrases rows).toJsonText = .ok (.arr (documents.map .obj)) ∧
      List.Forall₂ (Restricts (first.map Prod.fst)) (first :: others) documents := by
  obtain ⟨sent, hsends, rfl⟩ := exists_sends hanswer hresults
  obtain ⟨first, others, rfl⟩ : ∃ first others, sent = first :: others :=
    List.exists_cons_of_ne_nil fun h => hrows (by rw [h]; rfl)
  have hsent := hsends.recoverable (n := 124) (Json.Recoverable.of_parseBytes hbody hdoubles)
  have hkeys := (hsent first List.mem_cons_self).1
  have hvalues : ∀ row ∈ first :: others, ∀ m ∈ row, Json.Recoverable 124 m.2 :=
    fun row hrow => (hsent row hrow).2
  have htable := toJson_ofRows phrases first others hkeys
    fun row hrow m hm => (hvalues row hrow m hm).mono (by decide)
  refine ⟨first, others, (first :: others).map (restricted (first.map Prod.fst)), hsends, ?_, ?_⟩
  · rw [ResultTable.toJsonText, htable]
    exact Json.parse_indented ((recoverable_restricted hkeys hvalues).mono (by decide))
  · rw [List.forall₂_map_right_iff]
    exact List.forall₂_same.mpr fun sent _ => restricts_restricted _ sent

/-- An integer that is too large, nested values, doubles, keys in another order, keys that the second
row lacks and a key that only the second row has. -/
theorem export_two_rows :
    let body := "\x7b\"results\":[\x7b\"id\":1,\"total\":18446744073709551615,\"tags\":[\"a\",\x7b\"b\":null\x7d],\"rate\":0.5\x7d,\x7b\"rate\":-2.5,\"id\":\"x\",\"extra\":true\x7d]\x7d".toUTF8.toList
    let rows : List Row :=
      [⟨[("id", .int 1), ("total", .text "18446744073709551615"),
          ("tags", .json "[\"a\",\x7b\"b\":null\x7d]"), ("rate", .float ⟨0x3FE0000000000000⟩)]⟩,
        ⟨[("rate", .float ⟨0xC004000000000000⟩), ("id", .text "x"), ("extra", .bool true)]⟩]
    ∃ v r, Json.parseBytes body = .ok v ∧ Response.ofJson v = .ok r ∧ r.results = some rows ∧
      rows ≠ [] ∧ v.DoublesReadBack ∧ ∃ first others documents, Sends v (first :: others) ∧
        Json.parse (ResultTable.ofRows .english rows).toJsonText = .ok (.arr (documents.map .obj)) ∧
        List.Forall₂ (Restricts (first.map Prod.fst)) (first :: others) documents := by
  intro body rows
  have hread : (Json.parseBytes body).map (fun v => (v.doubles, Response.ofJson v)) =
      .ok ([⟨0x3FE0000000000000⟩, ⟨0xC004000000000000⟩],
        .ok ⟨none, none, none, none, none, some rows, none⟩) := by
    decide +kernel
  have hfound : ∀ d ∈ [(⟨0x3FE0000000000000⟩ : Double), ⟨0xC004000000000000⟩],
      (Json.parse (Json.double d).compact).map Json.Found.ofValue = .ok (.double d) := by
    decide +kernel
  obtain ⟨v, hbody, heq⟩ := Json.exists_of_map_eq_ok hread
  obtain ⟨hdoubles, hanswer⟩ := Prod.mk.inj heq
  have hreadBack : v.DoublesReadBack := by
    intro d hd
    rw [hdoubles] at hd
    obtain ⟨w, hw, hfound⟩ := Json.exists_of_map_eq_ok (hfound d hd)
    rw [hw, Json.eq_double_of_found hfound]
  have hne : rows ≠ [] := List.cons_ne_nil _ _
  exact ⟨v, _, hbody, hanswer, rfl, hne, hreadBack,
    export_restricts_rows .english hbody hanswer rfl hne hreadBack⟩

end QueryConsole
