/-
# What a table shows of an answer

A cell of a table is found by its row and by the key of its column, never by its place in the row
that was sent: other keys of a row, missing ones and their order do not matter.  Its text is that of
the value that was sent there (`Json.shownText`).

| value | text |
| --- | --- |
| `null`, or no value | nothing |
| integer of 64 bits, signed or not | its digits |
| other number | the shortest decimal of its double |
| string | itself |
| array, object | its compact text |

So the table of an answer shows the objects that were sent (`ResultTable.Shows`), and it is empty if
there are none (`table_shows_answer`).
-/

import QueryConsole.Proofs.Results.Export
import QueryConsole.Proofs.Results.Table
import QueryConsole.Results.View

namespace QueryConsole

/-! ## Texts -/

/-- The text that a table shows for a value. -/
def Json.shownText : Json → String
  | .null => ""
  | .bool b => toString b
  | .int n => toString n
  | .double d => String.ofList d.display
  | .str s => s
  | .arr items => (Json.arr items).compact
  | .obj members => (Json.obj members).compact

/-- The text that a table shows for a key of an object, which is empty where the object lacks it. -/
def Json.shownAt (object : List (String × Json)) (key : String) : String :=
  ((Json.lookup? object key).map Json.shownText).getD ""

theorem Json.ofList_intChars (n : Int) : String.ofList (Json.intChars n) = toString n := by
  cases n with
  | ofNat n => rfl
  | negSucc n =>
    rw [Json.intChars, if_pos (Int.negSucc_lt_zero n), Int.natAbs_negSucc]
    exact String.ofList_cons

/-- **A cell shows the value that it was made from.** -/
theorem Cell.shown_ofJson (v : Json) : Cell.shown (some (Cell.ofJson v)) = v.shownText := by
  cases v with
  | bool b => cases b <;> rfl
  | int n =>
    -- the digits are those of the integer whether it is kept as a number or as a text
    rw [ofJson]
    split
    · exact Json.ofList_intChars n
    · exact Json.ofList_intChars n
  | _ => rfl

/-- The cell of a key shows what the object has under it. -/
theorem Row.shown_get?_ofMembers (object : List (String × Json)) (key : String) :
    Cell.shown ((Row.ofMembers object).get? key) = Json.shownAt object key := by
  rw [Row.get?_ofMembers, Json.shownAt]
  cases Json.lookup? object key with
  | none => rfl
  | some v => exact Cell.shown_ofJson v

/-! ## Tables -/

namespace ResultTable

variable {first : List (String × Json)} {others : List (List (String × Json))}

/-- A table shows objects, at least one: its columns are the keys of the first, each once and with a
header of its own; it has a row for each object in order, with a cell in each column; and a cell has
the text of what its object has under the key of its column. -/
structure Shows (t : ResultTable) (first : List (String × Json))
    (others : List (List (String × Json))) : Prop where
  columns : t.columns = first.map Prod.fst
  distinct : t.columns.Nodup
  headers : t.headers = t.columns.map Header.label
  rowCount : t.rowCount = (first :: others).length
  cells : ∀ row ∈ t.rows, row.length = t.columns.length
  isSome_iff : ∀ i j, (t.cellText? i j).isSome ↔ i < t.rowCount ∧ j < t.columns.length
  texts : ∀ i j object key, (first :: others)[i]? = some object → t.columns[j]? = some key →
    t.cellText? i j = some (Json.shownAt object key)

theorem rows_ofRows (phrases : Phrases) (first : List (String × Json))
    (others : List (List (String × Json))) :
    (ofRows phrases ((first :: others).map Row.ofMembers)).rows =
      (first :: others).map fun object => (first.map Prod.fst).map (Row.ofMembers object).get? := by
  rw [← Row.columns_ofMembers first]
  exact List.map_map

/-- **A cell is found by the object of its row and the key of its column.** -/
theorem cellText?_ofRows (phrases : Phrases) (first : List (String × Json))
    (others : List (List (String × Json))) (i j : Nat) :
    (ofRows phrases ((first :: others).map Row.ofMembers)).cellText? i j =
      (first :: others)[i]?.bind fun object =>
        (first.map Prod.fst)[j]?.map (Json.shownAt object) := by
  rw [cellText?, rows_ofRows, List.getElem?_map]
  cases (first :: others)[i]? with
  | none => rfl
  | some object =>
    rw [Option.map_some, Option.bind_some, Option.bind_some, List.getElem?_map, Option.map_map]
    exact Option.map_congr fun key _ => Row.shown_get?_ofMembers object key

/-- The table of objects shows them. -/
theorem shows_ofRows (phrases : Phrases) (hkeys : (first.map Prod.fst).Nodup) :
    (ofRows phrases ((first :: others).map Row.ofMembers)).Shows first others := by
  have hcolumns : (ofRows phrases ((first :: others).map Row.ofMembers)).columns =
      first.map Prod.fst := Row.columns_ofMembers first
  have hcount : (ofRows phrases ((first :: others).map Row.ofMembers)).rowCount =
      (first :: others).length := by
    rw [rowCount, rows_ofRows, List.length_map]
  refine ⟨hcolumns, hcolumns ▸ hkeys, rfl, hcount, (wellFormed_ofRows phrases _).rows, ?_, ?_⟩
  · intro i j
    rw [hcount, hcolumns, cellText?_ofRows]
    cases hobject : (first :: others)[i]? with
    | none =>
      have hrow : ¬i < (first :: others).length := by
        rw [Nat.not_lt]
        exact List.getElem?_eq_none_iff.mp hobject
      exact iff_of_false Bool.false_ne_true fun h => hrow h.1
    | some object =>
      have hrow : i < (first :: others).length := (List.getElem?_eq_some_iff.mp hobject).1
      rw [Option.bind_some, Option.isSome_map, isSome_getElem?]
      exact (and_iff_right hrow).symm
  · intro i j object key hobject hkey
    rw [hcolumns] at hkey
    rw [cellText?_ofRows, hobject, Option.bind_some, hkey, Option.map_some]

end ResultTable

/-! ## Answers -/

variable {v : Json} {r : Response} {sent : List (List (String × Json))}

/-- **The objects that an answer sends are its rows.** -/
theorem Sends.results (h : Sends v sent) (hanswer : Response.ofJson v = .ok r) :
    r.results = some (sent.map Row.ofMembers) := by
  have hrows : Response.rows? (.arr (sent.map .obj)) = some (sent.map Row.ofMembers) :=
    (Response.rows?_eq_some_iff _ _).mpr ⟨sent, rfl, rfl⟩
  cases h with
  | obj h =>
    obtain rfl := Except.ok.inj hanswer
    rw [← hrows, Response.ofFields, h, Option.bind_some]
  | arr h =>
    rw [Response.ofJson] at hanswer
    split at hanswer
    · obtain rfl := Except.ok.inj hanswer
      have hfield : Json.lookup? (Response.fields.zip _) "results" = some (.arr (sent.map .obj)) :=
        (Json.lookup?_zip (by decide) _).trans h
      rw [← hrows, Response.ofFields, hfield, Option.bind_some]
    · cases hanswer

/-- An answer that sends no objects has no rows. -/
theorem results_getD_eq_nil (hanswer : Response.ofJson v = .ok r)
    (hnone : ∀ first others, ¬Sends v (first :: others)) : r.results.getD [] = [] := by
  cases hresults : r.results with
  | none => rfl
  | some rows =>
    obtain ⟨sent, hsends, rfl⟩ := exists_sends hanswer hresults
    cases sent with
    | nil => rfl
    | cons first others => exact absurd hsends (hnone first others)

/-- Each object that is sent has a key once. -/
theorem Sends.nodup_keys (h : Sends v sent) (hv : v.WellFormed) :
    ∀ object ∈ sent, (object.map Prod.fst).Nodup := by
  have hresults : (Json.arr (sent.map .obj)).WellFormed := by
    cases h with
    | obj h => exact hv.of_lookup? h
    | arr h =>
      cases hv with
      | arr items_wf => exact items_wf _ (List.mem_of_getElem? h)
  intro object hobject
  cases hresults with
  | arr items_wf =>
    have hwf := items_wf (.obj object) (List.mem_map_of_mem hobject)
    cases hwf with
    | obj keys _ => exact keys

/-- **The table is faithful to the answer.**  For every body that is an answer, the table of a
success shows the objects that the body sends as its results, one at least; where it sends none,
because the results are empty, missing or of another type, the table has no columns, no rows and no
cells.  What is shown is what the body writes: the integers from -2^63 below 2^64 are read exactly
wherever they stand. -/
theorem table_shows_answer (phrases : Phrases) {body : List UInt8} {v : Json} {r : Response}
    (hbody : Json.parseBytes body = .ok v) (hanswer : Response.ofJson v = .ok r) :
    let t := ResultTable.ofRows phrases (r.results.getD [])
    (∀ s, r.outcome = .success s → (ResultView.ofSuccess phrases s).table = t) ∧
      (∀ first others, Sends v (first :: others) → t.Shows first others) ∧
      ((∀ first others, ¬Sends v (first :: others)) →
        t.columns = [] ∧ t.headers = [] ∧ t.rowCount = 0 ∧ ∀ i j, t.cellText? i j = none) ∧
      ∀ (n : Int) (depth : Nat) (rest : List Utf8.Piece), -2 ^ 63 ≤ n → n < 2 ^ 64 →
        Json.Ends rest →
        Json.value depth (Utf8.ofChars (toString n).toList ++ rest) = .ok (.int n, rest) := by
  intro t
  refine ⟨fun s hs => ?_, fun first others hsends => ?_, fun hnone => ?_, ?_⟩
  · rw [Response.outcome] at hs
    split at hs
    · cases hs
    · obtain rfl := QueryOutcome.success.inj hs
      rfl
  · have hkeys := hsends.nodup_keys (Json.wellFormed_of_parseBytes hbody) first List.mem_cons_self
    have ht : t = ResultTable.ofRows phrases ((first :: others).map Row.ofMembers) := by
      rw [← Option.getD_some (a := (first :: others).map Row.ofMembers) (b := []),
        ← hsends.results hanswer]
    rw [ht]
    exact ResultTable.shows_ofRows phrases hkeys
  · have ht : t = ResultTable.ofRows phrases [] := by
      rw [← results_getD_eq_nil hanswer hnone]
    rw [ht]
    exact ⟨rfl, rfl, rfl, fun _ _ => rfl⟩
  · intro n depth rest lower upper hrest
    rw [← Json.ofList_intChars, String.toList_ofList]
    exact Json.value_intChars depth lower upper hrest

/-- Rows with other keys, keys in another order, keys that are missing, `null`, a nested value, and
an integer above the signed 64-bit ones. -/
theorem table_of_ragged_rows :
    let body := "\x7b\"results\":[\x7b\"id\":1,\"total\":null\x7d,\x7b\"extra\":true,\"total\":18446744073709551615,\"id\":[\"a\"]\x7d,\x7b\x7d]\x7d".toUTF8.toList
    let rows : List Row :=
      [⟨[("id", .int 1), ("total", .null)]⟩,
        ⟨[("extra", .bool true), ("total", .text "18446744073709551615"), ("id", .json "[\"a\"]")]⟩,
        ⟨[]⟩]
    let t := ResultTable.ofRows .english rows
    ∃ v r first others, Json.parseBytes body = .ok v ∧ Response.ofJson v = .ok r ∧
      Sends v (first :: others) ∧ r.results = some rows ∧ t.Shows first others ∧
      t.columns = ["id", "total"] ∧
      (List.range 4).map (fun i => (List.range 3).map (t.cellText? i)) =
        [[some "1", some "", none], [some "[\"a\"]", some "18446744073709551615", none],
          [some "", some "", none], [none, none, none]] := by
  intro body rows t
  have hread : (Json.parseBytes body).map Response.ofJson =
      .ok (.ok ⟨none, none, none, none, none, some rows, none⟩) := by
    decide +kernel
  obtain ⟨v, hbody, hanswer⟩ := Json.exists_of_map_eq_ok hread
  obtain ⟨sent, hsends, hsent⟩ := exists_sends hanswer rfl
  obtain ⟨first, others, rfl⟩ : ∃ first others, sent = first :: others :=
    List.exists_cons_of_ne_nil fun hnil =>
      List.cons_ne_nil _ _ (hsent.trans (congrArg (List.map Row.ofMembers) hnil))
  have hshows : t.Shows first others :=
    (table_shows_answer .english hbody hanswer).2.1 first others hsends
  exact ⟨v, _, first, others, hbody, hanswer, hsends, rfl, hshows, by decide, by decide +kernel⟩

/-- An integer of more than 64 bits is shown as the shortest decimal of its double. -/
theorem wide_integer_shown_as_double :
    let body := "\x7b\"results\":[\x7b\"n\":18446744073709551617\x7d]\x7d".toUTF8.toList
    ∃ v r, Json.parseBytes body = .ok v ∧ Response.ofJson v = .ok r ∧
      let shown := (ResultTable.ofRows .english (r.results.getD [])).cellText? 0 0
      shown = some "18446744073709552000" ∧
        shown ≠ some (toString (18446744073709551617 : Int)) := by
  intro body
  have hread : (Json.parseBytes body).map Response.ofJson =
      .ok (.ok ⟨none, none, none, none, none, some [⟨[("n", .float ⟨0x43F0000000000000⟩)]⟩],
        none⟩) := by
    decide +kernel
  obtain ⟨v, hbody, hanswer⟩ := Json.exists_of_map_eq_ok hread
  exact ⟨v, _, hbody, hanswer, by decide +kernel, by decide +kernel⟩

end QueryConsole
