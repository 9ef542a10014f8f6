/-
# Cells keep the values that they were made from

| value | cell | converted back |
| --- | --- | --- |
| `null`, truth value, string, double | the same | the same |
| integer below 2^63 | `int` | the same |
| integer from 2^63 | `text` | the text of its digits |
| array, object | `json`, its compact text | the same, read from that text |
| array, object with more than 127 inside each other | `json`, its compact text | that text, as a string |

A value comes back as `Json.exported` says (`Cell.toJson_ofJson`), and what comes back makes the same cell
again (`Cell.ofJson_exported`).  Only the last line loses the cell, since its text is not read
(`Cell.deep_ofJson`).
-/

import QueryConsole.Proofs.Json.Depth
import QueryConsole.Service.Cell

namespace QueryConsole

/-- The value that is exported for a value that was sent: an integer from 2^63 is the text of its digits
then, unless it stands in an array or an object. -/
def Json.exported : Json → Json
  | .int n => if n < 2 ^ 63 then .int n else .str (Decimal.text n.natAbs)
  | v => v

namespace Cell

theorem ofJson_int_of_lt {n : Int} (h : n < 2 ^ 63) : ofJson (.int n) = .int n := if_pos h

theorem ofJson_int_of_le {n : Int} (h : 2 ^ 63 ≤ n) :
    ofJson (.int n) = .text (Decimal.text n.natAbs) := by
  have hlimit : (Json.signedLimit : Int) = 2 ^ 63 := rfl
  rw [ofJson, hlimit, if_neg (Int.not_lt.mpr h), Json.intChars, if_neg (by omega)]
  rfl

/-- **A cell is exported as the value that was sent**, apart from integers that are too large. -/
theorem toJson_ofJson {v : Json} (h : Json.Recoverable Json.maxDepth v) :
    (ofJson v).toJson = v.exported := by
  cases v with
  | int n =>
    rw [Json.exported]
    split
    · next hn =>
      rw [ofJson_int_of_lt hn]
      rfl
    · next hn =>
      rw [ofJson_int_of_le (Int.not_lt.mp hn)]
      rfl
  | double d =>
    have hfinite : d.isFinite = true := h.wellFormed.isFinite rfl
    rw [ofJson, toJson, if_pos hfinite]
    rfl
  | arr items =>
    rw [ofJson, toJson, Json.parse_compact h]
    rfl
  | obj members =>
    rw [ofJson, toJson, Json.parse_compact h]
    rfl
  | _ => rfl

/-- The exported value makes the same cell, also where it is the text of an integer. -/
theorem ofJson_exported (v : Json) : ofJson v.exported = ofJson v := by
  cases v with
  | int n =>
    rw [Json.exported]
    split
    · rfl
    · next hn =>
      rw [ofJson_int_of_le (Int.not_lt.mp hn)]
      rfl
  | _ => rfl

/-- **A value that is nested too deep comes back as its text:** the text of its cell is not read. -/
theorem deep_ofJson {v : Json} (wf : v.WellFormed) (doubles : v.DoublesReadBack)
    (deep : ¬v.NestedAtMost Json.maxDepth) :
    ofJson v = .json v.compact ∧ (ofJson v).toJson = .str v.compact := by
  have hunread : ∃ problem, Json.parse v.compact = .error problem := by
    cases hparse : Json.parse v.compact with
    | error problem => exact ⟨problem, rfl⟩
    | ok w => exact absurd ((Json.parse_compact_eq_ok_iff wf doubles).mp hparse).2 deep
  obtain ⟨problem, hunread⟩ := hunread
  have hcell : ofJson v = .json v.compact := by
    cases v with
    | arr items => rfl
    | obj members => rfl
    | _ => exact absurd (.scalar rfl) deep
  refine ⟨hcell, ?_⟩
  rw [hcell, toJson, hunread]

/-- **Cells lose nothing, up to the depth that is read.**  Every value with at most 127 arrays and objects
inside each other comes back from its cell, an integer from 2^63 that stands alone as the text of its
digits; a value that is nested deeper comes back as its compact text.  And what comes back makes the same
cell again exactly if the value is nested no deeper than that.
A double in the value has to be one that is read back from its own text. -/
theorem converts_back_up_to_depth {v : Json} (wf : v.WellFormed) (doubles : v.DoublesReadBack) :
    (v.NestedAtMost 127 → (ofJson v).toJson = v.exported) ∧
      (¬v.NestedAtMost 127 → (ofJson v).toJson = .str v.compact) ∧
      (ofJson (ofJson v).toJson = ofJson v ↔ v.NestedAtMost 127) := by
  refine ⟨fun nested => toJson_ofJson ⟨nested, wf, doubles⟩,
    fun deep => (deep_ofJson wf doubles deep).2, fun hsame => ?_, fun nested => ?_⟩
  · by_contra deep
    obtain ⟨hcell, hback⟩ := deep_ofJson wf doubles deep
    rw [hback, hcell] at hsame
    cases hsame
  · rw [toJson_ofJson ⟨nested, wf, doubles⟩]
    exact ofJson_exported v

/-- Escapes, doubles, an integer above the signed 64-bit ones and an empty object inside arrays and an
object; and that integer alone. -/
theorem nested_value_converts_back :
    let v : Json := .obj [("total", .int 18446744073709551615), ("no\te", .str "a\"\\\u0001"),
      ("rates", .arr [.double ⟨0x3FE0000000000000⟩, .arr [.double ⟨0x8000000000000000⟩], .obj []])]
    v.WellFormed ∧ v.DoublesReadBack ∧ v.NestedAtMost 127 ∧
      ofJson v = .json "\x7b\"total\":18446744073709551615,\"no\\te\":\"a\\\"\\\\\\u0001\",\"rates\":[0.5,[-0.0],\x7b\x7d]\x7d" ∧
      (ofJson v).toJson = v ∧ ofJson (ofJson v).toJson = ofJson v ∧
      (ofJson (.int 18446744073709551615)).toJson = .str "18446744073709551615" := by
  intro v
  have hnumber : (Json.int 18446744073709551615).Recoverable 126 :=
    ⟨.scalar rfl, .int (by decide) (by decide), nofun⟩
  have hhalf : (Json.double ⟨0x3FE0000000000000⟩).Recoverable 125 :=
    ⟨.scalar rfl, .double (by decide), Json.doublesReadBack_of_found (by decide +kernel)⟩
  have hzero : (Json.double ⟨0x8000000000000000⟩).Recoverable 124 :=
    ⟨.scalar rfl, .double (by decide), Json.doublesReadBack_of_found (by decide +kernel)⟩
  have hrates : (Json.arr [.double ⟨0x3FE0000000000000⟩, .arr [.double ⟨0x8000000000000000⟩],
      .obj []]).Recoverable 126 :=
    .arr (List.forall_mem_cons.mpr ⟨hhalf, List.forall_mem_cons.mpr
      ⟨.arr (List.forall_mem_singleton.mpr hzero), List.forall_mem_singleton.mpr
        (.obj List.nodup_nil (List.forall_mem_nil _))⟩⟩)
  have hv : v.Recoverable 127 :=
    .obj (by decide) (List.forall_mem_cons.mpr ⟨hnumber, List.forall_mem_cons.mpr
      ⟨.str _ _, List.forall_mem_singleton.mpr hrates⟩⟩)
  obtain ⟨hback, -, hsame⟩ := converts_back_up_to_depth hv.wellFormed hv.doubles
  have halone := (converts_back_up_to_depth hnumber.wellFormed hnumber.doubles).1 (.scalar rfl)
  exact ⟨hv.wellFormed, hv.doubles, hv.nested, by decide +kernel, hback hv.nested,
    hsame.mpr hv.nested, halone.trans (congrArg Json.str (by decide))⟩

/-- A value inside 128 arrays makes the cell of its text; it comes back as that text, which makes another
cell. -/
theorem deeper_value_becomes_text :
    let v : Json := (fun v => .arr [v])^[128] .null
    v.WellFormed ∧ v.DoublesReadBack ∧ ofJson v = .json v.compact ∧
      ofJson (ofJson v).toJson = .text v.compact ∧ ofJson (ofJson v).toJson ≠ ofJson v := by
  intro v
  have hvalid : v.WellFormed ∧ v.DoublesReadBack :=
    Function.Iterate.rec (fun w : Json => w.WellFormed ∧ w.DoublesReadBack) ⟨.null, nofun⟩
      (fun w hw => ⟨.arr (List.forall_mem_singleton.mpr hw.1),
        Json.doublesReadBack_arr.mpr (List.forall_mem_singleton.mpr hw.2)⟩) 128
  have deep : ¬v.NestedAtMost Json.maxDepth := fun h =>
    absurd (Json.le_of_nestedAtMost_iterate h) (by decide)
  obtain ⟨hcell, hback⟩ := deep_ofJson hvalid.1 hvalid.2 deep
  have hagain : ofJson (ofJson v).toJson = .text v.compact := by
    rw [hback]
    rfl
  refine ⟨hvalid.1, hvalid.2, hcell, hagain, ?_⟩
  rw [hagain, hcell]
  nofun

end Cell
end QueryConsole
