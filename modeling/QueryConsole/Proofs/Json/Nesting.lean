/-
# How deep a value that is read is nested

A text may open only so many arrays and objects inside each other, so the value that it writes is
nested no deeper (`nestedAtMost_of_value`, `nestedAtMost_of_parseBytes`).  Every value is nested to some
depth (`WellFormed.exists_nestedAtMost`), and arrays around it take a level each
(`le_of_nestedAtMost_iterate`).
-/

import Mathlib.Logic.Function.Iterate
import QueryConsole.Proofs.Json.WellFormed

namespace QueryConsole
namespace Json

open Utf8 (Piece)

/-- Whether a value is no array and no object. -/
def isScalar : Json → Bool
  | .arr _ | .obj _ => false
  | _ => true

/-- The values with no more than some arrays and objects inside each other. -/
inductive NestedAtMost : Nat → Json → Prop where
  | scalar {depth : Nat} {v : Json} (h : v.isScalar = true) : NestedAtMost depth v
  | arr {depth : Nat} {items : List Json} (h : ∀ v ∈ items, NestedAtMost depth v) :
      NestedAtMost (depth + 1) (.arr items)
  | obj {depth : Nat} {members : List (String × Json)}
      (h : ∀ m ∈ members, NestedAtMost depth m.2) : NestedAtMost (depth + 1) (.obj members)

namespace NestedAtMost

variable {depth : Nat} {items : List Json} {members : List (String × Json)}

theorem of_arr (h : NestedAtMost (depth + 1) (.arr items)) : ∀ v ∈ items, NestedAtMost depth v := by
  cases h with
  | scalar h => cases h
  | arr h => exact h

theorem of_obj (h : NestedAtMost (depth + 1) (.obj members)) :
    ∀ m ∈ members, NestedAtMost depth m.2 := by
  cases h with
  | scalar h => cases h
  | obj h => exact h

theorem mono {depth' : Nat} {v : Json} (h : NestedAtMost depth v) (hle : depth ≤ depth') :
    NestedAtMost depth' v := by
  induction h generalizing depth' with
  | scalar h => exact .scalar h
  | arr _ ih =>
    obtain ⟨depth', rfl⟩ := Nat.exists_eq_succ_of_ne_zero (Nat.ne_zero_of_lt hle)
    exact .arr fun v hv => ih v hv (Nat.le_of_succ_le_succ hle)
  | obj _ ih =>
    obtain ⟨depth', rfl⟩ := Nat.exists_eq_succ_of_ne_zero (Nat.ne_zero_of_lt hle)
    exact .obj fun m hm => ih m hm (Nat.le_of_succ_le_succ hle)

end NestedAtMost

/-! ## Depths -/

/-- Where each element of a list is within some bound, one bound holds for all of them. -/
theorem exists_forall_nestedAtMost {vs : List Json} (h : ∀ v ∈ vs, ∃ n, NestedAtMost n v) :
    ∃ n, ∀ v ∈ vs, NestedAtMost n v := by
  induction vs with
  | nil => exact ⟨0, List.forall_mem_nil _⟩
  | cons v vs ih =>
    obtain ⟨⟨n, hv⟩, hvs⟩ := List.forall_mem_cons.mp h
    obtain ⟨m, hm⟩ := ih hvs
    exact ⟨max n m, List.forall_mem_cons.mpr ⟨hv.mono (Nat.le_max_left n m),
      fun w hw => (hm w hw).mono (Nat.le_max_right n m)⟩⟩

/-- Every value has a depth. -/
theorem WellFormed.exists_nestedAtMost {v : Json} (h : v.WellFormed) : ∃ n, NestedAtMost n v := by
  induction h with
  | arr _ ih =>
    obtain ⟨n, hn⟩ := exists_forall_nestedAtMost ih
    exact ⟨n + 1, .arr hn⟩
  | @obj members _ _ ih =>
    have hvalues : ∀ v ∈ members.map Prod.snd, ∃ n, NestedAtMost n v := List.forall_mem_map.mpr ih
    obtain ⟨n, hn⟩ := exists_forall_nestedAtMost hvalues
    exact ⟨n + 1, .obj (List.forall_mem_map.mp hn)⟩
  | _ => exact ⟨0, .scalar rfl⟩

/-- Each array around a value takes one level more. -/
theorem le_of_nestedAtMost_iterate {n depth : Nat} {v : Json}
    (h : NestedAtMost n ((fun v => Json.arr [v])^[depth] v)) : depth ≤ n := by
  induction depth generalizing n with
  | zero => exact Nat.zero_le n
  | succ depth ih =>
    rw [Function.iterate_succ_apply'] at h
    cases h with
    | scalar h => cases h
    | arr h => exact Nat.succ_le_succ (ih (h _ List.mem_cons_self))

/-! ## Values that are read -/

theorem isScalar_of_number {negative : Bool} {s rest : List Piece} {v : Json}
    (h : number negative s = .ok (v, rest)) : v.isScalar = true := by
  unfold number at h
  split at h
  · cases h
  · split at h
    · next hv =>
      obtain ⟨rfl, -⟩ := Prod.mk.inj (Except.ok.inj h)
      simp only [Numeral.value?] at hv
      split at hv
      · split at hv
        · exact Option.some.inj hv ▸ rfl
        · split at hv <;> exact Option.some.inj hv ▸ rfl
      · obtain ⟨_, -, rfl⟩ := Option.map_eq_some_iff.mp hv
        rfl
    · cases h

theorem isScalar_of_scalar {c : Char} {s rest : List Piece} {v : Json}
    (h : scalar c s = .ok (v, rest)) : v.isScalar = true := by
  obtain rfl | ⟨b, rfl⟩ | ⟨text, rfl⟩ | ⟨-, h⟩ | ⟨-, h⟩ := scalar_cases h
  · rfl
  · rfl
  · rfl
  · exact isScalar_of_number h
  · exact isScalar_of_number h

/-- What holds of the values of members holds of the values of the object made of them. -/
theorem forall_mem_foldl_put {P : Json → Prop} {ms before : List (String × Json)}
    (hbefore : ∀ m ∈ before, P m.2) (hms : ∀ m ∈ ms, P m.2) :
    ∀ m ∈ ms.foldl (fun ms (k, v) => put ms k v) before, P m.2 := by
  induction ms generalizing before with
  | nil => exact hbefore
  | cons m ms ih =>
    obtain ⟨hm, hms⟩ := List.forall_mem_cons.mp hms
    refine ih (fun m' hm' => ?_) hms
    obtain hm' | rfl := mem_put hm'
    · exact hbefore m' hm'
    · exact hm

/-- **A value that is read is nested no deeper than the reader may open.** -/
theorem nestedAtMost_of_value {depth : Nat} {s rest : List Piece} {v : Json}
    (h : value depth s = .ok (v, rest)) : NestedAtMost depth v := by
  induction depth using Nat.strong_induction_on generalizing s rest v with
  | _ depth ih =>
    obtain ⟨c, t, -, hcases⟩ := value_cases h
    obtain ⟨n, vs, rfl, hvs, rfl⟩ | ⟨n, ms, rfl, hms, rfl⟩ | ⟨-, -, hscalar⟩ := hcases
    · exact .arr (forall_mem_of_array (fun _ _ _ => ih n (Nat.lt_succ_self n)) hvs)
    · exact .obj (forall_mem_foldl_put (List.forall_mem_nil _)
        (forall_mem_of_object (fun _ _ _ => ih n (Nat.lt_succ_self n)) hms))
    · exact .scalar (isScalar_of_scalar hscalar)

/-- The value that bytes write is nested no deeper than a text may open. -/
theorem nestedAtMost_of_parseBytes {bytes : List UInt8} {v : Json} (h : parseBytes bytes = .ok v) :
    NestedAtMost maxDepth v := by
  unfold parseBytes parsePieces whole at h
  split at h
  · cases h
  · next hv =>
    split at h
    · exact Except.ok.inj h ▸ nestedAtMost_of_value hv
    · cases h

end Json
end QueryConsole
