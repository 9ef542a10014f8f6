/-
# The ends of texts

What `takeWhile`, `dropWhile` and `dropEndWhile` make of a text depends on its ends only: on the first
character that does not belong to what is taken or dropped, and on the last one.
-/

import Mathlib.Data.List.Induction
import Mathlib.Data.List.TakeWhile
import QueryConsole.Text.Blank

namespace QueryConsole
namespace Text

variable {p : Char → Bool} {xs ys : List Char} {c : Char}

/-! ## The front -/

theorem head?_dropWhile (p : Char → Bool) (cs : List Char) :
    ∀ c ∈ (cs.dropWhile p).head?, p c = false := by
  intro c hc
  have h := List.head?_dropWhile_not p cs
  rw [hc] at h
  exact h

/-- What is taken from the front ends no later than at a character that does not belong to it. -/
theorem takeWhile_append_cons (hc : p c = false) (xs ys : List Char) :
    (xs ++ c :: ys).takeWhile p = xs.takeWhile p := by
  rw [List.takeWhile_append]
  split
  · rename_i hall
    have hprefix := List.takeWhile_prefix (l := xs) p
    rw [List.takeWhile_cons_of_neg (by simp [hc]), List.append_nil, hprefix.eq_of_length hall]
  · rfl

theorem dropWhile_append_cons (hc : p c = false) (xs ys : List Char) :
    (xs ++ c :: ys).dropWhile p = xs.dropWhile p ++ c :: ys := by
  rw [List.dropWhile_append]
  split
  · rename_i hempty
    rw [List.isEmpty_iff.mp hempty, List.dropWhile_cons_of_neg (by simp [hc]), List.nil_append]
  · rfl

theorem dropWhile_append_of_ne_nil (h : xs.dropWhile p ≠ []) (ys : List Char) :
    (xs ++ ys).dropWhile p = xs.dropWhile p ++ ys := by
  rw [List.dropWhile_append, if_neg (mt List.isEmpty_iff.mp h)]

theorem takeWhile_append_of_ne_nil (h : xs.dropWhile p ≠ []) (ys : List Char) :
    (xs ++ ys).takeWhile p = xs.takeWhile p := by
  have hlength : (xs.takeWhile p).length ≠ xs.length := by
    intro hlength
    have hall := (List.takeWhile_prefix p).eq_of_length hlength
    exact h (List.dropWhile_eq_nil_iff.mpr (List.takeWhile_eq_self_iff.mp hall))
  rw [List.takeWhile_append, if_neg hlength]

/-! ## The end -/

/-- A tail that is not empty ends as the text does. -/
theorem getLast?_of_isSuffix (h : xs <:+ ys) (hne : xs ≠ []) : xs.getLast? = ys.getLast? := by
  obtain ⟨front, rfl⟩ := h
  rw [List.getLast?_append]
  cases hlast : xs.getLast? with
  | none => exact absurd (List.getLast?_eq_none_iff.mp hlast) hne
  | some c => rfl

/-- A text ends in a character for which `p` holds exactly if it does so from the first such one on. -/
theorem getLast?_dropWhile_not_iff :
    (∀ c ∈ (xs.dropWhile fun c => !p c).getLast?, p c = false) ↔ ∀ c ∈ xs.getLast?, p c = false := by
  by_cases hempty : (xs.dropWhile fun c => !p c) = []
  · rw [hempty]
    refine iff_of_true nofun fun c hc => ?_
    have hdropped := List.dropWhile_eq_nil_iff.mp hempty c (List.mem_of_getLast? hc)
    simpa using hdropped
  · rw [getLast?_of_isSuffix (List.dropWhile_suffix _) hempty]

/-- The last character of a text is the last one among those that are kept, if it is kept. -/
theorem getLast?_filter (h : ∀ c ∈ xs.getLast?, p c = true) :
    (xs.filter p).getLast? = xs.getLast? := by
  cases xs using List.reverseRecOn with
  | nil => rfl
  | append_singleton front c =>
    have hc : p c = true := h c List.getLast?_concat
    rw [List.filter_append, List.filter_cons_of_pos hc, List.filter_nil, List.getLast?_concat,
      List.getLast?_concat]

theorem getLast?_dropEndWhile (p : Char → Bool) (cs : List Char) :
    ∀ c ∈ (dropEndWhile p cs).getLast?, p c = false := by
  rw [dropEndWhile, List.getLast?_reverse]
  exact head?_dropWhile p cs.reverse

/-- Nothing is removed at the end exactly where the last character stays. -/
theorem dropEndWhile_eq_self_iff : dropEndWhile p xs = xs ↔ ∀ c ∈ xs.getLast?, p c = false := by
  constructor
  · intro h
    rw [← h]
    exact getLast?_dropEndWhile p xs
  · intro h
    rw [dropEndWhile]
    cases hreverse : xs.reverse with
    | nil =>
      rw [List.reverse_eq_nil_iff.mp hreverse]
      rfl
    | cons c rest =>
      have hlast : xs.getLast? = some c := by
        rw [← List.head?_reverse, hreverse]
        rfl
      have hc := h c hlast
      rw [List.dropWhile_cons_of_neg (by simp [hc]), ← hreverse, List.reverse_reverse]

theorem length_dropEndWhile_le (p : Char → Bool) (cs : List Char) :
    (dropEndWhile p cs).length ≤ cs.length := by
  obtain ⟨back, hback, -⟩ := exists_dropEndWhile_append p cs
  nth_rewrite 2 [hback]
  rw [List.length_append]
  exact Nat.le_add_right _ _

theorem dropEndWhile_concat (hc : p c = true) (xs : List Char) :
    dropEndWhile p (xs ++ [c]) = dropEndWhile p xs := by
  rw [dropEndWhile, List.reverse_append, List.reverse_singleton, List.singleton_append,
    List.dropWhile_cons_of_pos hc, dropEndWhile]

end Text
end QueryConsole
