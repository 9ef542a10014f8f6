/-
# Tables of code points

A property of characters is a sorted array of disjoint closed ranges of code points; a character
is looked up by halving.
-/

namespace QueryConsole

/-- A sorted table of disjoint closed ranges of code points. -/
abbrev Ranges := Array (Nat × Nat)

namespace Ranges

/-- Halving between the indexes `low` and `high`; the first number bounds the halvings. -/
def search (t : Ranges) (n : Nat) : Nat → Nat → Nat → Bool
  | 0, _, _ => false
  | steps + 1, low, high =>
    if low < high then
      let middle := (low + high) / 2
      match t[middle]? with
      | none => false
      | some (first, last) =>
        if n < first then search t n steps low middle
        else if last < n then search t n steps (middle + 1) high
        else true
    else false

/-- Whether a range of the table holds the code point `n`. -/
def holds (t : Ranges) (n : Nat) : Bool :=
  t.search n t.size 0 t.size

/-- Whether a range of the table holds the character. -/
def contains (t : Ranges) (c : Char) : Bool :=
  t.holds c.toNat

/-- **A hit is a range of the table:** `search` answers only for a code point inside an entry. -/
theorem exists_range_of_search {t : Ranges} {n steps low high : Nat}
    (h : t.search n steps low high = true) : ∃ r ∈ t, r.1 ≤ n ∧ n ≤ r.2 := by
  fun_induction search t n steps low high with
  | case1 => simp at h
  | case2 => simp at h
  | case3 _ _ _ _ _ _ _ _ _ ih => exact ih h
  | case4 _ _ _ _ _ _ _ _ _ _ ih => exact ih h
  | case5 _ _ _ _ m first last hm _ _ =>
    exact ⟨(first, last), Array.mem_of_getElem? hm, by simp; omega⟩
  | case6 => simp at h

end Ranges
end QueryConsole
