/-
# White space and trimming

Blank characters are those of the Unicode property White_Space:

| code points | characters |
| --- | --- |
| U+0009 … U+000D, U+0020 | tab, line ends, space |
| U+0085, U+00A0 | next line, no-break space |
| U+1680, U+2000 … U+200A, U+202F, U+205F, U+3000 | spaces of other widths |
| U+2028, U+2029 | line and paragraph separators |
-/

namespace QueryConsole
namespace Text

/-- A character of the Unicode property White_Space. -/
def isBlank (c : Char) : Bool :=
  let n := c.toNat
  (9 ≤ n && n ≤ 13) || n == 0x20 || n == 0x85 || n == 0xA0 || n == 0x1680 ||
    (0x2000 ≤ n && n ≤ 0x200A) || n == 0x2028 || n == 0x2029 || n == 0x202F || n == 0x205F ||
    n == 0x3000

/-- The characters without the blank ones at the front. -/
def trimStart (cs : List Char) : List Char := cs.dropWhile isBlank

/-- The characters without those at the end for which `p` holds. -/
def dropEndWhile (p : Char → Bool) (cs : List Char) : List Char :=
  (cs.reverse.dropWhile p).reverse

/-- The characters without the blank ones at both ends. -/
def trim (cs : List Char) : List Char :=
  dropEndWhile isBlank (trimStart cs)

/-- What `dropEndWhile` removes is a tail of characters for which `p` holds. -/
theorem exists_dropEndWhile_append (p : Char → Bool) (cs : List Char) :
    ∃ tail, cs = dropEndWhile p cs ++ tail ∧ ∀ c ∈ tail, p c = true := by
  refine ⟨(cs.reverse.takeWhile p).reverse, ?_, ?_⟩
  · have h := congrArg List.reverse (List.takeWhile_append_dropWhile (p := p) (l := cs.reverse))
    rw [List.reverse_append, List.reverse_reverse] at h
    exact h.symm
  · intro c hc
    exact List.all_eq_true.1 List.all_takeWhile c (List.mem_reverse.1 hc)

/-- **Trimming takes blank characters from both ends and nothing else.** -/
theorem exists_trim (cs : List Char) :
    ∃ front back, cs = front ++ trim cs ++ back ∧ (∀ c ∈ front, isBlank c = true) ∧
      ∀ c ∈ back, isBlank c = true := by
  obtain ⟨back, hback, hblank⟩ := exists_dropEndWhile_append isBlank (trimStart cs)
  refine ⟨cs.takeWhile isBlank, back, ?_, fun c hc => ?_, hblank⟩
  · rw [List.append_assoc, trim, ← hback, trimStart, List.takeWhile_append_dropWhile]
  · exact List.all_eq_true.1 List.all_takeWhile c hc

end Text
end QueryConsole
