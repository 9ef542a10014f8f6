/-
# Texts cut to a width

A text that is too wide is cut behind the longest front part that leaves a column for the ellipsis,
where each character counts as wide as it is alone (`fitting_append`, `columns_fitting_le`,
`lt_columns_of_fitting`).  Whether it is too wide is asked of the text as a whole, so a text that was
cut may still be wider than allowed: by a column at most for each of its characters that widens a text
(`cut_within_width`).  A text without such characters never is.
-/

import QueryConsole.Proofs.Text.Width
import QueryConsole.Text.Truncate

namespace QueryConsole
namespace Text

open Wrap (columns columns_append columns_singleton)

/-! ## The front part that fits -/

/-- The front part is followed by the rest of the text. -/
theorem fitting_append (room : Nat) (cs : List Char) : ∃ rest, cs = fitting room cs ++ rest := by
  induction cs generalizing room with
  | nil => exact ⟨[], rfl⟩
  | cons c cs ih =>
    rw [fitting]
    split
    · obtain ⟨rest, hrest⟩ := ih (room - Width.ofChar c)
      exact ⟨rest, congrArg (c :: ·) hrest⟩
    · exact ⟨c :: cs, rfl⟩

theorem columns_fitting_le (room : Nat) (cs : List Char) : columns (fitting room cs) ≤ room := by
  induction cs generalizing room with
  | nil => exact Nat.zero_le room
  | cons c cs ih =>
    rw [fitting]
    split
    · have hle := ih (room - Width.ofChar c)
      rw [columns]
      omega
    · exact Nat.zero_le room

/-- The next character does not fit behind the front part. -/
theorem lt_columns_of_fitting {room : Nat} {cs rest : List Char} {c : Char}
    (h : cs = fitting room cs ++ c :: rest) : room < columns (fitting room cs) + Width.ofChar c := by
  induction cs generalizing room with
  | nil => cases h
  | cons d cs ih =>
    rw [fitting] at h ⊢
    split at h
    · rename_i hfits
      have hlt := ih (List.cons.inj h).2
      rw [if_pos hfits, columns]
      omega
    · rename_i hwide
      rw [if_neg hwide, columns]
      obtain rfl : d = c := (List.cons.inj h).1
      omega

/-! ## The text that is shown -/

theorem truncateChars_of_le {cs : List Char} {width : Nat} (h : Width.ofText cs ≤ width) :
    truncateChars cs width = cs := if_pos h

theorem truncateChars_of_lt {cs : List Char} {width : Nat} (h : width < Width.ofText cs) :
    truncateChars cs width = if width = 0 then [] else fitting (width - 1) cs ++ ['…'] :=
  if_neg (Nat.not_le_of_lt h)

/-- The characters of a text that was cut take no more columns than allowed, if each stands alone. -/
theorem columns_truncateChars_le {cs : List Char} {width : Nat} (h : width < Width.ofText cs) :
    columns (truncateChars cs width) ≤ width := by
  have hellipsis : Width.ofChar '…' = 1 := by decide +kernel
  have hfitting := columns_fitting_le (width - 1) cs
  rw [truncateChars_of_lt h]
  split
  · exact Nat.zero_le width
  · rw [columns_append, columns_singleton, hellipsis]
    omega

/-- A text that was cut is wider than allowed by a column at most for each character that widens. -/
theorem ofText_truncateChars_le (cs : List Char) (width : Nat) :
    Width.ofText (truncateChars cs width) ≤
      width + (truncateChars cs width).countP Width.widens := by
  by_cases hfits : Width.ofText cs ≤ width
  · rw [truncateChars_of_le hfits]
    omega
  · have hcolumns := columns_truncateChars_le (Nat.lt_of_not_le hfits)
    have htext := Width.ofText_le (truncateChars cs width)
    omega

/-- What is shown of a text widens no more than the text does. -/
theorem countP_widens_truncateChars_le (cs : List Char) (width : Nat) :
    (truncateChars cs width).countP Width.widens ≤ cs.countP Width.widens := by
  obtain ⟨rest, hrest⟩ := fitting_append (width - 1) cs
  have hellipsis : ['…'].countP Width.widens = 0 := by decide
  unfold truncateChars
  split
  · exact Nat.le_refl _
  split
  · exact Nat.zero_le _
  · conv_rhs => rw [hrest]
    rw [List.countP_append, List.countP_append, hellipsis]
    omega

/-- **A text is shown whole where it fits, and else as a front part with an ellipsis** that together
are as wide as allowed when each character is measured alone; the front part is as long as possible.
Measured as a text, what is shown is wider than allowed by a column at most for each of its characters
that widens, so it never is where the text has none of them. -/
theorem cut_within_width (cs : List Char) (width : Nat) :
    (Width.ofText cs ≤ width → truncateChars cs width = cs) ∧
      (width < Width.ofText cs → width = 0 → truncateChars cs width = []) ∧
      (width < Width.ofText cs → 0 < width → ∃ front rest, cs = front ++ rest ∧
        truncateChars cs width = front ++ ['…'] ∧ columns front < width ∧
        ∀ c rest', rest = c :: rest' → width ≤ columns front + Width.ofChar c) ∧
      Width.ofText (truncateChars cs width) ≤
        width + (truncateChars cs width).countP Width.widens ∧
      ((∀ c ∈ cs, Width.widens c = false) → Width.ofText (truncateChars cs width) ≤ width) := by
  have hwidth := ofText_truncateChars_le cs width
  refine ⟨truncateChars_of_le, fun hlt hzero => ?_, fun hlt hpos => ?_, hwidth, fun hplain => ?_⟩
  · rw [truncateChars_of_lt hlt, if_pos hzero]
  · obtain ⟨rest, hrest⟩ := fitting_append (width - 1) cs
    have hfitting := columns_fitting_le (width - 1) cs
    refine ⟨fitting (width - 1) cs, rest, hrest, ?_, by omega, fun c rest' hcons => ?_⟩
    · rw [truncateChars_of_lt hlt, if_neg hpos.ne']
    · have hnext := lt_columns_of_fitting (hcons ▸ hrest)
      omega
  · have hnone : cs.countP Width.widens = 0 := by
      rw [List.countP_eq_zero]
      intro c hc
      rw [hplain c hc]
      exact Bool.false_ne_true
    have hshown := countP_widens_truncateChars_le cs width
    omega

/-- Wide characters are cut to an odd width. -/
theorem cut_within_width_of_wide_characters :
    (∀ c ∈ "日本語テキスト".toList, Width.widens c = false) ∧
      5 < Width.ofText "日本語テキスト".toList ∧
      truncateChars "日本語テキスト".toList 5 = "日本…".toList ∧
      Width.ofText (truncateChars "日本語テキスト".toList 5) ≤ 5 := by
  have hnone : "日本語テキスト".toList.countP Width.widens = 0 := by decide +kernel
  have hplain : ∀ c ∈ "日本語テキスト".toList, Width.widens c = false := fun c hc =>
    Bool.eq_false_iff.mpr (List.countP_eq_zero.mp hnone c hc)
  exact ⟨hplain, by decide +kernel, by decide +kernel,
    (cut_within_width "日本語テキスト".toList 5).2.2.2.2 hplain⟩

/-- Three hearts that are cut to three columns still take five, because each is measured without the
U+FE0F that makes it wide. -/
theorem hearts_cut_too_wide :
    truncateChars "\u2764\ufe0f\u2764\ufe0f\u2764\ufe0f".toList 3 =
        "\u2764\ufe0f\u2764\ufe0f…".toList ∧
      ¬Width.ofText (truncateChars "\u2764\ufe0f\u2764\ufe0f\u2764\ufe0f".toList 3) ≤ 3 :=
  ⟨by decide +kernel, by decide +kernel⟩

end Text
end QueryConsole
