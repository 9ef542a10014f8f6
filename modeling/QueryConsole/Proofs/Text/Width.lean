/-
# The width of a text and the widths of its characters

A text is measured as a whole, so its width is not the sum of the widths of its characters alone.
Joined characters make it less; three kinds of characters make it more (`widens`):

| character | columns alone | in a text |
| --- | ---: | --- |
| a control character other than a line feed | 0 | takes one |
| U+FE0F | 0 | gives the emoji in front of it one more |
| U+2D7F | 0 | takes one in front of a Tifinagh letter |

A text takes at most the columns of its characters alone and one more for each of these (`ofText_le`).

The measure runs from the end of the text to its start, and a character may take more than it does
alone because of what it finds to its right: an emoji in front of U+FE0F, or the third of several
regional indicators in front of a tied sequence, whose first two took less.  What is found there has a
credit for that (`Right.credit`), and every step is paid for by the character and the credit (`Paid`).
-/

import QueryConsole.Proofs.Screen.Wrap

namespace QueryConsole
namespace Width

variable {c : Char} {r s : Right} {n : Int} {p : Int × Right} {t : Ranges}

/-- Whether a character may make a text wider than its characters are alone. -/
def widens (c : Char) : Bool :=
  (c.toNat < 0x20 && c ≠ '\n') || between 0x7F c 0x9F || c.toNat = 0xFE0F || c.toNat = 0x2D7F

/-- The columns that a character may add to a text beyond those that it takes alone. -/
def extra (c : Char) : Nat := if widens c then 1 else 0

/-! ## Characters of the tables -/

/-- The code points in the ranges of a table. -/
def codesIn (t : Ranges) : List Nat := t.toList.flatMap fun r => List.range' r.1 (r.2 + 1 - r.1)

theorem mem_codesIn_of_contains (h : t.contains c = true) : c.toNat ∈ codesIn t := by
  obtain ⟨r, hr, hlow, hhigh⟩ := Ranges.exists_range_of_search h
  refine List.mem_flatMap.mpr ⟨r, Array.mem_def.mp hr, List.mem_range'_1.mpr ⟨hlow, ?_⟩⟩
  omega

/-- A code point of a character that takes columns alone. -/
def TakesColumns (n : Nat) : Prop :=
  0x20 ≤ n ∧ (n < 0x7F ∨ 0xA0 ≤ n) ∧ zeroWidth.holds n = false

instance : DecidablePred TakesColumns := fun _ => inferInstanceAs (Decidable (_ ∧ _))

theorem one_le_ofChar (h : TakesColumns c.toNat) : 1 ≤ ofChar c := by
  obtain ⟨hlow, hcontrol, hzero⟩ := h
  have hwide : 1 ≤ ofWideChar c := by
    rw [ofWideChar, Ranges.contains, hzero]
    split
    · decide
    · rw [if_neg Bool.false_ne_true]
      split <;> decide
  unfold ofChar
  repeat' split
  all_goals omega

theorem takesColumns_of_emojiVariation : ∀ n ∈ codesIn emojiVariation, TakesColumns n := by
  decide +kernel

theorem takesColumns_of_textVariation : ∀ n ∈ codesIn textVariation, TakesColumns n := by
  decide +kernel

theorem takesColumns_of_regional : ∀ n ∈ List.range' 0x1F1E6 26, TakesColumns n := by
  decide +kernel

theorem one_le_ofChar_of_isRegional (h : isRegional c = true) : 1 ≤ ofChar c := by
  obtain ⟨hlow, hhigh⟩ : 0x1F1E6 ≤ c.toNat ∧ c.toNat ≤ 0x1F1FF := by
    simpa [isRegional, between] using h
  exact one_le_ofChar (takesColumns_of_regional _ (List.mem_range'_1.mpr ⟨hlow, by omega⟩))

/-- A character up to U+00A0 takes a column alone, or one more in a text, unless it is a line feed. -/
theorem one_le_of_le (hc : c.toNat ≤ 0xA0) (hfeed : c ≠ '\n') : 1 ≤ ofChar c + extra c := by
  have hcontrol (h : c.toNat < 0x20 ∨ 0x7F ≤ c.toNat ∧ c.toNat ≤ 0x9F) : extra c = 1 := by
    refine if_pos ?_
    obtain h | h := h
    · simp [widens, h, hfeed]
    · simp [widens, between, h]
  unfold ofChar
  repeat' split
  all_goals omega

/-! ## Credit -/

namespace Right

/-- The columns that a character may take beyond what it takes alone because of what stands to its
right. -/
def credit (r : Right) : Int :=
  (if r.group = .joinedRegionalPair then 2 else 0) + (if r.selector = .emoji then 1 else 0)

theorem credit_nonneg (r : Right) : 0 ≤ r.credit := by
  unfold credit
  split <;> split <;> decide

theorem two_le_credit (h : r.group = .joinedRegionalPair) : 2 ≤ r.credit := by
  rw [credit, if_pos h]
  split <;> decide

theorem one_le_credit (h : r.selector = .emoji) : 1 ≤ r.credit := by
  rw [credit, if_pos h]
  split <;> decide

/-- A ligature's second part has credit only for U+FE0F in front of it. -/
theorem credit_of_isLigature (h : r.group.isLigature = true) :
    r.credit = if r.selector = .emoji then 1 else 0 := by
  have hgroup : r.group ≠ .joinedRegionalPair := by
    intro hpair
    rw [hpair] at h
    cases h
  rw [credit, if_neg hgroup, Int.zero_add]

theorem credit_unselect (r : Right) : r.unselect.credit = 0 := by
  unfold unselect
  split
  · rename_i hligature
    exact credit_of_isLigature (r := { r with selector := .none }) hligature
  · rfl

/-- Taking a selector away where it does not count leaves no more credit. -/
theorem credit_ite_unselect_le (r : Right) (p : Prop) [Decidable p] :
    (if p then r.unselect else r).credit ≤ r.credit := by
  split
  · rw [credit_unselect]
    exact r.credit_nonneg
  · exact Int.le_refl r.credit

theorem credit_selectText (r : Right) : r.selectText.credit = 0 := by
  unfold selectText
  split
  · rename_i hligature
    exact credit_of_isLigature (r := { r with selector := .text }) hligature
  · rfl

theorem credit_selectEmoji (r : Right) : r.selectEmoji.credit = 1 := by
  unfold selectEmoji
  split
  · rename_i hkeeps
    have hgroup : r.group ≠ .joinedRegionalPair := by
      intro hpair
      rw [hpair] at hkeeps
      cases hkeeps
    simp [credit, hgroup]
  · rfl

theorem credit_tie_le (r : Right) : r.tie.credit ≤ r.credit := by
  unfold tie
  split
  · exact Int.le_refl r.credit
  · exact r.credit_nonneg

end Right

theorem credit_start_groupOf (c : Char) : (Right.start (groupOf c)).credit = 0 := by
  unfold groupOf
  repeat' split
  all_goals rfl

/-! ## Every step is paid for -/

/-- What a character takes in front of something, with the credit that it leaves, is paid for by its
columns alone, the column that it may add and the credit of what stands there. -/
def Paid (c : Char) (r : Right) (p : Int × Right) : Prop :=
  p.1 + p.2.credit ≤ ofChar c + extra c + r.credit

theorem paid_of_le (hn : n ≤ ofChar c + extra c) (hs : s.credit ≤ r.credit) : Paid c r (n, s) :=
  Int.add_le_add hn hs

theorem paid_zero (c : Char) (hs : s.credit ≤ r.credit) : Paid c r (0, s) :=
  paid_of_le (by omega) hs

theorem paid_alone (hc : 0xA0 < c.toNat) (r : Right) : Paid c r (alone c) := by
  have hcredit := r.credit_nonneg
  unfold alone
  split
  · rename_i hselector
    have hextra : extra c = 1 := if_pos (by simp [widens, hselector])
    change (0 : Int) + 1 ≤ _
    omega
  · split
    · exact paid_zero c hcredit
    · have hwide : ofChar c = ofWideChar c := by
        rw [ofChar, if_neg (by omega), if_neg (by omega), if_neg (by omega), if_neg (by omega)]
      refine paid_of_le (by omega) ?_
      rw [credit_start_groupOf]
      exact hcredit

/-- Only U+2D7F takes a column in front of a ligature's second part. -/
theorem paid_of_ligature? (h : ligature? c r = some p) : Paid c r p := by
  have hcredit := r.credit_nonneg
  have hjoiner (hc : c.toNat = 0x2D7F) : extra c = 1 := if_pos (by simp [widens, hc])
  unfold ligature? at h
  split at h <;> (repeat' split at h) <;> cases h
  case h_1.isFalse.isTrue => exact paid_zero c (Int.le_refl r.credit)
  case h_6.isTrue hc =>
    have := hjoiner hc
    exact paid_of_le (by omega) hcredit
  -- all others leave nothing that has credit
  all_goals exact paid_of_le (by omega) hcredit

/-- What joins an emoji takes no columns, unless it is a regional indicator; several of these take one
each in total, but the credit of a pair comes before the columns of the third. -/
theorem emoji?_columns (h : emoji? c r = some p) :
    p.1 = 0 ∧ p.2.credit = 0 ∨ isRegional c = true ∧ p.1 + p.2.credit ≤ 1 + r.credit := by
  have hcredit : (1 : Int) ≤ 1 + r.credit := Int.le_add_of_nonneg_right r.credit_nonneg
  unfold emoji? at h
  dsimp only at h
  split at h <;> (repeat' split at h) <;> cases h
  case h_2.isTrue hc | h_3.isTrue hc | h_5.isFalse.isTrue hc => exact .inr ⟨hc, hcredit⟩
  case h_6.isTrue hc | h_7.isTrue hc => exact .inr ⟨hc, hcredit⟩
  case h_8.isTrue hgroup hc =>
    exact .inr ⟨hc, Int.add_le_add_left (Right.two_le_credit hgroup) 1⟩
  all_goals exact .inl ⟨rfl, rfl⟩

theorem paid_of_emoji? (h : emoji? c r = some p) : Paid c r p := by
  have hcredit := r.credit_nonneg
  unfold Paid
  obtain ⟨hcolumns, hleft⟩ | ⟨hregional, hle⟩ := emoji?_columns h
  · omega
  · have hone := one_le_ofChar_of_isRegional hregional
    omega

theorem paid_inText (hc : 0xA0 < c.toNat) (r : Right) : Paid c r (inText c r) := by
  have hcredit := r.credit_nonneg
  unfold inText
  split
  · exact paid_alone hc r
  split
  · rename_i hselector
    have hextra : extra c = 1 := if_pos (by simp [widens, hselector])
    rw [Paid, Right.credit_selectEmoji]
    omega
  split
  · exact paid_zero c (by rw [Right.credit_selectText]; exact hcredit)
  split
  · rename_i hvariation
    have hone := one_le_ofChar (takesColumns_of_textVariation _
      (mem_codesIn_of_contains (Bool.and_eq_true_iff.mp hvariation).2))
    exact paid_of_le (by omega) hcredit
  -- the selector is taken away before the character joins
  have hselected := r.credit_ite_unselect_le (r.selector = .text)
  dsimp only
  generalize (if r.selector = .text then r.unselect else r) = r' at hselected ⊢
  split
  · exact paid_zero c (Int.le_trans (Right.credit_tie_le r') hselected)
  split
  · exact paid_zero c hselected
  have hpaid {p : Int × Right} (h : Paid c r' p) : Paid c r p :=
    Int.le_trans h (Int.add_le_add_left hselected _)
  cases hligature : ligature? c r' with
  | some p => exact hpaid (paid_of_ligature? hligature)
  | none =>
    cases hemoji : emoji? c r' with
    | some p => exact hpaid (paid_of_emoji? hemoji)
    | none => exact paid_alone hc r

/-- **Every character is paid for.** -/
theorem paid_step (c : Char) (r : Right) : Paid c r (step c r) := by
  have hcredit := r.credit_nonneg
  unfold step
  split
  · rename_i hvariation
    obtain ⟨hselector, hemoji⟩ := Bool.and_eq_true_iff.mp hvariation
    have hselected := Right.one_le_credit (of_decide_eq_true hselector)
    have hone := one_le_ofChar (takesColumns_of_emojiVariation _ (mem_codesIn_of_contains hemoji))
    have htaken : (if r.group.isJoinedEmoji then 0 else 2 : Int) ≤ 2 := by split <;> decide
    change (if r.group.isJoinedEmoji then 0 else 2 : Int) + 0 ≤ _
    omega
  have hselected := r.credit_ite_unselect_le (r.selector = .emoji)
  dsimp only
  generalize (if r.selector = .emoji then r.unselect else r) = r' at hselected ⊢
  split
  · exact paid_zero c hcredit
  rename_i hfeed
  split
  · exact paid_zero c hcredit
  split
  · rename_i hc
    have hone := one_le_of_le hc hfeed
    exact paid_of_le (by omega) hcredit
  · rename_i hc
    exact Int.le_trans (paid_inText (Nat.lt_of_not_le hc) r') (Int.add_le_add_left hselected _)

/-! ## Texts -/

theorem measure_add_credit_le (cs : List Char) :
    (measure cs).1 + (measure cs).2.credit ≤ Wrap.columns cs + cs.countP widens := by
  induction cs with
  | nil => exact Int.le_refl 0
  | cons c cs ih =>
    have hstep := paid_step c (measure cs).2
    have hmeasure : measure (c :: cs) =
        ((measure cs).1 + (step c (measure cs).2).1, (step c (measure cs).2).2) := rfl
    have hcount : (c :: cs).countP widens = cs.countP widens + extra c := List.countP_cons
    rw [Paid] at hstep
    rw [hmeasure, hcount, Wrap.columns]
    dsimp only
    omega

/-- **A text is not wider than its characters alone**, but for a column for each that widens. -/
theorem ofText_le (cs : List Char) : ofText cs ≤ Wrap.columns cs + cs.countP widens := by
  have hle := measure_add_credit_le cs
  have hcredit := (measure cs).2.credit_nonneg
  rw [ofText]
  omega

end Width
end QueryConsole
