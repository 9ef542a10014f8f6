/-
# Parts are read as the grammar says

The items of an array and the members of an object are read by the same loop (`steps`), whose step passes
over what separates parts and reads one.  Where every step reads a part of the grammar (`StepsOver`), the
loop reads parts that are separated as in the grammar, and nothing else
(`StepsOver.enclosed_eq_ok_iff`).  It fails where one part is refused, wherever that stands among the
others (`StepsOver.error_of_separated`).
-/

import QueryConsole.Proofs.Json.Strings

namespace QueryConsole
namespace Json

open Utf8 (Piece)

variable {α β : Type} {s s' t rest : List Piece} {x : α} {first : Bool}

/-! ## Blank characters -/

/-- What is skipped are blank characters. -/
theorem exists_skipBlank (s : List Piece) :
    ∃ blank, Blank blank ∧ s = Utf8.ofChars blank ++ skipBlank s := by
  induction s with
  | nil => exact ⟨[], List.forall_mem_nil _, rfl⟩
  | cons p s ih =>
    cases hp : isBlankPiece p with
    | false => exact ⟨[], List.forall_mem_nil _, (skipBlank_cons hp s).symm⟩
    | true =>
      obtain ⟨blank, hblank, hs⟩ := ih
      have hskip : skipBlank (p :: s) = skipBlank s := List.dropWhile_cons_of_pos hp
      cases p with
      | stray size => cases hp
      | char c =>
        refine ⟨c :: blank, List.forall_mem_cons.mpr ⟨hp, hblank⟩, ?_⟩
        rw [hskip, Utf8.ofChars_cons, List.cons_append, ← hs]

/-- Skipping ends at a character that is not blank exactly if only blank characters stand before it. -/
theorem skipBlank_eq_cons_iff {c : Char} (hc : isBlankPiece (.char c) = false) :
    skipBlank s = .char c :: t ↔ ∃ blank, Blank blank ∧ s = Utf8.ofChars blank ++ .char c :: t := by
  constructor
  · intro h
    obtain ⟨blank, hblank, hs⟩ := exists_skipBlank s
    exact ⟨blank, hblank, by rw [← h, ← hs]⟩
  · rintro ⟨blank, hblank, rfl⟩
    rw [skipBlank_append hblank, skipBlank_cons hc]

theorem Blank.append {a b : List Char} (ha : Blank a) (hb : Blank b) : Blank (a ++ b) :=
  List.forall_mem_append.mpr ⟨ha, hb⟩

theorem closing_eq_ok_iff {close : Char} (hclose : isBlankPiece (.char close) = false) :
    closing close s = .ok rest ↔
      ∃ blank, Blank blank ∧ s = Utf8.ofChars blank ++ .char close :: rest := by
  rw [← skipBlank_eq_cons_iff hclose]
  unfold closing
  cases skipBlank s with
  | nil => simp
  | cons p t => by_cases hp : p = .char close <;> simp [hp]

/-! ## Parts -/

/-- The loop over parts: a step reads the next part, or finds that there is none. -/
def steps (step : Bool → List Piece → Except Problem (Option (α × List Piece))) :
    Nat → Bool → List Piece → Read (List α)
  | 0, _, _ => .error .ended
  | n + 1, first, s =>
    match step first s with
    | .error problem => .error problem
    | .ok none => .ok ([], s)
    | .ok (some (x, s)) => (steps step n false s).map fun (xs, s) => (x :: xs, s)

/-- Parts up to the character that closes them. -/
def enclosed (step : Bool → List Piece → Except Problem (Option (α × List Piece))) (close : Char)
    (s : List Piece) : Read (List α) :=
  match steps step (s.length + 1) true s with
  | .error problem => .error problem
  | .ok (xs, s) => (closing close s).map fun s => (xs, s)

/-- Every step reads one part as it is written, with what separates it from the part before, or stops
where the parts are closed. -/
structure StepsOver (step : Bool → List Piece → Except Problem (Option (α × List Piece))) (close : Char)
    (written : List Char → α → Prop) : Prop where
  close_visible : isBlankPiece (.char close) = false
  none_iff {first : Bool} {s : List Piece} : step first s = .ok none ↔
    ∃ blank t, Blank blank ∧ s = Utf8.ofChars blank ++ .char close :: t
  some_iff {first : Bool} {s rest : List Piece} {x : α} : step first s = .ok (some (x, rest)) ↔
    ∃ gap lead text, Blank gap ∧ Blank lead ∧ written text x ∧
      s = Utf8.ofChars (gap ++ comma first ++ lead ++ text) ++ rest
  nonempty {text : List Char} {x : α} : written text x → text ≠ []

/-- No step reads the text, whatever separates it and whatever follows. -/
def Refused (step : Bool → List Piece → Except Problem (Option (α × List Piece))) (text : List Char) :
    Prop :=
  ∀ first gap lead rest, Blank gap → Blank lead →
    ∃ problem, step first (Utf8.ofChars (gap ++ comma first ++ lead ++ text) ++ rest) = .error problem

namespace StepsOver

variable {step : Bool → List Piece → Except Problem (Option (α × List Piece))} {close : Char}
  {written : List Char → α → Prop} {xs : List α} {n : Nat}

/-- What the loop has read when the parts are closed is separated as in the grammar. -/
theorem exists_of_steps (h : StepsOver step close written) (hsteps : steps step n first s = .ok (xs, s'))
    (hclosing : closing close s' = .ok rest) :
    ∃ body, s = Utf8.ofChars (body ++ [close]) ++ rest ∧ Separated written first body xs := by
  induction n generalizing first s xs with
  | zero => cases hsteps
  | succ n ih =>
    rw [steps] at hsteps
    split at hsteps
    · cases hsteps
    · obtain ⟨rfl, rfl⟩ := Prod.mk.inj (Except.ok.inj hsteps)
      obtain ⟨blank, hblank, rfl⟩ := (closing_eq_ok_iff h.close_visible).mp hclosing
      exact ⟨blank, (ofChars_concat blank close rest).symm, .done hblank⟩
    · rename_i x after hstep
      obtain ⟨⟨ys, s''⟩, hfurther, heq⟩ := exists_of_map_eq_ok hsteps
      obtain ⟨rfl, rfl⟩ := Prod.mk.inj heq
      obtain ⟨gap, lead, text, hgap, hlead, htext, rfl⟩ := h.some_iff.mp hstep
      obtain ⟨body, rfl, hbody⟩ := ih hfurther
      refine ⟨gap ++ comma first ++ lead ++ text ++ body, ?_, .part hgap hlead htext hbody⟩
      rw [List.append_assoc _ body, ofChars_append_append _ (body ++ _)]

/-- Parts that are separated as in the grammar are read, if the loop may take as many steps. -/
theorem steps_of_separated (h : StepsOver step close written) {body : List Char}
    (hbody : Separated written first body xs) (hn : body.length < n) :
    ∃ s', steps step n first (Utf8.ofChars (body ++ [close]) ++ rest) = .ok (xs, s') ∧
      closing close s' = .ok rest := by
  induction hbody generalizing n with
  | @done first blank hblank =>
    obtain ⟨m, rfl⟩ := Nat.exists_eq_succ_of_ne_zero (Nat.ne_zero_of_lt hn)
    refine ⟨Utf8.ofChars blank ++ .char close :: rest, ?_, ?_⟩
    · rw [ofChars_concat, steps, h.none_iff.mpr ⟨blank, rest, hblank, rfl⟩]
    · exact (closing_eq_ok_iff h.close_visible).mpr ⟨blank, hblank, rfl⟩
  | @part first gap lead text body x xs hgap hlead htext _ ih =>
    obtain ⟨m, rfl⟩ := Nat.exists_eq_succ_of_ne_zero (Nat.ne_zero_of_lt hn)
    have htext_length := List.length_pos_of_ne_nil (h.nonempty htext)
    simp only [List.length_append] at hn
    obtain ⟨s', hsteps, hclosing⟩ := ih (n := m) (by omega)
    refine ⟨s', ?_, hclosing⟩
    rw [List.append_assoc _ body, ofChars_append_append _ (body ++ _), steps,
      h.some_iff.mpr ⟨gap, lead, text, hgap, hlead, htext, rfl⟩]
    dsimp only
    rw [hsteps]
    rfl

/-- **Enclosed parts** are read exactly if they are separated as in the grammar. -/
theorem enclosed_eq_ok_iff (h : StepsOver step close written) :
    enclosed step close s = .ok (xs, rest) ↔
      ∃ body, s = Utf8.ofChars (body ++ [close]) ++ rest ∧ Separated written true body xs := by
  constructor
  · intro henclosed
    unfold enclosed at henclosed
    split at henclosed
    · cases henclosed
    · rename_i ys s' hsteps
      obtain ⟨after, hclosing, heq⟩ := exists_of_map_eq_ok henclosed
      obtain ⟨rfl, rfl⟩ := Prod.mk.inj heq
      exact h.exists_of_steps hsteps hclosing
  · rintro ⟨body, rfl, hbody⟩
    have hlength : body.length < (Utf8.ofChars (body ++ [close]) ++ rest).length + 1 := by
      rw [List.length_append, Utf8.length_ofChars, List.length_append]
      omega
    obtain ⟨s', hsteps, hclosing⟩ := h.steps_of_separated hbody hlength
    rw [enclosed, hsteps]
    dsimp only
    rw [hclosing]
    rfl

/-- **One part that is refused** stops the loop, wherever it stands: all before it are read, unless one of
them is refused already. -/
theorem error_of_separated (h : StepsOver step close written) {part : List Char → β → Prop}
    {body : List Char} {ys : List β} (hbody : Separated part first body ys)
    (hall : ∀ y ∈ ys, ∀ text, part text y → (∃ x, written text x) ∨ Refused step text)
    (hbad : ∃ y ∈ ys, ∀ text, part text y → Refused step text) :
    ∃ problem, steps step n first (Utf8.ofChars body ++ rest) = .error problem := by
  induction hbody generalizing n with
  | done hblank =>
    obtain ⟨y, hy, -⟩ := hbad
    cases hy
  | @part first gap lead text body y ys hgap hlead hpart _ ih =>
    obtain ⟨hhere, hfurther⟩ := List.forall_mem_cons.mp hall
    cases n with
    | zero => exact ⟨.ended, rfl⟩
    | succ n =>
      rw [ofChars_append_append _ body]
      have hrefused (hrefuse : Refused step text) : ∃ problem, steps step (n + 1) first
          (Utf8.ofChars (gap ++ comma first ++ lead ++ text) ++ (Utf8.ofChars body ++ rest)) =
            .error problem := by
        obtain ⟨problem, hproblem⟩ := hrefuse first gap lead (Utf8.ofChars body ++ rest) hgap hlead
        exact ⟨problem, by rw [steps, hproblem]⟩
      obtain ⟨y', hy', hbad⟩ := hbad
      rcases List.mem_cons.mp hy' with rfl | hy'
      · exact hrefused (hbad _ hpart)
      · rcases hhere _ hpart with ⟨x, hx⟩ | hrefuse
        · obtain ⟨problem, hproblem⟩ := ih (n := n) hfurther ⟨y', hy', hbad⟩
          refine ⟨problem, ?_⟩
          rw [steps, h.some_iff.mpr ⟨gap, lead, text, hgap, hlead, hx, rfl⟩]
          dsimp only
          rw [hproblem]
          rfl
        · exact hrefused hrefuse

end StepsOver

end Json
end QueryConsole
