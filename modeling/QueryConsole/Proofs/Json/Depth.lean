/-
# Texts that are nested too deep to be read

A reader that may open more arrays and objects reads all that one does that may open fewer, with the same
result (`extends_value`): arrays and objects are read by a loop over their parts, which keeps what its
steps read (`Extends.steps`).  So the compact text of a value is read as this value or not at all, and it is
read exactly if the value is nested no deeper than the reader may open (`parse_compact_eq_ok_iff`).
-/

import QueryConsole.Proofs.Json.Elements

namespace QueryConsole
namespace Json

open Utf8 (Piece)

/-! ## Readers that read more -/

section
variable {α : Type}

/-- Wherever one reader succeeds another does, with the same result. -/
def Extends (read read' : List Piece → Except Problem α) : Prop :=
  ∀ ⦃s r⦄, read s = .ok r → read' s = .ok r

variable {step step' : Bool → List Piece → Except Problem (Option (α × List Piece))}
  {read read' : List Piece → Read α}

/-- What the steps read the loop over them reads. -/
theorem Extends.steps (h : ∀ first, Extends (step first) (step' first)) (n : Nat) (first : Bool) :
    Extends (steps step n first) (steps step' n first) := by
  induction n generalizing first with
  | zero =>
    intro s r hr
    cases hr
  | succ n ih =>
    intro s r hr
    rw [Json.steps] at hr ⊢
    cases hstep : step first s with
    | error problem => simp [hstep] at hr
    | ok next =>
      rw [hstep] at hr
      rw [h first hstep]
      cases next with
      | none => exact hr
      | some part =>
        obtain ⟨⟨xs, rest⟩, hxs, rfl⟩ := exists_of_map_eq_ok hr
        dsimp only
        rw [ih false hxs]
        rfl

/-- What the steps read is read up to the character that closes the parts. -/
theorem Extends.enclosed (h : ∀ first, Extends (step first) (step' first)) (close : Char) :
    Extends (enclosed step close) (enclosed step' close) := by
  intro s r hr
  rw [Json.enclosed] at hr ⊢
  cases hsteps : Json.steps step (s.length + 1) true s with
  | error problem => simp [hsteps] at hr
  | ok parts =>
    rw [hsteps] at hr
    rw [Extends.steps h _ _ hsteps]
    exact hr

/-- Reads a part where one starts. -/
def partStep (next : Bool → List Piece → Except Problem (Option (List Piece)))
    (read : List Piece → Read α) (first : Bool) (s : List Piece) :
    Except Problem (Option (α × List Piece)) :=
  match next first s with
  | .error problem => .error problem
  | .ok none => .ok none
  | .ok (some s) => (read s).map some

theorem itemStep_eq (read : List Piece → Read α) : itemStep read = partStep nextItem read := rfl

theorem memberStep_eq (read : List Piece → Read α) :
    memberStep read = partStep nextKey (memberBody read) := rfl

/-- Where parts start does not depend on their reader. -/
theorem Extends.partStep (h : Extends read read')
    (next : Bool → List Piece → Except Problem (Option (List Piece))) (first : Bool) :
    Extends (partStep next read first) (partStep next read' first) := by
  intro s r hr
  rw [Json.partStep] at hr ⊢
  cases hnext : next first s with
  | error problem => simp [hnext] at hr
  | ok start =>
    rw [hnext] at hr
    cases start with
    | none => exact hr
    | some t =>
      obtain ⟨x, hx, rfl⟩ := exists_of_map_eq_ok hr
      dsimp only
      rw [h hx]
      rfl

theorem Extends.memberBody (h : Extends read read') :
    Extends (memberBody read) (memberBody read') := by
  intro s r hr
  rw [Json.memberBody] at hr ⊢
  cases hkey : string s with
  | error problem => simp [hkey] at hr
  | ok key =>
    rw [hkey] at hr
    dsimp only at hr ⊢
    cases hcolon : colon key.2 with
    | error problem => simp [hcolon] at hr
    | ok t =>
      rw [hcolon] at hr
      obtain ⟨x, hx, rfl⟩ := exists_of_map_eq_ok hr
      dsimp only
      rw [h hx]
      rfl

theorem Extends.array (h : Extends read read') : Extends (array read) (array read') := by
  rw [array_eq, array_eq, itemStep_eq, itemStep_eq]
  exact Extends.enclosed (h.partStep nextItem) ']'

theorem Extends.object (h : Extends read read') : Extends (object read) (object read') := by
  rw [object_eq, object_eq, memberStep_eq, memberStep_eq]
  exact Extends.enclosed (h.memberBody.partStep nextKey) '\x7d'

end

/-- **More depth does not change what is read.** -/
theorem extends_value {depth depth' : Nat} (hle : depth ≤ depth') :
    Extends (value depth) (value depth') := by
  induction depth using Nat.strong_induction_on generalizing depth' with
  | _ depth ih =>
    intro s r hr
    unfold value at hr ⊢
    cases hskip : skipBlank s with
    | nil => simp [hskip] at hr
    | cons p t =>
      rw [hskip] at hr
      cases p with
      | stray size => cases hr
      | char c =>
        dsimp only at hr ⊢
        -- only brackets and braces look at the depth, and one that was opened leaves less of both depths
        split at hr
        · next hc =>
          rw [if_pos hc]
          cases depth with
          | zero => cases hr
          | succ n =>
            obtain ⟨n', rfl⟩ := Nat.exists_eq_succ_of_ne_zero (Nat.ne_zero_of_lt hle)
            obtain ⟨vs, hvs, rfl⟩ := exists_of_map_eq_ok hr
            have hitems := ih n (Nat.lt_succ_self n) (Nat.le_of_succ_le_succ hle)
            dsimp only
            rw [hitems.array hvs]
            rfl
        · next hbracket =>
          rw [if_neg hbracket]
          split at hr
          · next hc =>
            rw [if_pos hc]
            cases depth with
            | zero => cases hr
            | succ n =>
              obtain ⟨n', rfl⟩ := Nat.exists_eq_succ_of_ne_zero (Nat.ne_zero_of_lt hle)
              obtain ⟨ms, hms, rfl⟩ := exists_of_map_eq_ok hr
              have hvalues := ih n (Nat.lt_succ_self n) (Nat.le_of_succ_le_succ hle)
              dsimp only
              rw [hvalues.object hms]
              rfl
          · next hbrace =>
            rw [if_neg hbrace]
            exact hr

/-! ## Texts of values -/

/-- **The compact text of a value is read as this value or not at all:** it is read exactly if the value
is nested no deeper than the reader may open. -/
theorem parse_compact_eq_ok_iff {v w : Json} (wf : v.WellFormed) (doubles : v.DoublesReadBack) :
    parse v.compact = .ok w ↔ w = v ∧ v.NestedAtMost maxDepth := by
  constructor
  · intro h
    obtain ⟨rest, hread⟩ : ∃ rest, value maxDepth (Utf8.ofChars v.chars) = .ok (w, rest) := by
      rw [parse, compact, String.toList_ofList, parsePieces, whole] at h
      split at h
      · cases h
      · next rest hread =>
        split at h
        · exact ⟨rest, Except.ok.inj h ▸ hread⟩
        · cases h
    -- a reader that may open enough reads the value itself, so this is what was read
    obtain ⟨n, hn⟩ := wf.exists_nestedAtMost
    have hself : value (max n maxDepth) (Utf8.ofChars v.chars) = .ok (v, []) := by
      have hprint := compactLayout.value_print
        ⟨hn.mono (Nat.le_max_left n maxDepth), wf, doubles⟩ 0 ends_nil
      rw [List.append_nil] at hprint
      exact hprint
    have hmore := extends_value (Nat.le_max_right n maxDepth) hread
    rw [hself] at hmore
    obtain ⟨rfl, -⟩ := Prod.mk.inj (Except.ok.inj hmore)
    exact ⟨rfl, nestedAtMost_of_value hread⟩
  · rintro ⟨rfl, nested⟩
    exact parse_compact ⟨nested, wf, doubles⟩

end Json
end QueryConsole
