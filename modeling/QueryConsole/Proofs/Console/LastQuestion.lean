/-
# The last question decides the view

A run of the console may ask questions, submit blank boxes, change databases and settle calls in any
order, with settlements that are early, late or repeated.  The view depends on very little of that:
on the last question (`Asks`), and on the first settlement of that question's generation after it.
`view_decided_by_last_question` says which view it is.

Behind it are two facts about a console whose moves ask nothing (`Quiet`).  A view that waits for
the current generation goes on waiting until that generation settles (`view_after_of_unsettled`),
and a view that waits for nothing stays as it is (`view_after_of_not_loading`).
-/

import QueryConsole.Proofs.Console.Run

namespace QueryConsole
namespace Console

/-- Whether a move asks a question: it submits a box that is not blank. -/
def Asks (s : Console) : Move → Prop
  | .edit _ => False
  | .act action => ∃ input, action.submitted? s.input = some input ∧ ¬input.IsBlank

/-- Whether no move of a run asks a question. -/
def Quiet (phrases : Phrases) : Console → List Move → Prop
  | _, [] => True
  | s, m :: moves => ¬s.Asks m ∧ Quiet phrases (s.advance phrases m).1 moves

variable {phrases : Phrases} {s : Console}

theorem quiet_append {xs ys : List Move} :
    s.Quiet phrases (xs ++ ys) ↔ s.Quiet phrases xs ∧ (s.after phrases xs).Quiet phrases ys := by
  induction xs generalizing s with
  | nil => simp [Quiet]
  | cons m xs ih => rw [List.cons_append, Quiet, Quiet, ih, after_cons, and_assoc]

/-- A run in which a question is asked has a last one. -/
theorem quiet_or_exists_last (phrases : Phrases) (s : Console) (moves : List Move) :
    s.Quiet phrases moves ∨ ∃ before m since, moves = before ++ m :: since ∧
      (s.after phrases before).Asks m ∧
      ((s.after phrases before).advance phrases m).1.Quiet phrases since := by
  induction moves generalizing s with
  | nil => exact .inl trivial
  | cons m moves ih =>
    rcases ih (s.advance phrases m).1 with hq | ⟨before, n, since, rfl, ha, hq⟩
    · by_cases ha : s.Asks m
      · exact .inr ⟨[], m, moves, rfl, ha, hq⟩
      · exact .inl ⟨ha, hq⟩
    · exact .inr ⟨m :: before, n, since, rfl, ha, hq⟩

/-- A question makes the view wait for the generation under which it is sent. -/
theorem advance_of_asks (phrases : Phrases) {m : Move} (h : s.Asks m) :
    ∃ request, (s.advance phrases m).2 = [.submitQuery s.queries.next request] ∧
      (s.advance phrases m).1.view = .loading s.queries.next ∧
      (s.advance phrases m).1.queries = s.queries.issue := by
  cases m with
  | edit input => exact h.elim
  | act action =>
    obtain ⟨input, hs, hb⟩ := h
    rw [advance, reduce_of_submitted hs, beginSubmit_of_not_isBlank (s := { s with input }) hb]
    exact ⟨_, rfl, rfl, rfl⟩

/-- Any other move issues no generation, and changes the view at most by settling the generation
that the view waits for. -/
theorem advance_of_not_asks (phrases : Phrases) {m : Move} (h : ¬s.Asks m) :
    (s.advance phrases m).1.queries = s.queries ∧
      ((s.advance phrases m).1.view = s.view ∨
        ∃ generation result, m = .act (.querySettled generation result) ∧
          s.view = .loading generation) := by
  cases m with
  | edit input => exact ⟨rfl, .inl rfl⟩
  | act action =>
    have ht := reduce_transition phrases s action
    rw [advance]
    generalize s.reduce phrases action = out at ht ⊢
    obtain ⟨t, effects⟩ := out
    cases ht with
    | asked hs hb => exact absurd ⟨_, hs, hb⟩ h
    | settled _ awaited result => exact ⟨rfl, .inr ⟨_, result, rfl, awaited⟩⟩
    | _ => exact ⟨rfl, .inl rfl⟩

/-- The settlement of the current generation decides a view that waits for it. -/
theorem view_advance_of_settled (phrases : Phrases) {generation : Nat}
    (hc : s.queries.isCurrent generation = true) (hv : s.view = .loading generation)
    (result : Except CallError QueryOutcome) :
    (s.advance phrases (.act (.querySettled generation result))).1.view =
      .ofResult phrases result := by
  have ht := reduce_transition phrases s (.querySettled generation result)
  rw [advance]
  generalize s.reduce phrases (.querySettled generation result) = out at ht ⊢
  obtain ⟨t, effects⟩ := out
  cases ht with
  | blank hs hb => cases hs
  | asked hs hb => cases hs
  | staleQuery stale => exact absurd ⟨hc, hv⟩ stale
  | settled => rfl

/-- **A view that waits for nothing stays as it is** while nothing is asked. -/
theorem view_after_of_not_loading {moves : List Move}
    (hv : ∀ generation, s.view ≠ .loading generation) (hq : s.Quiet phrases moves) :
    (s.after phrases moves).view = s.view := by
  induction moves generalizing s with
  | nil => rfl
  | cons m moves ih =>
    rcases (advance_of_not_asks phrases hq.1).2 with h | ⟨generation, _, _, hl⟩
    · rw [after_cons, ih (h ▸ hv) hq.2, h]
    · exact absurd hl (hv generation)

/-- **A view that waits for the current generation goes on waiting** while nothing is asked and that
generation does not settle. -/
theorem view_after_of_unsettled {generation : Nat} {moves : List Move}
    (hc : s.queries.isCurrent generation = true) (hv : s.view = .loading generation)
    (hq : s.Quiet phrases moves)
    (hn : ∀ result, .act (.querySettled generation result) ∉ moves) :
    (s.after phrases moves).view = .loading generation ∧
      (s.after phrases moves).queries.isCurrent generation = true := by
  induction moves generalizing s with
  | nil => exact ⟨hv, hc⟩
  | cons m moves ih =>
    obtain ⟨hqueries, h | ⟨g, result, rfl, hl⟩⟩ := advance_of_not_asks phrases hq.1
    · exact ih (hqueries ▸ hc) (h.trans hv) hq.2 fun result hm =>
        hn result (List.mem_cons_of_mem _ hm)
    · obtain rfl : g = generation := QueryView.loading.inj (hl.symm.trans hv)
      exact absurd List.mem_cons_self (hn result)

/-- A run in which a generation settles has a first settlement of it. -/
theorem unsettled_or_exists_first (generation : Nat) (moves : List Move) :
    (∀ result, .act (.querySettled generation result) ∉ moves) ∨
      ∃ before result since, moves = before ++ .act (.querySettled generation result) :: since ∧
        ∀ result, .act (.querySettled generation result) ∉ before := by
  induction moves with
  | nil => exact .inl fun _ => List.not_mem_nil
  | cons m moves ih =>
    by_cases hm : ∃ result, m = .act (.querySettled generation result)
    · obtain ⟨result, rfl⟩ := hm
      exact .inr ⟨[], result, moves, rfl, fun _ => List.not_mem_nil⟩
    · have hhead : ∀ result, .act (.querySettled generation result) ≠ m :=
        fun result h => hm ⟨result, h.symm⟩
      rcases ih with hn | ⟨before, result, since, rfl, hn⟩
      · exact .inl fun result => List.not_mem_cons_of_ne_of_not_mem (hhead result) (hn result)
      · exact .inr ⟨m :: before, result, since, rfl, fun result =>
          List.not_mem_cons_of_ne_of_not_mem (hhead result) (hn result)⟩

/-- **The first settlement of the current generation decides a view that waits for it**, and without
one the view goes on waiting. -/
theorem view_after_of_loading {generation : Nat} {moves : List Move}
    (hc : s.queries.isCurrent generation = true) (hv : s.view = .loading generation)
    (hq : s.Quiet phrases moves) :
    (∀ result, .act (.querySettled generation result) ∉ moves) ∧
        (s.after phrases moves).view = .loading generation ∨
      ∃ early result late, moves = early ++ .act (.querySettled generation result) :: late ∧
        (∀ other, .act (.querySettled generation other) ∉ early) ∧
        (s.after phrases moves).view = .ofResult phrases result := by
  rcases unsettled_or_exists_first generation moves with hn | ⟨early, result, late, rfl, hn⟩
  · exact .inl ⟨hn, (view_after_of_unsettled hc hv hq hn).1⟩
  · obtain ⟨hearly, _, hlate⟩ := quiet_append.1 hq
    obtain ⟨hwaits, hstill⟩ := view_after_of_unsettled hc hv hearly hn
    have hsettled := view_advance_of_settled phrases hstill hwaits result
    have hdone := fun g => hsettled ▸ QueryView.ofResult_ne_loading phrases result g
    refine .inr ⟨early, result, late, rfl, hn, ?_⟩
    rw [after_append, after_cons, view_after_of_not_loading hdone hlate, hsettled]

/-- **The last question decides the view.**  Without a question the view is idle.  Otherwise it
waits for the generation of the last question until that settles, and is then what the first
settlement leads to, whatever else happens. -/
theorem view_decided_by_last_question (phrases : Phrases) (database : String) (single : Bool)
    (moves : List Move) :
    (start database single).Quiet phrases moves ∧
        ((start database single).after phrases moves).view = .idle ∨
      ∃ before m since generation request,
        moves = before ++ m :: since ∧
        ((start database single).after phrases before).Asks m ∧
        ((start database single).after phrases (before ++ [m])).Quiet phrases since ∧
        (((start database single).after phrases before).advance phrases m).2 =
          [.submitQuery generation request] ∧
        ((∀ result, .act (.querySettled generation result) ∉ since) ∧
            ((start database single).after phrases moves).view = .loading generation ∨
          ∃ early result late,
            since = early ++ .act (.querySettled generation result) :: late ∧
            (∀ other, .act (.querySettled generation other) ∉ early) ∧
            ((start database single).after phrases moves).view = .ofResult phrases result) := by
  rcases quiet_or_exists_last phrases (start database single) moves with
    hq | ⟨before, m, since, rfl, ha, hq⟩
  · exact .inl ⟨hq, view_after_of_not_loading (fun _ => QueryView.noConfusion) hq⟩
  · obtain ⟨request, heffects, hview, hqueries⟩ := advance_of_asks phrases ha
    have hcurrent := GenerationCounter.isCurrent_issue
      ((start database single).after phrases before).queries
    rw [← hqueries] at hcurrent
    have hafter : (start database single).after phrases (before ++ [m]) =
        (((start database single).after phrases before).advance phrases m).1 := after_append ..
    refine .inr ⟨before, m, since, _, request, rfl, ha, hafter ▸ hq, heffects, ?_⟩
    rw [after_append]
    exact view_after_of_loading hcurrent hview hq

end Console
end QueryConsole
