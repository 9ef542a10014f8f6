/-
# Failures are notified once

A failed call is notified when its result arrives, unless the result is not waited for any more.
Which results those are is a matter of the run so far (`Fails`):

| failure | when it counts | surface |
| --- | --- | --- |
| list of databases | always | the log only |
| schema | for the load that was asked for last | the schema panel |
| question | for the last question, the first time that it settles (`AwaitsAnswer`) | the view |

A move that brings a failure has exactly one notification, and changes the console where the kind
says and nowhere else (`surfaced`); any other move has none.  A view that shows an error got it from
the last failure of a question, and nothing was asked since (`exists_failedLast_of_view_eq`).
-/

import QueryConsole.Proofs.Console.LastQuestion
import QueryConsole.Proofs.Console.SelectedSchema

namespace QueryConsole

/-- The notification that an effect is. -/
def Effect.notification? : Effect → Option Notification
  | notify n => some n
  | _ => none

/-- The notifications among effects, in order. -/
def Effect.notifications (effects : List Effect) : List Notification :=
  effects.filterMap notification?

/-- The view shows an error exactly for a failed question, with the text of its notification. -/
theorem QueryView.exists_notification_of_ofResult {phrases : Phrases}
    {result : Except CallError QueryOutcome} {message : String}
    (h : ofResult phrases result = .error message) :
    ∃ n, Notification.ofResult? phrases result = some n ∧ n.surface = .queryErrorView ∧
      n.message = message := by
  rcases result with e | answer | text
  · exact ⟨_, rfl, rfl, QueryView.error.inj h⟩
  · cases h
  · exact ⟨_, rfl, rfl, QueryView.error.inj h⟩

namespace Console

variable {phrases : Phrases} {s : Console} {moves since : List Move} {m : Move}
  {generation : Nat} {n : Notification} {database : Option String}

/-- What the notification of a failure leads to: it is sent, and the failure is shown where its kind
says.  Where no list of databases is found, none is listed, and the schema of no particular one is
asked for. -/
def surfaced (s : Console) (n : Notification) : Console × List Effect :=
  match n.surface with
  | .queryErrorView => ({ s with view := .error n.message }, [.notify n])
  | .schemaPanel => ({ s with schema := .failed }, [.notify n])
  | .logOnly =>
    ({ s with databases := .empty, schema := .loading, schemaLoads := s.schemaLoads.issue },
      [.notify n, .loadSchema s.schemaLoads.next none])

theorem notifications_surfaced (s : Console) (n : Notification) :
    Effect.notifications (s.surfaced n).2 = [n] := by
  unfold surfaced
  cases n.surface <;> rfl

/-! ## What is waited for -/

/-- A run waits for the answer of a generation: under it the last question was asked, and it has not
settled since. -/
def AwaitsAnswer (phrases : Phrases) (s : Console) (moves : List Move) (generation : Nat) : Prop :=
  ∃ before m since request, moves = before ++ m :: since ∧
    (s.after phrases before).Asks m ∧
    ((s.after phrases before).advance phrases m).2 = [.submitQuery generation request] ∧
    (s.after phrases (before ++ [m])).Quiet phrases since ∧
    ∀ result, .act (.querySettled generation result) ∉ since

/-- The generation that a run waits for is the current one, and the view waits for it. -/
theorem AwaitsAnswer.view_eq (h : AwaitsAnswer phrases s moves generation) :
    (s.after phrases moves).view = .loading generation ∧
      (s.after phrases moves).queries.isCurrent generation = true := by
  obtain ⟨before, m, since, request, rfl, hasks, heffects, hquiet, hunsettled⟩ := h
  obtain ⟨_, hsubmitted, hview, hqueries⟩ := advance_of_asks phrases hasks
  rw [hsubmitted] at heffects
  obtain ⟨rfl, -⟩ := Effect.submitQuery.inj (List.cons.inj heffects).1
  have hcurrent := GenerationCounter.isCurrent_issue (s.after phrases before).queries
  rw [← hqueries] at hcurrent
  rw [after_append, after_cons, after_nil] at hquiet
  rw [after_append, after_cons]
  exact view_after_of_unsettled hcurrent hview hquiet hunsettled

/-- **A view that waits, waits for the last question**, which has not settled. -/
theorem awaitsAnswer_of_view_eq (hidle : s.view = .idle)
    (h : (s.after phrases moves).view = .loading generation) :
    AwaitsAnswer phrases s moves generation := by
  rcases quiet_or_exists_last phrases s moves with hquiet | ⟨before, m, since, rfl, hasks, hquiet⟩
  · have hnone (g : Nat) (hloading : s.view = .loading g) : False := by
      rw [hidle] at hloading
      cases hloading
    rw [view_after_of_not_loading hnone hquiet, hidle] at h
    cases h
  · obtain ⟨request, heffects, hview, hqueries⟩ := advance_of_asks phrases hasks
    have hcurrent := GenerationCounter.isCurrent_issue (s.after phrases before).queries
    rw [← hqueries] at hcurrent
    have hafter :
        s.after phrases (before ++ [m]) = ((s.after phrases before).advance phrases m).1 :=
      after_append ..
    rw [after_append, after_cons] at h
    rcases view_after_of_loading hcurrent hview hquiet with
      ⟨hunsettled, hloading⟩ | ⟨_, result, _, _, _, hsettled⟩
    · obtain rfl := QueryView.loading.inj (hloading.symm.trans h)
      exact ⟨before, m, since, request, rfl, hasks, heffects, hafter ▸ hquiet, hunsettled⟩
    · exact absurd (hsettled.symm.trans h) (QueryView.ofResult_ne_loading phrases result generation)

/-- While no schema is asked for, none is numbered. -/
theorem schemaLoads_after (h : ∀ g d, .loadSchema g d ∉ s.emitted phrases moves) :
    (s.after phrases moves).schemaLoads = s.schemaLoads := by
  induction moves generalizing s with
  | nil => rfl
  | cons m moves ih =>
    rw [emitted_cons] at h
    rcases loads_or_keeps phrases s m with ⟨g, hload⟩ | hkeep
    · obtain ⟨notes, hnotes⟩ := hload.emits
      refine absurd ?_ (h g (s.advance phrases m).1.databases.selectedName)
      rw [hnotes]
      exact List.mem_append_left _ (List.mem_append_right _ List.mem_cons_self)
    · rw [after_cons, ih fun g d hmem => h g d (List.mem_append_right _ hmem), hkeep.schemaLoads]

/-- **The schema load that was asked for last is the current one.** -/
theorem IsLastLoad.isCurrent (h : IsLastLoad phrases s moves generation database since) :
    (s.after phrases moves).schemaLoads.isCurrent generation = true := by
  obtain ⟨before, m, notes, rfl, heffects, hsince⟩ := h
  rw [after_append, after_cons, after_nil] at hsince
  rw [after_append, after_cons, schemaLoads_after hsince]
  rcases loads_or_keeps phrases (s.after phrases before) m with ⟨g, hload⟩ | hkeep
  · obtain ⟨notes', hnotes⟩ := hload.emits
    rw [heffects] at hnotes
    obtain ⟨rfl, -⟩ := Effect.loadSchema.inj (List.cons.inj (List.append_inj_right' hnotes rfl)).1
    exact hload.current
  · refine absurd ?_ (hkeep.emits generation database)
    rw [heffects]
    exact List.mem_append_right _ List.mem_cons_self

/-- The current generation of schema loads is that of the last load. -/
theorem exists_isLastLoad (hstart : s.schemaLoads = .start)
    (h : (s.after phrases moves).schemaLoads.isCurrent generation = true) :
    ∃ database since, IsLastLoad phrases s moves generation database since := by
  induction moves using List.reverseRecOn with
  | nil =>
    rw [after_nil, hstart] at h
    cases h
  | append_singleton moves m ih =>
    rw [after_append, after_cons, after_nil] at h
    rcases loads_or_keeps phrases (s.after phrases moves) m with ⟨g, hload⟩ | hkeep
    · obtain ⟨notes, hnotes⟩ := hload.emits
      obtain rfl := GenerationCounter.eq_of_isCurrent hload.current h
      exact ⟨_, [], isLastLoad_of_emits hnotes⟩
    · rw [hkeep.schemaLoads] at h
      obtain ⟨database, since, hlast⟩ := ih h
      exact ⟨database, since ++ [m], hlast.concat hkeep.emits⟩

/-! ## Moves that bring a failure -/

/-- After a run a move brings a failure that counts, with its notification. -/
inductive Fails (phrases : Phrases) (s : Console) (moves : List Move) :
    Move → Notification → Prop where
  | list (e : CallError) :
      Fails phrases s moves (.act (.databasesLoaded (.error e)))
        ⟨.databaseList, phrases.databasesFailed, some e.message⟩
  | schema {generation : Nat} {database : Option String} {since : List Move}
      (last : IsLastLoad phrases s moves generation database since) (e : CallError) :
      Fails phrases s moves (.act (.schemaLoaded generation (.error e)))
        ⟨.schemaLoad, phrases.schemaFailed, some e.message⟩
  | rejected {generation : Nat} (awaited : AwaitsAnswer phrases s moves generation)
      (message : String) :
      Fails phrases s moves (.act (.querySettled generation (.ok (.failure message))))
        ⟨.queryRejected, message, none⟩
  | unanswered {generation : Nat} (awaited : AwaitsAnswer phrases s moves generation)
      (e : CallError) :
      Fails phrases s moves (.act (.querySettled generation (.error e)))
        ⟨.queryTransport, phrases.connectionFailed, some e.message⟩

/-- **A failure is notified and shown where its kind says**, and changes nothing else. -/
theorem Fails.advance_eq (h : Fails phrases s moves m n) :
    (s.after phrases moves).advance phrases m = (s.after phrases moves).surfaced n := by
  cases h with
  | list e => rfl
  | schema last e =>
    rw [advance, reduce, if_pos last.isCurrent]
    rfl
  | rejected awaited message =>
    rw [advance, reduce, if_pos ⟨awaited.view_eq.2, awaited.view_eq.1⟩]
    rfl
  | unanswered awaited e =>
    rw [advance, reduce, if_pos ⟨awaited.view_eq.2, awaited.view_eq.1⟩]
    rfl

/-- An awaited result that gives rise to a notification is a failure that counts. -/
theorem fails_of_ofResult? (hawaited : AwaitsAnswer phrases s moves generation)
    {result : Except CallError QueryOutcome} (h : Notification.ofResult? phrases result = some n) :
    Fails phrases s moves (.act (.querySettled generation result)) n := by
  rcases result with e | answer | message
  · obtain rfl := Option.some.inj h
    exact .unanswered hawaited e
  · cases h
  · obtain rfl := Option.some.inj h
    exact .rejected hawaited message

/-- **Nothing but a failure that counts is notified.** -/
theorem fails_of_notify_mem (hidle : s.view = .idle) (hstart : s.schemaLoads = .start)
    (h : .notify n ∈ ((s.after phrases moves).advance phrases m).2) :
    Fails phrases s moves m n := by
  cases m with
  | edit input => cases h
  | act action =>
    have ht := reduce_transition phrases (s.after phrases moves) action
    rw [advance] at h
    generalize (s.after phrases moves).reduce phrases action = out at ht h
    obtain ⟨t, effects⟩ := out
    cases ht with
    | unlisted e =>
      obtain rfl : n = _ := by simpa using h
      exact .list e
    | schemaFailed current e =>
      obtain rfl : n = _ := by simpa using h
      obtain ⟨database, since, hlast⟩ := exists_isLastLoad hstart current
      exact .schema hlast e
    | settled current awaited result =>
      obtain ⟨n', hn', hnotify⟩ := List.mem_map.mp h
      obtain rfl := Effect.notify.inj hnotify
      exact fails_of_ofResult? (awaitsAnswer_of_view_eq hidle awaited) (Option.mem_toList.mp hn')
    | _ => simp at h

/-- A failure of a question is brought only while it is waited for. -/
theorem Fails.exists_awaitsAnswer (h : Fails phrases s moves m n)
    (hsurface : n.surface = .queryErrorView) :
    ∃ generation, AwaitsAnswer phrases s moves generation := by
  cases h with
  | list e => cases hsurface
  | schema last e => cases hsurface
  | rejected awaited message => exact ⟨_, awaited⟩
  | unanswered awaited e => exact ⟨_, awaited⟩

/-- The last notification of a failed question in a run, after which nothing was asked. -/
def FailedLast (phrases : Phrases) (s : Console) (moves : List Move) (n : Notification) : Prop :=
  ∃ before m since, moves = before ++ m :: since ∧
    Fails phrases s before m n ∧
    n.surface = .queryErrorView ∧
    (∀ n', .notify n' ∈ (s.after phrases (before ++ [m])).emitted phrases since →
      n'.surface ≠ .queryErrorView) ∧
    (s.after phrases (before ++ [m])).Quiet phrases since

/-- A move that asks nothing and brings no failure of a question leaves the last one what it was. -/
theorem FailedLast.concat (h : FailedLast phrases s moves n)
    (hnotifies : ∀ n', .notify n' ∈ ((s.after phrases moves).advance phrases m).2 →
      n'.surface ≠ .queryErrorView)
    (hasks : ¬(s.after phrases moves).Asks m) : FailedLast phrases s (moves ++ [m]) n := by
  obtain ⟨before, m', since, rfl, hfails, hsurface, hsince, hquiet⟩ := h
  have hafter : (s.after phrases (before ++ [m'])).after phrases since =
      s.after phrases (before ++ m' :: since) := by
    rw [← after_append, List.append_assoc, List.singleton_append]
  refine ⟨before, m', since ++ [m], by rw [List.append_assoc, List.cons_append], hfails, hsurface,
    fun n' hn' => ?_, quiet_append.mpr ⟨hquiet, ?_⟩⟩
  · rw [emitted_append, hafter, emitted_cons, emitted_nil, List.append_nil, List.mem_append] at hn'
    exact hn'.elim (hsince n') (hnotifies n')
  · rw [hafter]
    exact ⟨hasks, trivial⟩

/-- **A view with an error shows the last failure of a question**, and nothing was asked since. -/
theorem exists_failedLast_of_view_eq {message : String} (hidle : s.view = .idle)
    (hstart : s.schemaLoads = .start) (h : (s.after phrases moves).view = .error message) :
    ∃ n, FailedLast phrases s moves n ∧ n.message = message := by
  induction moves using List.reverseRecOn with
  | nil =>
    rw [after_nil, hidle] at h
    cases h
  | append_singleton moves m ih =>
    rw [after_append, after_cons, after_nil] at h
    have hasks : ¬(s.after phrases moves).Asks m := fun hasks => by
      obtain ⟨_, -, hview, -⟩ := advance_of_asks phrases hasks
      rw [hview] at h
      cases h
    obtain ⟨-, hsame | ⟨generation, result, rfl, hloading⟩⟩ := advance_of_not_asks phrases hasks
    · -- the error stood before, so no question is waited for that could fail
      rw [hsame] at h
      obtain ⟨n, hlast, hmessage⟩ := ih h
      refine ⟨n, hlast.concat (fun n' hn' hsurface => ?_) hasks, hmessage⟩
      obtain ⟨generation, hawaits⟩ :=
        (fails_of_notify_mem hidle hstart hn').exists_awaitsAnswer hsurface
      rw [hawaits.view_eq.1] at h
      cases h
    · have hawaits := awaitsAnswer_of_view_eq hidle hloading
      rw [view_advance_of_settled phrases hawaits.view_eq.2 hloading] at h
      obtain ⟨n, hn, hsurface, hmessage⟩ := QueryView.exists_notification_of_ofResult h
      exact ⟨n, ⟨moves, _, [], rfl, fails_of_ofResult? hawaits hn, hsurface,
        fun _ hmem => absurd hmem List.not_mem_nil, trivial⟩, hmessage⟩

/-- **Every failure is notified exactly once, where its kind says.**  After any run a move notifies
a failure exactly if it brings one that counts.  It has one notification then; it changes the view
only for a question, to the error of the notification, and makes the panel fail only for a schema;
for the list of databases it leaves the view, lists none and asks for one schema, of no particular
database.  An error in the view is that of the last failure of a question, and nothing was asked
since. -/
theorem failures_notified_once (phrases : Phrases) (database : String) (single : Bool)
    (moves : List Move) (m : Move) :
    (∀ n, .notify n ∈ (((start database single).after phrases moves).advance phrases m).2 ↔
        Fails phrases (start database single) moves m n) ∧
      (∀ n, Fails phrases (start database single) moves m n →
        Effect.notifications (((start database single).after phrases moves).advance phrases m).2 =
            [n] ∧
          ((start database single).after phrases moves).advance phrases m =
            ((start database single).after phrases moves).surfaced n) ∧
      ∀ message, ((start database single).after phrases moves).view = .error message →
        ∃ n, FailedLast phrases (start database single) moves n ∧ n.message = message := by
  refine ⟨fun n => ⟨fails_of_notify_mem rfl rfl, fun h => ?_⟩, fun n h => ?_, fun message h => ?_⟩
  · rw [h.advance_eq, surfaced]
    cases n.surface <;> exact List.mem_cons_self
  · rw [h.advance_eq, notifications_surfaced]
    exact ⟨rfl, rfl⟩
  · exact exists_failedLast_of_view_eq rfl rfl h

/-- A rejected question, after the list of databases failed too, is notified when it settles, and
not when it settles a second time. -/
theorem second_settlement_not_notified :
    let s := start "hr" false
    let moves : List Move := [.act (.databasesLoaded (.error (.transport "refused"))),
      .act (.applySuggestion "all jobs")]
    let rejected : Move := .act (.querySettled 1 (.ok (.failure "no such table")))
    let n : Notification := ⟨.queryRejected, "no such table", none⟩
    Effect.notifications ((s.after .english moves).advance .english rejected).2 = [n] ∧
      (∃ n', FailedLast .english s (moves ++ [rejected]) n' ∧ n'.message = "no such table") ∧
      ∀ n', ¬Fails .english s (moves ++ [rejected]) rejected n' := by
  intro s moves rejected n
  have hasks : (s.after .english (moves.take 1)).Asks (.act (.applySuggestion "all jobs")) :=
    ⟨_, rfl, fun hblank => absurd (hblank 'a' (by decide)) (by decide)⟩
  obtain ⟨request, heffects, -, -⟩ := advance_of_asks .english hasks
  have hawaits : AwaitsAnswer .english s moves 1 :=
    ⟨moves.take 1, _, [], request, rfl, hasks, heffects, trivial, fun _ => List.not_mem_nil⟩
  have hfails : Fails .english s moves rejected n := .rejected hawaits "no such table"
  have hview : (s.after .english (moves ++ [rejected])).view = .error "no such table" := by
    rw [after_append, after_cons, after_nil, hfails.advance_eq]
    rfl
  refine ⟨?_, ?_, fun n' hagain => ?_⟩
  · exact ((failures_notified_once .english "hr" false moves rejected).2.1 n hfails).1
  · exact (failures_notified_once .english "hr" false (moves ++ [rejected]) rejected).2.2 _ hview
  · have hnotified :=
      ((failures_notified_once .english "hr" false (moves ++ [rejected]) rejected).1 n').mpr hagain
    have hidle : (s.after .english (moves ++ [rejected])).view ≠ .loading 1 := by
      rw [hview]
      exact QueryView.noConfusion
    rw [advance, reduce, if_neg fun h => hidle h.2] at hnotified
    exact List.not_mem_nil hnotified

end Console
end QueryConsole
