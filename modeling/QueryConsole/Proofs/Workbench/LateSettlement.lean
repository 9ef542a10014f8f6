/-
# Late settlements are not seen

A call that was superseded may settle all the same, and a call may settle twice.  Such a settlement is
late: its generation is not the one issued last, or it has settled before.  `late_settlements_not_seen`
says that late settlements may be put into a run wherever one likes: every step of the run leads to the
same workbench, with the same effects and the same file, as without them.  Whatever becomes of the calls
that are superseded, their settlements are late whenever they come.

A late settlement leaves the console alone, and the rest of the workbench too: that the selected tree
line is in range already (`SelectionsValid`) is what makes the dispatch do nothing.  A generation that
has settled is never waited for again (`Console.Passed`), since a new question has a new generation.
-/

import Mathlib.Data.List.Induction
import QueryConsole.Proofs.Console.Issued
import QueryConsole.Proofs.Workbench.ConsoleRun
import QueryConsole.Proofs.Workbench.Selection

namespace QueryConsole

variable {phrases : Phrases}

namespace Console

variable {s : Console} {generation : Nat}

/-- A schema of a generation that is not current changes nothing. -/
theorem reduce_schemaLoaded_of_not_isCurrent (h : s.schemaLoads.isCurrent generation = false)
    (result : Except CallError Schema) :
    s.reduce phrases (.schemaLoaded generation result) = (s, []) := by
  simp only [reduce, h, Bool.false_eq_true, if_false]

/-- Whether the settlement of a generation would be the answer that the view waits for. -/
def Awaits (s : Console) (generation : Nat) : Prop :=
  s.queries.isCurrent generation = true ∧ s.view = .loading generation

/-- The result of a question that is not awaited changes nothing. -/
theorem reduce_querySettled_of_not_awaits (h : ¬s.Awaits generation)
    (result : Except CallError QueryOutcome) :
    s.reduce phrases (.querySettled generation result) = (s, []) := by
  simp only [reduce]
  exact if_neg h

/-- A generation that is not to be issued any more, and that is not awaited. -/
structure Passed (s : Console) (generation : Nat) : Prop where
  le_latest : generation ≤ s.queries.latest
  not_awaits : ¬s.Awaits generation

/-- A generation that has passed is never awaited again: a question that is asked has a new one. -/
theorem Passed.advance (h : s.Passed generation) (m : Move) :
    (s.advance phrases m).1.Passed generation := by
  cases m with
  | edit input => exact ⟨h.le_latest, h.not_awaits⟩
  | act action =>
    have ht := reduce_transition phrases s action
    rw [Console.advance]
    generalize s.reduce phrases action = out at ht ⊢
    obtain ⟨t, effects⟩ := out
    cases ht with
    | asked =>
      have hlt : generation < s.queries.issue.latest := Nat.lt_succ_of_le h.le_latest
      refine ⟨hlt.le, fun ha => ?_⟩
      exact Bool.noConfusion (ha.1.symm.trans (GenerationCounter.isCurrent_of_lt hlt))
    | settled _ _ result =>
      exact ⟨h.le_latest, fun ha => QueryView.ofResult_ne_loading phrases result generation ha.2⟩
    | _ => exact ⟨h.le_latest, h.not_awaits⟩

/-- A generation has passed once its settlement is reduced, whatever that does. -/
theorem passed_advance_querySettled (h : generation ≤ s.queries.latest)
    (result : Except CallError QueryOutcome) :
    (s.advance phrases (.act (.querySettled generation result))).1.Passed generation := by
  by_cases ha : s.Awaits generation
  · have ht := reduce_transition phrases s (.querySettled generation result)
    rw [Console.advance]
    generalize s.reduce phrases (.querySettled generation result) = out at ht ⊢
    obtain ⟨t, effects⟩ := out
    cases ht with
    | blank hs => cases hs
    | asked hs => cases hs
    | staleQuery stale => exact absurd ha stale
    | settled => exact ⟨h, fun ha => QueryView.ofResult_ne_loading phrases result generation ha.2⟩
  · rw [Console.advance, reduce_querySettled_of_not_awaits ha]
    exact ⟨h, ha⟩

end Console

namespace Workbench

variable {b : Workbench}

/-! ## Late settlements -/

/-- Whether a generation has settled in a run: a settlement of it was dispatched after the generation
was issued. -/
def HasSettled (phrases : Phrases) (b : Workbench) (moves : List Move) (generation : Nat) : Prop :=
  ∃ before result since, moves = before ++ .act (.querySettled generation result) :: since ∧
    generation ≤ (b.after phrases before).console.queries.latest

/-- The settlements that are late after a run: those of a generation that is not the one issued last,
and of a question that has settled. -/
inductive IsLate (phrases : Phrases) (b : Workbench) (moves : List Move) : Action → Prop where
  | schema {generation : Nat}
      (superseded : (b.after phrases moves).console.schemaLoads.isCurrent generation = false)
      (result : Except CallError Schema) : IsLate phrases b moves (.schemaLoaded generation result)
  | query {generation : Nat}
      (superseded : (b.after phrases moves).console.queries.isCurrent generation = false)
      (result : Except CallError QueryOutcome) :
      IsLate phrases b moves (.querySettled generation result)
  | repeated {generation : Nat} (settled : HasSettled phrases b moves generation)
      (result : Except CallError QueryOutcome) :
      IsLate phrases b moves (.querySettled generation result)

/-- A generation that has settled has passed for the rest of the run. -/
theorem HasSettled.passed {moves : List Move} {generation : Nat}
    (h : HasSettled phrases b moves generation) :
    (b.after phrases moves).console.Passed generation := by
  obtain ⟨before, result, since, rfl, hle⟩ := h
  rw [after_append, after_cons]
  refine console_after_induction (P := fun s => s.Passed generation) ?_ (fun s m hs => hs.advance m)
    since
  · have hconsole : ((b.after phrases before).advance phrases
        (.act (.querySettled generation result))).bench.console =
          ((b.after phrases before).console.advance phrases
            (.act (.querySettled generation result))).1 := console_settle _ _
    rw [hconsole]
    exact Console.passed_advance_querySettled hle result

/-- The console reduces a late settlement to nothing. -/
theorem IsLate.reduce_eq {moves : List Move} {action : Action} (h : IsLate phrases b moves action) :
    (b.after phrases moves).console.reduce phrases action =
      ((b.after phrases moves).console, []) := by
  cases h with
  | schema superseded result => exact Console.reduce_schemaLoaded_of_not_isCurrent superseded result
  | query superseded result =>
    refine Console.reduce_querySettled_of_not_awaits (fun ha => ?_) result
    exact Bool.noConfusion (ha.1.symm.trans superseded)
  | repeated settled result =>
    exact Console.reduce_querySettled_of_not_awaits settled.passed.not_awaits result

/-- A console that did not change leaves the workbench as it is, if the tree line is in range. -/
theorem settle_self (h : b.treeLine ≤ b.console.schema.lines.length - 1) :
    b.settle b.console = b := by
  rw [settle_console, Nat.min_eq_left h]

/-- **A late settlement does nothing** to a workbench whose selections are in range. -/
theorem IsLate.dispatch_eq {moves : List Move} {action : Action} (h : IsLate phrases b moves action)
    (hvalid : (b.after phrases moves).SelectionsValid) :
    (b.after phrases moves).dispatch phrases action = (b.after phrases moves).stay := by
  rw [dispatch, h.reduce_eq]
  exact congrArg (fun c => (⟨c, [], none⟩ : Step)) (settle_self hvalid.treeLine)

/-! ## Superseded calls -/

/-- The calls that a run asks for, in order. -/
def tasks (phrases : Phrases) (b : Workbench) (moves : List Move) : List Task :=
  Effect.tasks ((steps phrases b moves).flatMap Step.effects)

/-- The calls of a run of the workbench are numbered as those of its console are. -/
theorem numbers_steps (kind : CallKind) (moves : List Move) :
    Console.Numbers kind b.console (b.after phrases moves).console
      ((steps phrases b moves).flatMap Step.effects) := by
  induction moves generalizing b with
  | nil => exact Console.numbers_of_latest_eq rfl rfl
  | cons m moves ih =>
    obtain ⟨taken, hconsole, heffects⟩ := @exists_takes_advance phrases b m
    have hstep : Console.Numbers kind b.console (b.advance phrases m).bench.console
        (b.advance phrases m).effects := by
      rw [hconsole, heffects]
      exact Console.numbers_emitted phrases kind b.console taken.toList
    rw [steps, List.flatMap_cons, after_cons]
    exact hstep.append ih

/-- **A settlement of a superseded call is late**, from when the later call is asked for. -/
theorem isLate_of_superseded {moves : List Move} {before since : List Task} {task later : Task}
    (htasks : b.tasks phrases moves = before ++ task :: since) (hlater : later ∈ since)
    (h : later.isSupersededBy task = true) {settlement : Settlement} {action : Action}
    (haction : settlement.action? task = some action) : IsLate phrases b moves action := by
  obtain ⟨kind, n, m, hn, hm⟩ := Task.exists_number_of_isSupersededBy h
  have hlt := (numbers_steps kind moves).lt_latest_of_superseded htasks hlater hn hm
  cases settlement with
  | databases result => cases task <;> cases haction; cases kind <;> cases hn
  | schema result =>
    cases task <;> cases haction
    cases kind <;> cases hn
    exact .schema (GenerationCounter.isCurrent_of_lt hlt) result
  | query result =>
    cases task <;> cases haction
    cases kind <;> cases hn
    exact .query (GenerationCounter.isCurrent_of_lt hlt) result

/-! ## Runs with late settlements put in -/

/-- An entry of a run into which settlements are put: a move of the run, or such a settlement. -/
inductive Entry where
  | own (m : Move)
  | inserted (action : Action)

namespace Entry

/-- The move that an entry is. -/
def move : Entry → Move
  | own m => m
  | inserted action => .act action

/-- The move of the run that an entry is, if it is one. -/
def own? : Entry → Option Move
  | own m => some m
  | inserted _ => none

end Entry

/-- The steps of the run's own moves among all entries. -/
def ownSteps (phrases : Phrases) : Workbench → List Entry → List Step
  | _, [] => []
  | b, .own m :: entries => b.advance phrases m :: ownSteps phrases (b.advance phrases m).bench entries
  | b, .inserted action :: entries => ownSteps phrases (b.dispatch phrases action).bench entries

/-- Whether every settlement that is put in is late where it stands. -/
def InsertsLate (phrases : Phrases) (b : Workbench) (entries : List Entry) : Prop :=
  ∀ before action since, entries = before ++ .inserted action :: since →
    IsLate phrases b (before.map Entry.move) action

/-- The last entry, if it is put in, has to be late after all the others. -/
theorem insertsLate_concat {entries : List Entry} {x : Entry} :
    InsertsLate phrases b (entries ++ [x]) ↔
      InsertsLate phrases b entries ∧
        ∀ action, x = .inserted action → IsLate phrases b (entries.map Entry.move) action := by
  constructor
  · refine fun h => ⟨?_, fun action hx => h entries action [] (by rw [hx])⟩
    rintro before action since rfl
    exact h before action (since ++ [x]) (by rw [List.append_assoc, List.cons_append])
  · rintro ⟨h, hx⟩ before action since hentries
    rcases since.eq_nil_or_concat with rfl | ⟨since, last, rfl⟩
    · obtain ⟨rfl, hlast⟩ := List.append_inj' hentries rfl
      exact hx action (List.singleton_inj.1 hlast)
    · rw [List.concat_eq_append, ← List.cons_append, ← List.append_assoc] at hentries
      exact h before action since (List.append_inj' hentries rfl).1

theorem ownSteps_append (xs ys : List Entry) :
    ownSteps phrases b (xs ++ ys) =
      ownSteps phrases b xs ++ ownSteps phrases (b.after phrases (xs.map Entry.move)) ys := by
  induction xs generalizing b with
  | nil => rfl
  | cons x xs ih =>
    cases x with
    | own m => rw [List.cons_append, ownSteps, ih, ownSteps, List.cons_append]; rfl
    | inserted action => rw [List.cons_append, ownSteps, ih, ownSteps]; rfl

/-- Late settlements that are put in change neither the steps of the run nor what it leads to. -/
theorem ownSteps_eq_steps (hvalid : ∀ moves, (b.after phrases moves).SelectionsValid)
    {entries : List Entry} (h : InsertsLate phrases b entries) :
    ownSteps phrases b entries = steps phrases b (entries.filterMap Entry.own?) ∧
      b.after phrases (entries.map Entry.move) = b.after phrases (entries.filterMap Entry.own?) := by
  induction entries using List.reverseRecOn with
  | nil => exact ⟨rfl, rfl⟩
  | append_singleton entries x ih =>
    obtain ⟨hbefore, hlast⟩ := insertsLate_concat.1 h
    obtain ⟨hsteps, hafter⟩ := ih hbefore
    rw [ownSteps_append, List.map_append, after_append, List.filterMap_append, steps_append,
      after_append, hsteps, ← hafter]
    cases x with
    | own m => exact ⟨rfl, rfl⟩
    | inserted action =>
      exact ⟨rfl, congrArg Step.bench ((hlast action rfl).dispatch_eq (hvalid _))⟩

/-- **Late settlements are not seen.**  In every run from the start into which late settlements are
put, each of them leaves the workbench as it is and has no effect; each move of the run itself leads to
the same workbench, with the same effects and the same file, as in the run without them; and so does
the run as a whole.  Among the late settlements are those of all superseded calls. -/
theorem late_settlements_not_seen (phrases : Phrases) (database : String) (single : Bool)
    (suggestions : List String) (endpoint : String) :
    (∀ entries, InsertsLate phrases (start database single suggestions endpoint) entries →
      (∀ before action since, entries = before ++ .inserted action :: since →
        dispatch phrases
            ((start database single suggestions endpoint).after phrases (before.map Entry.move))
            action =
          stay ((start database single suggestions endpoint).after phrases
            (before.map Entry.move))) ∧
      ownSteps phrases (start database single suggestions endpoint) entries =
        steps phrases (start database single suggestions endpoint)
          (entries.filterMap Entry.own?) ∧
      (start database single suggestions endpoint).after phrases (entries.map Entry.move) =
        (start database single suggestions endpoint).after phrases
          (entries.filterMap Entry.own?)) ∧
    ∀ (moves : List Move) (before since : List Task) (task later : Task) (settlement : Settlement)
      (action : Action),
      tasks phrases (start database single suggestions endpoint) moves = before ++ task :: since →
      later ∈ since → later.isSupersededBy task = true → settlement.action? task = some action →
      IsLate phrases (start database single suggestions endpoint) moves action := by
  have hvalid := selectionsValid_after phrases database single suggestions endpoint
  refine ⟨fun entries h => ⟨fun before action since hentries => ?_, ownSteps_eq_steps hvalid h⟩, ?_⟩
  · exact (h before action since hentries).dispatch_eq (hvalid _)
  · intro moves before since task later settlement action htasks hlater hsuperseded haction
    exact isLate_of_superseded htasks hlater hsuperseded haction

/-- Two questions, with the settlement of the first put in after the second was asked, and that of the
second put in again after it has settled: the first answer to the second question stays. -/
theorem second_answer_stays :
    ∃ entries, entries = [.own (.act (.applySuggestion "first")),
        .own (.act (.applySuggestion "second")),
        .inserted (.querySettled 1 (.ok (.failure "late"))),
        .own (.act (.querySettled 2 (.ok (.failure "answered")))),
        .inserted (.querySettled 2 (.ok (.failure "again")))] ∧
      InsertsLate .english (start "sales" false [] "http://localhost") entries ∧
      (start "sales" false [] "http://localhost").after .english (entries.map Entry.move) =
        (start "sales" false [] "http://localhost").after .english
          [.act (.applySuggestion "first"), .act (.applySuggestion "second"),
            .act (.querySettled 2 (.ok (.failure "answered")))] ∧
      ((start "sales" false [] "http://localhost").after .english
        (entries.map Entry.move)).console.view = .error "answered" := by
  have hlate : InsertsLate .english (start "sales" false [] "http://localhost")
      [.own (.act (.applySuggestion "first")), .own (.act (.applySuggestion "second")),
        .inserted (.querySettled 1 (.ok (.failure "late"))),
        .own (.act (.querySettled 2 (.ok (.failure "answered")))),
        .inserted (.querySettled 2 (.ok (.failure "again")))] := by
    intro before action since h
    match before with
    | [_, _] =>
      cases h
      exact .query rfl _
    | [_, _, _, _] =>
      cases h
      refine .repeated ⟨[.act (.applySuggestion "first"), .act (.applySuggestion "second"),
        .act (.querySettled 1 (.ok (.failure "late")))], .ok (.failure "answered"), [], rfl, ?_⟩ _
      decide
    | [] | [_] | [_, _, _] | _ :: _ :: _ :: _ :: _ :: _ => simp at h
  have hseen := (late_settlements_not_seen .english "sales" false [] "http://localhost").1
  have hsame := (hseen _ hlate).2.2
  exact ⟨_, rfl, hlate, hsame, by rw [hsame]; rfl⟩

end Workbench
end QueryConsole
