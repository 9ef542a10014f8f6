/-
# Two flows that do not interfere

One console serves two flows: questions, and the browser of databases and schemas.  They share the
state, the way failures are shown and the list of effects, and moves of both come in any order.

| flow | moves | part of the console |
| --- | --- | --- |
| questions | edits, submissions, suggestions, settled questions | box, view, numbers of questions |
| browser | start, lists, selections, refreshes, schemas, toggles | databases, tree, numbers of loads |

`Same` says that two consoles agree in the part of a flow, and `Flow.own` picks the effects of a flow,
where the database that a question is about does not count.  A move of the other flow leaves the part
alone and has no effect of the flow (`same_of_other`); a move of the flow itself depends on its part
alone (`same_of_own`).  So the moves of the other flow may be left out of a run (`same_of_purged`),
and two runs with the same moves of a flow agree for it (`flows_do_not_interfere`).
-/

import QueryConsole.Proofs.Console.Run

namespace QueryConsole

/-- The flows that a console serves. -/
inductive Flow where
  | questions
  | browser
  deriving DecidableEq

/-- The flow of an action. -/
def Action.flow : Action → Flow
  | submit | applySuggestion _ | querySettled _ _ => .questions
  | startup | databasesLoaded _ | selectDatabase _ | refreshSchema | schemaLoaded _ _
  | toggleTable _ => .browser

/-- Submissions are of the flow of questions. -/
theorem Action.flow_of_submitted {action : Action} {input box : Editor}
    (h : action.submitted? input = some box) : action.flow = .questions := by
  cases action with
  | submit | applySuggestion => rfl
  | _ => cases h

/-- The flow that a failure belongs to. -/
def FailureKind.flow : FailureKind → Flow
  | queryRejected | queryTransport => .questions
  | databaseList | schemaLoad => .browser

namespace Effect

/-- The flow of an effect. -/
def flow : Effect → Flow
  | submitQuery _ _ => .questions
  | fetchDatabases | loadSchema _ _ => .browser
  | notify n => n.kind.flow

/-- The effect without the database that a question is about. -/
def withoutDatabase : Effect → Effect
  | submitQuery generation request => submitQuery generation { request with database := none }
  | e => e

/-- Only questions are about a database. -/
theorem withoutDatabase_of_browser {e : Effect} (h : e.flow = .browser) : e.withoutDatabase = e := by
  cases e with
  | submitQuery => cases h
  | _ => rfl

end Effect

/-- The effects of a flow, in order, but for the databases that questions are about. -/
def Flow.own (flow : Flow) (effects : List Effect) : List Effect :=
  (effects.filter (·.flow = flow)).map Effect.withoutDatabase

theorem Flow.own_append (flow : Flow) (xs ys : List Effect) :
    flow.own (xs ++ ys) = flow.own xs ++ flow.own ys := by
  rw [own, List.filter_append, List.map_append, own, own]

/-- The effects of the browser are not about questions. -/
theorem Flow.own_browser (effects : List Effect) :
    browser.own effects = effects.filter (·.flow = .browser) := by
  refine (List.map_congr_left fun e he => ?_).trans (List.map_id _)
  exact Effect.withoutDatabase_of_browser (of_decide_eq_true (List.mem_filter.1 he).2)

namespace Console

/-- What happens to a console: the box is edited, or an action is reduced. -/
inductive Event where
  | edit (change : Editor → Editor)
  | act (action : Action)

namespace Event

/-- The flow of an event. -/
def flow : Event → Flow
  | edit _ => .questions
  | act action => action.flow

/-- The move that an event is in a console. -/
def move (s : Console) : Event → Move
  | edit change => .edit (change s.input)
  | act action => .act action

end Event

/-- The moves that events are, one after the other. -/
def moves (phrases : Phrases) : Console → List Event → List Move
  | _, [] => []
  | s, e :: events => e.move s :: moves phrases (s.advance phrases (e.move s)).1 events

/-- The console after events. -/
def afterEvents (phrases : Phrases) (s : Console) (events : List Event) : Console :=
  s.after phrases (s.moves phrases events)

/-- The effects of events. -/
def emittedBy (phrases : Phrases) (s : Console) (events : List Event) : List Effect :=
  s.emitted phrases (s.moves phrases events)

/-! ## The parts of the flows -/

/-- Two consoles agree in the part of questions. -/
structure SameQuestions (s t : Console) : Prop where
  input : s.input = t.input
  view : s.view = t.view
  queries : s.queries = t.queries

/-- Two consoles agree in the part of the browser, and in their settings. -/
structure SameBrowser (s t : Console) : Prop where
  databases : s.databases = t.databases
  schema : s.schema = t.schema
  schemaLoads : s.schemaLoads = t.schemaLoads
  defaultDatabase : s.defaultDatabase = t.defaultDatabase
  singleDatabase : s.singleDatabase = t.singleDatabase

/-- Two consoles agree in the part of a flow. -/
def Same : Flow → Console → Console → Prop
  | .questions => SameQuestions
  | .browser => SameBrowser

variable {phrases : Phrases} {flow : Flow} {s t u : Console} {e : Event}

theorem same_refl (flow : Flow) (s : Console) : Same flow s s := by
  cases flow with
  | questions => exact ⟨rfl, rfl, rfl⟩
  | browser => exact ⟨rfl, rfl, rfl, rfl, rfl⟩

theorem Same.symm (h : Same flow s t) : Same flow t s := by
  cases flow with
  | questions => exact ⟨h.input.symm, h.view.symm, h.queries.symm⟩
  | browser =>
    exact ⟨h.databases.symm, h.schema.symm, h.schemaLoads.symm, h.defaultDatabase.symm,
      h.singleDatabase.symm⟩

theorem Same.trans (h : Same flow s t) (h' : Same flow t u) : Same flow s u := by
  cases flow with
  | questions =>
    exact ⟨h.input.trans h'.input, h.view.trans h'.view, h.queries.trans h'.queries⟩
  | browser =>
    exact ⟨h.databases.trans h'.databases, h.schema.trans h'.schema,
      h.schemaLoads.trans h'.schemaLoads, h.defaultDatabase.trans h'.defaultDatabase,
      h.singleDatabase.trans h'.singleDatabase⟩

/-- Consoles that agree for both flows are equal. -/
theorem eq_of_same (hq : Same .questions s t) (hb : Same .browser s t) : s = t := by
  obtain ⟨hinput, hview, hqueries⟩ := hq
  obtain ⟨hdatabases, hschema, hloads, hdefault, hsingle⟩ := hb
  cases s
  cases t
  rw [mk.injEq]
  exact ⟨hinput, hview, hdatabases, hschema, hqueries, hloads, hdefault, hsingle⟩

/-! ## One event -/

/-- **An event of the other flow is not seen:** it leaves the part of the flow alone and has no effect
of the flow. -/
theorem same_of_other (phrases : Phrases) (s : Console) (h : e.flow ≠ flow) :
    Same flow s (s.advance phrases (e.move s)).1 ∧
      flow.own (s.advance phrases (e.move s)).2 = [] := by
  cases e with
  | edit change =>
    cases flow with
    | questions => exact absurd rfl h
    | browser => exact ⟨⟨rfl, rfl, rfl, rfl, rfl⟩, rfl⟩
  | act action =>
    have ht := reduce_transition phrases s action
    rw [Event.move, advance]
    generalize s.reduce phrases action = out at ht ⊢
    obtain ⟨t, effects⟩ := out
    cases flow with
    | questions =>
      -- submissions are of this flow, and every other outcome is of the browser
      cases ht with
      | blank submits | asked submits => exact absurd (Action.flow_of_submitted submits) h
      | staleQuery | settled => exact absurd rfl h
      | _ => exact ⟨⟨rfl, rfl, rfl⟩, rfl⟩
    | browser =>
      cases ht with
      | blank submits isBlank => exact ⟨⟨rfl, rfl, rfl, rfl, rfl⟩, rfl⟩
      | asked submits notBlank => exact ⟨⟨rfl, rfl, rfl, rfl, rfl⟩, rfl⟩
      | staleQuery => exact ⟨⟨rfl, rfl, rfl, rfl, rfl⟩, rfl⟩
      | settled current awaited result =>
        refine ⟨⟨rfl, rfl, rfl, rfl, rfl⟩, ?_⟩
        rcases result with e | answer | message <;> rfl
      | _ => exact absurd rfl h

/-- Submitting depends on the box, the view and the numbers of questions alone, but for the database
that is asked about. -/
theorem same_beginSubmit (h : SameQuestions s t) :
    SameQuestions s.beginSubmit.1 t.beginSubmit.1 ∧
      Flow.questions.own s.beginSubmit.2 = Flow.questions.own t.beginSubmit.2 := by
  by_cases hblank : s.input.IsBlank
  · rw [beginSubmit_of_isBlank hblank, beginSubmit_of_isBlank (h.input ▸ hblank)]
    exact ⟨h, rfl⟩
  · rw [beginSubmit_of_not_isBlank hblank, beginSubmit_of_not_isBlank (h.input ▸ hblank),
      ← h.input, ← h.queries]
    exact ⟨⟨rfl, rfl, rfl⟩, rfl⟩

/-- The result of a question leads to the same view. -/
theorem same_querySettled (h : SameQuestions s t) (result : Except CallError QueryOutcome) :
    SameQuestions (s.querySettled phrases result).1 (t.querySettled phrases result).1 ∧
      Flow.questions.own (s.querySettled phrases result).2 =
        Flow.questions.own (t.querySettled phrases result).2 := by
  rcases result with e | answer | message <;> exact ⟨⟨h.input, rfl, h.queries⟩, rfl⟩

/-- A load that is begun is of the same database, under the same number. -/
theorem same_beginSchemaLoad (h : SameBrowser s t) :
    SameBrowser s.beginSchemaLoad.1 t.beginSchemaLoad.1 ∧
      s.beginSchemaLoad.2 = t.beginSchemaLoad.2 := by
  rw [beginSchemaLoad, beginSchemaLoad, ← h.databases, ← h.schemaLoads]
  exact ⟨⟨rfl, rfl, rfl, h.defaultDatabase, h.singleDatabase⟩, rfl⟩

/-- **An event depends on the part of its own flow alone:** consoles that agree in it agree afterwards,
with the same effects of the flow. -/
theorem same_of_own (phrases : Phrases) (h : Same flow s t) (he : e.flow = flow) :
    Same flow (s.advance phrases (e.move s)).1 (t.advance phrases (e.move t)).1 ∧
      flow.own (s.advance phrases (e.move s)).2 = flow.own (t.advance phrases (e.move t)).2 := by
  subst he
  cases e with
  | edit change => exact ⟨⟨congrArg change h.input, h.view, h.queries⟩, rfl⟩
  | act action =>
    simp only [Event.move, advance, Event.flow]
    cases action with
    | submit => exact same_beginSubmit h
    | applySuggestion text =>
      exact same_beginSubmit (s := { s with input := .ofText text })
        (t := { t with input := .ofText text }) ⟨rfl, h.view, h.queries⟩
    | querySettled generation result =>
      have hawaited : (s.queries.isCurrent generation = true ∧ s.view = .loading generation) ↔
          t.queries.isCurrent generation = true ∧ t.view = .loading generation := by
        rw [h.queries, h.view]
      simp only [reduce, hawaited]
      split
      · exact same_querySettled h result
      · exact ⟨h, rfl⟩
    | startup => exact ⟨⟨h.databases, rfl, h.schemaLoads, h.defaultDatabase, h.singleDatabase⟩, rfl⟩
    | databasesLoaded result =>
      cases result with
      | ok names =>
        have hload := same_beginSchemaLoad (s := { s with databases := .populate names s.defaultDatabase })
          (t := { t with databases := .populate names t.defaultDatabase })
          ⟨by rw [h.defaultDatabase], h.schema, h.schemaLoads, h.defaultDatabase, h.singleDatabase⟩
        exact ⟨hload.1, congrArg Flow.browser.own hload.2⟩
      | error e =>
        have hload := same_beginSchemaLoad (s := { s with databases := .empty })
          (t := { t with databases := .empty })
          ⟨rfl, h.schema, h.schemaLoads, h.defaultDatabase, h.singleDatabase⟩
        exact ⟨hload.1, congrArg (fun effects => Flow.browser.own (_ :: effects)) hload.2⟩
    | selectDatabase index =>
      simp only [reduce, ← h.databases]
      split
      · rename_i databases _
        have hload := same_beginSchemaLoad (s := { s with databases }) (t := { t with databases })
          ⟨rfl, h.schema, h.schemaLoads, h.defaultDatabase, h.singleDatabase⟩
        exact ⟨hload.1, congrArg Flow.browser.own hload.2⟩
      · exact ⟨h, rfl⟩
    | refreshSchema =>
      have hload := same_beginSchemaLoad h
      exact ⟨hload.1, congrArg Flow.browser.own hload.2⟩
    | schemaLoaded generation result =>
      simp only [reduce, ← h.schemaLoads]
      split
      · cases result <;>
          exact ⟨⟨h.databases, rfl, h.schemaLoads, h.defaultDatabase, h.singleDatabase⟩, rfl⟩
      · exact ⟨h, rfl⟩
    | toggleTable index =>
      exact ⟨⟨h.databases, congrArg (SchemaTree.toggle index) h.schema, h.schemaLoads,
        h.defaultDatabase, h.singleDatabase⟩, rfl⟩

/-! ## Runs -/

theorem afterEvents_cons (events : List Event) :
    s.afterEvents phrases (e :: events) =
      (s.advance phrases (e.move s)).1.afterEvents phrases events := rfl

theorem emittedBy_cons (events : List Event) :
    s.emittedBy phrases (e :: events) = (s.advance phrases (e.move s)).2 ++
      (s.advance phrases (e.move s)).1.emittedBy phrases events := rfl

/-- **The events of the other flow may be left out of a run:** what is left leads to the same part of
the flow, with the same effects of the flow. -/
theorem same_of_purged (phrases : Phrases) (h : Same flow s t) (events : List Event) :
    Same flow (s.afterEvents phrases events)
        (t.afterEvents phrases (events.filter (·.flow = flow))) ∧
      flow.own (s.emittedBy phrases events) =
        flow.own (t.emittedBy phrases (events.filter (·.flow = flow))) := by
  induction events generalizing s t with
  | nil => exact ⟨h, rfl⟩
  | cons e events ih =>
    rw [List.filter_cons]
    by_cases he : e.flow = flow
    · obtain ⟨hstate, heffects⟩ := same_of_own phrases h he
      obtain ⟨hafter, hemitted⟩ := ih hstate
      rw [if_pos (decide_eq_true he), afterEvents_cons, afterEvents_cons, emittedBy_cons,
        emittedBy_cons, Flow.own_append, Flow.own_append, heffects, hemitted]
      exact ⟨hafter, rfl⟩
    · obtain ⟨hstate, hnone⟩ := same_of_other phrases s he
      obtain ⟨hafter, hemitted⟩ := ih (hstate.symm.trans h)
      rw [if_neg (by simpa using he), afterEvents_cons, emittedBy_cons, Flow.own_append, hnone,
        hemitted]
      exact ⟨hafter, rfl⟩

/-- Two runs with the same events of a flow agree for the flow. -/
theorem same_of_filter_eq (phrases : Phrases) (s : Console) {xs ys : List Event}
    (h : xs.filter (·.flow = flow) = ys.filter (·.flow = flow)) :
    Same flow (s.afterEvents phrases xs) (s.afterEvents phrases ys) ∧
      flow.own (s.emittedBy phrases xs) = flow.own (s.emittedBy phrases ys) := by
  obtain ⟨hx, hxs⟩ := same_of_purged phrases (same_refl flow s) xs
  obtain ⟨hy, hys⟩ := same_of_purged phrases (same_refl flow s) ys
  rw [h] at hx hxs
  exact ⟨hx.trans hy.symm, hxs.trans hys.symm⟩

/-- **The two flows do not interfere.**  Two runs from one console with the same events of questions
lead to the same box, view and numbers of questions, and ask the same questions under the same numbers,
with the same notifications of them.  Two runs with the same events of the browser lead to the same
databases, tree and numbers of loads, with the same effects of the browser.  Where both hold the runs
lead to the same console, so that only the databases that questions are about may differ. -/
theorem flows_do_not_interfere (phrases : Phrases) (s : Console) (xs ys : List Event) :
    (xs.filter (·.flow = .questions) = ys.filter (·.flow = .questions) →
      (s.afterEvents phrases xs).input = (s.afterEvents phrases ys).input ∧
      (s.afterEvents phrases xs).view = (s.afterEvents phrases ys).view ∧
      (s.afterEvents phrases xs).queries = (s.afterEvents phrases ys).queries ∧
      ((s.emittedBy phrases xs).filter (·.flow = .questions)).map Effect.withoutDatabase =
        ((s.emittedBy phrases ys).filter (·.flow = .questions)).map Effect.withoutDatabase) ∧
    (xs.filter (·.flow = .browser) = ys.filter (·.flow = .browser) →
      (s.afterEvents phrases xs).databases = (s.afterEvents phrases ys).databases ∧
      (s.afterEvents phrases xs).schema = (s.afterEvents phrases ys).schema ∧
      (s.afterEvents phrases xs).schemaLoads = (s.afterEvents phrases ys).schemaLoads ∧
      (s.emittedBy phrases xs).filter (·.flow = .browser) =
        (s.emittedBy phrases ys).filter (·.flow = .browser)) ∧
    (xs.filter (·.flow = .questions) = ys.filter (·.flow = .questions) →
      xs.filter (·.flow = .browser) = ys.filter (·.flow = .browser) →
      s.afterEvents phrases xs = s.afterEvents phrases ys) := by
  refine ⟨fun h => ?_, fun h => ?_, fun hq hb => ?_⟩
  · obtain ⟨hsame, hown⟩ := same_of_filter_eq phrases s h
    exact ⟨hsame.input, hsame.view, hsame.queries, hown⟩
  · obtain ⟨hsame, hown⟩ := same_of_filter_eq phrases s h
    rw [Flow.own_browser, Flow.own_browser] at hown
    exact ⟨hsame.databases, hsame.schema, hsame.schemaLoads, hown⟩
  · exact eq_of_same (same_of_filter_eq phrases s hq).1 (same_of_filter_eq phrases s hb).1

/-- A question before and after the list of databases arrives: both runs lead to the same console and
ask the same question, the one about no database and the other about the preferred one. -/
theorem question_around_list :
    let typed := Event.edit fun e => e.insert 'q'
    let listed := Event.act (.databasesLoaded (.ok ["sales", "hr"]))
    let early := [typed, .act .submit, .act .startup, listed]
    let late := [.act .startup, typed, listed, .act .submit]
    (start "hr" false).afterEvents .english early = (start "hr" false).afterEvents .english late ∧
      (start "hr" false).emittedBy .english early =
        [.submitQuery 1 ⟨"q", none⟩, .fetchDatabases, .loadSchema 1 (some "hr")] ∧
      (start "hr" false).emittedBy .english late =
        [.fetchDatabases, .loadSchema 1 (some "hr"), .submitQuery 1 ⟨"q", some "hr"⟩] := by
  intro typed listed early late
  exact ⟨(flows_do_not_interfere .english (start "hr" false) early late).2.2 rfl rfl,
    by decide, by decide⟩

end Console
end QueryConsole
