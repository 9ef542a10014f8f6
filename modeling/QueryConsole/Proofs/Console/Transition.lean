/-
# What an action can do

`Console.reduce` decides what an action does in nested tests.  `Transition` lists the outcomes with
what decides between them: an action submits a blank box or a question, names a database that is
selected or not, brings a result that is awaited or not.  `reduce_transition` says that every action
has one of these outcomes, so a statement about all actions is proved outcome by outcome.

| action | outcomes |
| --- | --- |
| submission, with or without a suggestion | `blank`, `asked` |
| list of databases | `listed`, `unlisted` |
| selection | `selected`, `unselected` |
| settled schema load | `staleSchema`, `schemaArrived`, `schemaFailed` |
| settled question | `staleQuery`, `settled` |
| start, refresh, toggle | one each |
-/

import Mathlib.Data.List.TakeWhile
import QueryConsole.Console.State

namespace QueryConsole

/-! ## Generations and blank questions -/

/-- Once a number was issued, the current one is the last. -/
theorem GenerationCounter.isCurrent_iff {g : GenerationCounter} {n : Nat} :
    g.isCurrent n = true ↔ g.latest ≠ 0 ∧ n = g.latest := by
  simp [isCurrent]

/-- At most one number is current. -/
theorem GenerationCounter.eq_of_isCurrent {g : GenerationCounter} {m n : Nat}
    (hm : g.isCurrent m = true) (hn : g.isCurrent n = true) : m = n :=
  (isCurrent_iff.1 hm).2.trans (isCurrent_iff.1 hn).2.symm

namespace Text

/-- Trimming leaves nothing exactly where all characters are blank. -/
theorem trim_eq_nil_iff {cs : List Char} : trim cs = [] ↔ ∀ c ∈ cs, isBlank c = true := by
  constructor
  · intro h c hc
    obtain ⟨front, back, hcs, hfront, hback⟩ := exists_trim cs
    rw [h, List.append_nil] at hcs
    rw [hcs, List.mem_append] at hc
    exact hc.elim (hfront c) (hback c)
  · intro h
    have hstart : trimStart cs = [] := by
      exact List.dropWhile_eq_nil_iff.2 h
    rw [trim, hstart]
    rfl

end Text

/-- Whether the box holds no character but blank ones. -/
def Editor.IsBlank (e : Editor) : Prop := ∀ c ∈ e.chars, Text.isBlank c = true

instance (e : Editor) : Decidable e.IsBlank :=
  inferInstanceAs (Decidable (∀ c ∈ e.chars, Text.isBlank c = true))

/-- A blank box asks no question. -/
theorem QueryRequest.ofText?_of_isBlank {e : Editor} (h : e.IsBlank) (database : Option String) :
    ofText? e.text database = none := by
  unfold ofText? Editor.text
  rw [String.toList_ofList]
  exact if_pos (Text.trim_eq_nil_iff.2 h)

/-- Any other box asks what it holds, without the blank characters around it. -/
theorem QueryRequest.ofText?_of_not_isBlank {e : Editor} (h : ¬e.IsBlank)
    (database : Option String) :
    ofText? e.text database = some ⟨String.ofList (Text.trim e.chars), database⟩ := by
  unfold ofText? Editor.text
  rw [String.toList_ofList]
  exact if_neg fun hnil => h (Text.trim_eq_nil_iff.1 hnil)

/-! ## Outcomes -/

/-- The view that the result of a question leads to. -/
def QueryView.ofResult (phrases : Phrases) : Except CallError QueryOutcome → QueryView
  | .ok (.success answer) => .results (.ofSuccess phrases answer)
  | .ok (.failure message) => .error message
  | .error _ => .error phrases.connectionFailed

/-- Such a view waits for nothing. -/
theorem QueryView.ofResult_ne_loading (phrases : Phrases)
    (result : Except CallError QueryOutcome) (generation : Nat) :
    ofResult phrases result ≠ .loading generation := by
  rcases result with e | answer | message <;> exact QueryView.noConfusion

/-- The notification that the result of a question gives rise to. -/
def Notification.ofResult? (phrases : Phrases) :
    Except CallError QueryOutcome → Option Notification
  | .ok (.success _) => none
  | .ok (.failure message) => some ⟨.queryRejected, message, none⟩
  | .error e => some ⟨.queryTransport, phrases.connectionFailed, some e.message⟩

/-- The box that an action submits: as it is, or with a suggestion in it. -/
def Action.submitted? (input : Editor) : Action → Option Editor
  | submit => some input
  | applySuggestion text => some (.ofText text)
  | _ => none

namespace Console

/-- The database that a question is about. -/
def questionDatabase (s : Console) : Option String :=
  if s.singleDatabase then none else s.databases.selectedName

/-- The outcomes of an action: the console that it leads to, and its effects. -/
inductive Transition (phrases : Phrases) (s : Console) : Action → Console → List Effect → Prop where
  | startup : Transition phrases s .startup { s with schema := .loading } [.fetchDatabases]
  | blank {action : Action} {input : Editor} (submits : action.submitted? s.input = some input)
      (isBlank : input.IsBlank) : Transition phrases s action { s with input } []
  | asked {action : Action} {input : Editor} (submits : action.submitted? s.input = some input)
      (notBlank : ¬input.IsBlank) :
      Transition phrases s action
        { s with input, view := .loading s.queries.next, queries := s.queries.issue }
        [.submitQuery s.queries.next
          ⟨String.ofList (Text.trim input.chars), s.questionDatabase⟩]
  | listed (names : List String) :
      Transition phrases s (.databasesLoaded (.ok names))
        { s with
          databases := .populate names s.defaultDatabase
          schema := .loading
          schemaLoads := s.schemaLoads.issue }
        [.loadSchema s.schemaLoads.next
          (DatabaseSelector.populate names s.defaultDatabase).selectedName]
  | unlisted (e : CallError) :
      Transition phrases s (.databasesLoaded (.error e))
        { s with databases := .empty, schema := .loading, schemaLoads := s.schemaLoads.issue }
        [.notify ⟨.databaseList, phrases.databasesFailed, some e.message⟩,
          .loadSchema s.schemaLoads.next none]
  | selected {index : Nat} {databases : DatabaseSelector}
      (changes : s.databases.select? index = some databases) :
      Transition phrases s (.selectDatabase index)
        { s with databases, schema := .loading, schemaLoads := s.schemaLoads.issue }
        [.loadSchema s.schemaLoads.next databases.selectedName]
  | unselected {index : Nat} (stays : s.databases.select? index = none) :
      Transition phrases s (.selectDatabase index) s []
  | refreshed :
      Transition phrases s .refreshSchema
        { s with schema := .loading, schemaLoads := s.schemaLoads.issue }
        [.loadSchema s.schemaLoads.next s.databases.selectedName]
  | staleSchema {generation : Nat} (stale : s.schemaLoads.isCurrent generation = false)
      (result : Except CallError Schema) :
      Transition phrases s (.schemaLoaded generation result) s []
  | schemaArrived {generation : Nat} (current : s.schemaLoads.isCurrent generation = true)
      (schema : Schema) :
      Transition phrases s (.schemaLoaded generation (.ok schema))
        { s with schema := .ofSchema schema } []
  | schemaFailed {generation : Nat} (current : s.schemaLoads.isCurrent generation = true)
      (e : CallError) :
      Transition phrases s (.schemaLoaded generation (.error e)) { s with schema := .failed }
        [.notify ⟨.schemaLoad, phrases.schemaFailed, some e.message⟩]
  | staleQuery {generation : Nat}
      (stale : ¬(s.queries.isCurrent generation = true ∧ s.view = .loading generation))
      (result : Except CallError QueryOutcome) :
      Transition phrases s (.querySettled generation result) s []
  | settled {generation : Nat} (current : s.queries.isCurrent generation = true)
      (awaited : s.view = .loading generation) (result : Except CallError QueryOutcome) :
      Transition phrases s (.querySettled generation result)
        { s with view := .ofResult phrases result }
        ((Notification.ofResult? phrases result).toList.map .notify)
  | toggled (index : Nat) :
      Transition phrases s (.toggleTable index) { s with schema := s.schema.toggle index } []

/-- Submitting a blank box does nothing. -/
theorem beginSubmit_of_isBlank {s : Console} (h : s.input.IsBlank) : s.beginSubmit = (s, []) := by
  simp only [beginSubmit, QueryRequest.ofText?_of_isBlank h]

/-- Submitting any other box asks the question in it. -/
theorem beginSubmit_of_not_isBlank {s : Console} (h : ¬s.input.IsBlank) :
    s.beginSubmit =
      ({ s with view := .loading s.queries.next, queries := s.queries.issue },
        [.submitQuery s.queries.next
          ⟨String.ofList (Text.trim s.input.chars), s.questionDatabase⟩]) := by
  simp only [beginSubmit, QueryRequest.ofText?_of_not_isBlank h]
  rfl

/-- An action that submits puts the box in place and submits it. -/
theorem reduce_of_submitted {phrases : Phrases} {s : Console} {action : Action} {input : Editor}
    (h : action.submitted? s.input = some input) :
    s.reduce phrases action = beginSubmit { s with input } := by
  cases action with
  | submit =>
    obtain rfl := Option.some.inj h
    rfl
  | applySuggestion text =>
    obtain rfl := Option.some.inj h
    rfl
  | _ => cases h

/-- A submission is blank or asks. -/
theorem beginSubmit_transition (phrases : Phrases) (s : Console) {action : Action} {input : Editor}
    (h : action.submitted? s.input = some input) :
    Transition phrases s action (beginSubmit { s with input }).1
      (beginSubmit { s with input }).2 := by
  by_cases hb : input.IsBlank
  · rw [beginSubmit_of_isBlank (s := { s with input }) hb]
    exact .blank h hb
  · rw [beginSubmit_of_not_isBlank (s := { s with input }) hb]
    exact .asked h hb

/-- The result of an awaited question leads to its view. -/
theorem querySettled_transition (phrases : Phrases) {s : Console} {generation : Nat}
    (hc : s.queries.isCurrent generation = true) (ha : s.view = .loading generation)
    (result : Except CallError QueryOutcome) :
    Transition phrases s (.querySettled generation result) (s.querySettled phrases result).1
      (s.querySettled phrases result).2 := by
  rcases result with e | answer | message
  · exact .settled hc ha (.error e)
  · exact .settled hc ha (.ok (.success answer))
  · exact .settled hc ha (.ok (.failure message))

/-- **Every action has one of the outcomes.** -/
theorem reduce_transition (phrases : Phrases) (s : Console) (action : Action) :
    Transition phrases s action (s.reduce phrases action).1 (s.reduce phrases action).2 := by
  cases action with
  | startup => exact .startup
  | submit => exact beginSubmit_transition phrases s rfl
  | applySuggestion text => exact beginSubmit_transition phrases s rfl
  | databasesLoaded result =>
    cases result with
    | ok names => exact .listed names
    | error e => exact .unlisted e
  | selectDatabase index =>
    simp only [reduce]
    cases h : s.databases.select? index with
    | some databases => exact .selected h
    | none => exact .unselected h
  | refreshSchema => exact .refreshed
  | schemaLoaded generation result =>
    simp only [reduce]
    by_cases h : s.schemaLoads.isCurrent generation = true
    · rw [if_pos h]
      cases result with
      | ok schema => exact .schemaArrived h schema
      | error e => exact .schemaFailed h e
    · rw [if_neg h]
      exact .staleSchema (Bool.eq_false_iff.2 h) result
  | querySettled generation result =>
    simp only [reduce]
    by_cases h : s.queries.isCurrent generation = true ∧ s.view = .loading generation
    · rw [if_pos h]
      exact querySettled_transition phrases h.1 h.2 result
    · rw [if_neg h]
      exact .staleQuery h result
  | toggleTable index => exact .toggled index

end Console
end QueryConsole
