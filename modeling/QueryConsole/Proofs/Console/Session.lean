/-
# Nothing is waited for in vain

A session is a console with its calls.  It moves when the box is edited, when the user wishes for
something, when calls start, settle or settle although they were cancelled, and when the oldest
settlement is taken from the queue and reduced.  A view or a tree that waits would wait for ever if
the call that it waits for were cancelled, superseded or refused when it settles.
`no_orphaned_wait` says that this happens in no run.

The invariant has one half for the question (`QuestionCarried`) and one for the schema
(`SchemaCarried`).  Each counts a ticket in hand besides those of the calls, because the settlement
that is being reduced has left the queue already.
-/

import Mathlib.Tactic.Tauto
import QueryConsole.Proofs.Console.Ticket
import QueryConsole.Proofs.Console.Transition
import QueryConsole.Proofs.Console.Tree

namespace QueryConsole

/-- A console with its calls. -/
structure Session where
  console : Console
  calls : Calls

namespace Session

/-- A session that has not started yet. -/
def start (database : String) (single : Bool) : Session := ⟨.start database single, .none⟩

/-- What may happen next in a session. -/
inductive Move where
  | edit (input : Editor)
  | wish (action : Action)
  | begin
  | settle (index : Nat) (settlement : Settlement)
  | settleLate (index : Nat) (settlement : Settlement)
  | drain

/-- The session after an action: the console reduces it, and its effects ask for calls. -/
def dispatch (phrases : Phrases) (s : Session) (action : Action) : Session :=
  ⟨(s.console.reduce phrases action).1, s.calls.run (s.console.reduce phrases action).2⟩

/-- The session after a move, or none where the move is not possible. -/
def move? (phrases : Phrases) (s : Session) : Move → Option Session
  | .edit input => some { s with console := { s.console with input } }
  | .wish action => if action.isWish then some (s.dispatch phrases action) else none
  | .begin => some { s with calls := s.calls.begin }
  | .settle index settlement =>
    (s.calls.settle? index settlement).map fun calls => { s with calls }
  | .settleLate index settlement =>
    (s.calls.settleLate? index settlement).map fun calls => { s with calls }
  | .drain =>
    match s.calls.queue with
    | [] => none
    | action :: queue =>
      some (dispatch phrases { s with calls := { s.calls with queue } } action)

/-- The session after a run of moves, or none where one of them is not possible. -/
def run? (phrases : Phrases) (s : Session) (moves : List Move) : Option Session :=
  moves.foldlM (move? phrases) s

end Session

/-! ## The question -/

/-- A view that waits for a generation waits for the current one, which is carried by one call or
settlement; `hand` is the ticket of the settlement that is being reduced. -/
structure QuestionCarried (s : Console) (c : Calls) (hand : List Ticket) : Prop where
  issued : ∀ g, .query g ∈ c.underWay ∨ .query g ∈ hand ++ c.arrived → g ≤ s.queries.latest
  superseded : ∀ g, .query g ∈ c.cancelled → g < s.queries.latest
  current : ∀ g, s.view = .loading g → s.queries.isCurrent g = true
  carried : ∀ g, s.view = .loading g →
    c.underWay.count (.query g) + (hand ++ c.arrived).count (.query g) = 1

namespace QuestionCarried

variable {s t : Console} {c c' : Calls} {hand : List Ticket}

/-- Only the lists of tickets matter. -/
theorem congr {hand' : List Ticket} (h : QuestionCarried s c hand)
    (hunderWay : c'.underWay = c.underWay) (hcancelled : c'.cancelled = c.cancelled)
    (harrived : hand' ++ c'.arrived = hand ++ c.arrived) : QuestionCarried s c' hand' := by
  obtain ⟨hissued, hsuperseded, hcurrent, hcarried⟩ := h
  rw [← hunderWay, ← harrived] at hissued hcarried
  rw [← hcancelled] at hsuperseded
  exact ⟨hissued, hsuperseded, hcurrent, hcarried⟩

/-- A settlement that is not awaited may be dropped. -/
theorem drop (h : QuestionCarried s c hand) (hqueries : t.queries = s.queries)
    (hview : ∀ g, t.view = .loading g → s.view = .loading g ∧ .query g ∉ hand) :
    QuestionCarried t c [] where
  issued g hg := hqueries ▸ h.issued g (hg.imp_right (List.mem_append_right hand))
  superseded g hg := hqueries ▸ h.superseded g hg
  current g hv := hqueries ▸ h.current g (hview g hv).1
  carried g hv := by
    obtain ⟨hs, hhand⟩ := hview g hv
    have hcarried := h.carried g hs
    rwa [List.count_append, List.count_eq_zero_of_not_mem hhand, Nat.zero_add] at hcarried

/-- Calls of other kinds do not matter, and neither do their settlements. -/
theorem spawn_other (h : QuestionCarried s c hand) (hhand : ∀ g, .query g ∉ hand)
    (hqueries : t.queries = s.queries) (hview : t.view = s.view) {task : Task}
    (htask : ∀ g, task.ticket ≠ .query g) : QuestionCarried t (c.spawn task) [] := by
  have hother : ∀ g, task.ticket.supersedes (.query g) = false := fun g =>
    Bool.eq_false_iff.2 fun hsuper => by
      obtain ⟨later, hlater⟩ := Ticket.eq_query_of_supersedes hsuper
      exact htask later hlater
  have hdrop : QuestionCarried t c [] := h.drop hqueries fun g hv => ⟨hview ▸ hv, hhand g⟩
  refine ⟨fun g hg => hdrop.issued g ?_, fun g hg => hdrop.superseded g ?_, hdrop.current,
    fun g hv => ?_⟩
  · exact hg.imp_left fun hmem => (Calls.mem_underWay_spawn hmem).resolve_right (htask g).symm
  · refine (Calls.mem_cancelled_spawn hg).resolve_right fun hsuper => ?_
    rw [hother g] at hsuper
    exact Bool.noConfusion hsuper.2
  · rw [Calls.count_underWay_spawn, hother g, if_neg (htask g), Calls.arrived_spawn]
    exact hdrop.carried g hv

/-- A new question is carried by its call: all earlier ones are cancelled. -/
theorem spawn_query (h : QuestionCarried s c []) {request : QueryRequest}
    (hqueries : t.queries = s.queries.issue) (hview : t.view = .loading s.queries.next) :
    QuestionCarried t (c.spawn (.query s.queries.next request)) [] := by
  have hlatest : t.queries.latest = s.queries.latest + 1 := congrArg _ hqueries
  have hnew : Ticket.query s.queries.next ∉ c.arrived := fun hmem =>
    Nat.not_succ_le_self _ (h.issued _ (.inr hmem))
  refine ⟨fun g hg => ?_, fun g hg => ?_, fun g hv => ?_, fun g hv => ?_⟩
  · rcases hg with hmem | hmem
    · rcases Calls.mem_underWay_spawn hmem with hold | hself
      · have := h.issued g (.inl hold)
        omega
      · obtain rfl := Ticket.query.inj hself
        exact hlatest.ge
    · have := h.issued g (.inr hmem)
      omega
  · rcases Calls.mem_cancelled_spawn hg with hold | ⟨hold, -⟩
    · have := h.superseded g hold
      omega
    · have := h.issued g (.inl hold)
      omega
  · obtain rfl := QueryView.loading.inj (hview.symm.trans hv)
    rw [hqueries]
    exact GenerationCounter.isCurrent_issue _
  · obtain rfl := QueryView.loading.inj (hview.symm.trans hv)
    rw [Calls.count_underWay_spawn, Calls.arrived_spawn, List.nil_append,
      List.count_eq_zero_of_not_mem hnew]
    simp [Task.ticket, Ticket.supersedes]

/-- A call that settles hands its ticket on. -/
theorem settle (h : QuestionCarried s c []) {index : Nat} {settlement : Settlement}
    (hc : c.settle? index settlement = some c') : QuestionCarried s c' [] := by
  obtain ⟨ticket, hperm, hcancelled, harrived⟩ := Calls.settle?_eq_some hc
  refine ⟨fun g hg => h.issued g ?_, fun g hg => h.superseded g (hcancelled ▸ hg), h.current,
    fun g hv => ?_⟩
  · rw [hperm.mem_iff, List.mem_cons]
    rw [harrived, List.nil_append, List.mem_append, List.mem_singleton] at hg
    rcases hg with hmem | hmem | hself
    · exact .inl (.inr hmem)
    · exact .inr hmem
    · exact .inl (.inl hself)
  · have hcarried := h.carried g hv
    rw [hperm.count_eq, List.count_cons] at hcarried
    rw [harrived, List.nil_append, List.count_append, List.count_singleton]
    rw [List.nil_append] at hcarried
    omega

/-- The settlement of a cancelled call is not the awaited one. -/
theorem settleLate (h : QuestionCarried s c []) {index : Nat} {settlement : Settlement}
    (hc : c.settleLate? index settlement = some c') : QuestionCarried s c' [] := by
  obtain ⟨ticket, hticket, hunderWay, hcancelled, harrived⟩ := Calls.settleLate?_eq_some hc
  refine ⟨fun g hg => ?_, fun g hg => h.superseded g (hcancelled _ hg), h.current, fun g hv => ?_⟩
  · rw [hunderWay, harrived, List.nil_append, List.mem_append, List.mem_singleton] at hg
    rcases hg with hmem | hmem | rfl
    · exact h.issued g (.inl hmem)
    · exact h.issued g (.inr hmem)
    · exact (h.superseded g hticket).le
  · have hne : ticket ≠ .query g := by
      rintro rfl
      have hlt := h.superseded g hticket
      have hcurrent := (GenerationCounter.isCurrent_iff.1 (h.current g hv)).2
      omega
    rw [hunderWay, harrived, List.nil_append, List.count_append, List.count_singleton,
      if_neg (by simpa using hne), Nat.add_zero]
    exact h.carried g hv

end QuestionCarried

/-! ## The schema -/

/-- Once the session has started, a tree that waits is carried by a list of databases or by a schema
of the current generation; `hand` is the ticket of the settlement that is being reduced. -/
structure SchemaCarried (started : Prop) (s : Console) (c : Calls) (hand : List Ticket) : Prop where
  issued : ∀ g, .schema g ∈ c.underWay ∨ .schema g ∈ c.cancelled ∨ .schema g ∈ hand ++ c.arrived →
    0 < g
  carried : started → s.schema = .loading →
    ∃ ticket, (ticket = .databases ∨ ticket = .schema s.schemaLoads.latest) ∧
      (ticket ∈ c.underWay ∨ ticket ∈ hand ++ c.arrived)

namespace SchemaCarried

variable {started started' : Prop} {s t : Console} {c c' : Calls} {hand : List Ticket}

theorem mono (h : SchemaCarried started s c hand) (hstarted : started' → started) :
    SchemaCarried started' s c hand :=
  ⟨h.issued, fun hs => h.carried (hstarted hs)⟩

/-- Only the lists of tickets matter. -/
theorem congr {hand' : List Ticket} (h : SchemaCarried started s c hand)
    (hunderWay : c'.underWay = c.underWay) (hcancelled : c'.cancelled = c.cancelled)
    (harrived : hand' ++ c'.arrived = hand ++ c.arrived) : SchemaCarried started s c' hand' := by
  obtain ⟨hissued, hcarried⟩ := h
  rw [← hunderWay, ← hcancelled, ← harrived] at hissued
  rw [← hunderWay, ← harrived] at hcarried
  exact ⟨hissued, hcarried⟩

/-- A settlement that is not awaited may be dropped. -/
theorem drop (h : SchemaCarried started s c hand) (hloads : t.schemaLoads = s.schemaLoads)
    (hschema : t.schema = .loading → s.schema = .loading ∧ .databases ∉ hand ∧
      .schema s.schemaLoads.latest ∉ hand) : SchemaCarried started t c [] where
  issued g hg := h.issued g (hg.imp_right (Or.imp_right (List.mem_append_right hand)))
  carried hstarted ht := by
    obtain ⟨hs, hdatabases, hlatest⟩ := hschema ht
    obtain ⟨ticket, hticket, hmem⟩ := h.carried hstarted hs
    rw [hloads]
    refine ⟨ticket, hticket, hmem.imp_right fun hmem => ?_⟩
    rcases List.mem_append.1 hmem with hhand | harrived
    · rcases hticket with rfl | rfl
      · exact absurd hhand hdatabases
      · exact absurd hhand hlatest
    · exact harrived

/-- A new call is of a positive generation as the others are. -/
theorem issued_spawn (h : SchemaCarried started s c hand) {task : Task}
    (htask : ∀ g, task.ticket = .schema g → 0 < g) (g : Nat)
    (hg : .schema g ∈ (c.spawn task).underWay ∨ .schema g ∈ (c.spawn task).cancelled ∨
      .schema g ∈ [] ++ (c.spawn task).arrived) : 0 < g := by
  rcases hg with hmem | hmem | hmem
  · rcases Calls.mem_underWay_spawn hmem with hold | hself
    · exact h.issued g (.inl hold)
    · exact htask g hself.symm
  · rcases Calls.mem_cancelled_spawn hmem with hold | ⟨hold, -⟩
    · exact h.issued g (.inr (.inl hold))
    · exact h.issued g (.inl hold)
  · exact h.issued g (.inr (.inr (List.mem_append_right hand hmem)))

/-- Questions do not matter. -/
theorem spawn_query (h : SchemaCarried started s c []) (hloads : t.schemaLoads = s.schemaLoads)
    (hschema : t.schema = s.schema) (generation : Nat) (request : QueryRequest) :
    SchemaCarried started t (c.spawn (.query generation request)) [] := by
  refine ⟨h.issued_spawn fun _ hg => Ticket.noConfusion hg, fun hstarted hs => ?_⟩
  obtain ⟨ticket, hticket, hmem⟩ := h.carried hstarted (hschema ▸ hs)
  rw [hloads]
  refine ⟨ticket, hticket, hmem.imp_left fun hmem => Calls.mem_underWay_spawn_of_mem hmem ?_⟩
  rcases hticket with rfl | rfl <;> rfl

/-- A list of databases that is asked for carries the tree. -/
theorem spawn_databases (h : SchemaCarried started s c hand) (started' : Prop) (t : Console) :
    SchemaCarried started' t (c.spawn .databases) [] :=
  ⟨h.issued_spawn fun _ hg => Ticket.noConfusion hg, fun _ _ =>
    ⟨_, .inl rfl, .inl (Calls.ticket_mem_underWay_spawn c .databases)⟩⟩

/-- A schema that is asked for carries the tree. -/
theorem spawn_schema (h : SchemaCarried started s c hand) (database : Option String)
    (hloads : t.schemaLoads = s.schemaLoads.issue) :
    SchemaCarried started t (c.spawn (.schema s.schemaLoads.next database)) [] := by
  refine ⟨h.issued_spawn fun g hg => ?_, fun _ _ => ⟨_, .inr rfl, .inl ?_⟩⟩
  · obtain rfl := Ticket.schema.inj hg
    exact Nat.succ_pos _
  · rw [hloads]
    exact Calls.ticket_mem_underWay_spawn c (.schema s.schemaLoads.next database)

/-- A call that settles hands its ticket on. -/
theorem settle (h : SchemaCarried started s c []) {index : Nat} {settlement : Settlement}
    (hc : c.settle? index settlement = some c') : SchemaCarried started s c' [] := by
  obtain ⟨ticket, hperm, hcancelled, harrived⟩ := Calls.settle?_eq_some hc
  have hmoves : ∀ k, k ∈ c.underWay ∨ k ∈ c.arrived ↔ k ∈ c'.underWay ∨ k ∈ c'.arrived := by
    intro k
    rw [hperm.mem_iff, harrived, List.mem_cons, List.mem_append, List.mem_singleton]
    tauto
  refine ⟨fun g hg => h.issued g ?_, fun hstarted hs => ?_⟩
  · rw [hcancelled] at hg
    have := hmoves (.schema g)
    rw [List.nil_append] at hg ⊢
    tauto
  · obtain ⟨k, hk, hmem⟩ := h.carried hstarted hs
    exact ⟨k, hk, (hmoves k).1 hmem⟩

/-- The settlement of a cancelled call takes nothing away. -/
theorem settleLate (h : SchemaCarried started s c []) {index : Nat} {settlement : Settlement}
    (hc : c.settleLate? index settlement = some c') : SchemaCarried started s c' [] := by
  obtain ⟨ticket, hticket, hunderWay, hcancelled, harrived⟩ := Calls.settleLate?_eq_some hc
  refine ⟨fun g hg => ?_, fun hstarted hs => ?_⟩
  · rw [hunderWay, harrived, List.nil_append, List.mem_append, List.mem_singleton] at hg
    rcases hg with hmem | hmem | hmem | rfl
    · exact h.issued g (.inl hmem)
    · exact h.issued g (.inr (.inl (hcancelled _ hmem)))
    · exact h.issued g (.inr (.inr hmem))
    · exact h.issued g (.inr (.inl hticket))
  · obtain ⟨k, hk, hmem⟩ := h.carried hstarted hs
    rw [hunderWay, harrived]
    exact ⟨k, hk, hmem.imp_right (List.mem_append_left [ticket])⟩

end SchemaCarried

/-! ## Runs -/

/-- What submits is no settlement. -/
theorem Action.ticket?_of_submitted {action : Action} {input submitted : Editor}
    (h : action.submitted? input = some submitted) : action.ticket? = none := by
  cases action <;> first | rfl | cases h

section Transition

variable {phrases : Phrases} {s t : Console} {c : Calls} {action : Action} {effects : List Effect}

/-- Reducing an action keeps the question carried. -/
theorem questionCarried_of_transition (ht : s.Transition phrases action t effects)
    (h : QuestionCarried s c action.ticket?.toList) : QuestionCarried t (c.run effects) [] := by
  cases ht with
  | asked hs hb =>
    rw [Action.ticket?_of_submitted hs] at h
    rw [Calls.run_submitQuery]
    exact h.spawn_query rfl rfl
  | blank hs hb =>
    rw [Action.ticket?_of_submitted hs] at h
    exact h.drop rfl fun g hv => ⟨hv, List.not_mem_nil⟩
  | staleQuery stale result =>
    refine h.drop rfl fun g hv => ⟨hv, fun hmem => stale ?_⟩
    obtain rfl := Ticket.query.inj (List.mem_singleton.1 hmem)
    exact ⟨h.current g hv, hv⟩
  | settled current awaited result =>
    rw [Calls.run_map_notify]
    exact h.drop rfl fun g hv => absurd hv (QueryView.ofResult_ne_loading phrases result g)
  | startup =>
    rw [Calls.run_fetchDatabases]
    apply h.spawn_other <;> simp [Action.ticket?, Task.ticket]
  | unlisted e =>
    rw [Calls.run_notify_cons, Calls.run_loadSchema]
    apply h.spawn_other <;> simp [Action.ticket?, Task.ticket]
  | listed _ | selected _ | refreshed =>
    rw [Calls.run_loadSchema]
    apply h.spawn_other <;> simp [Action.ticket?, Task.ticket]
  | unselected _ | staleSchema _ _ | schemaArrived _ _ | schemaFailed _ _ | toggled _ =>
    exact h.drop rfl fun g hv => ⟨hv, by simp [Action.ticket?]⟩

/-- Reducing an action keeps the schema carried. -/
theorem schemaCarried_of_transition {started : Prop} (ht : s.Transition phrases action t effects)
    (h : SchemaCarried started s c action.ticket?.toList) :
    SchemaCarried started t (c.run effects) [] := by
  cases ht with
  | asked hs hb =>
    rw [Action.ticket?_of_submitted hs] at h
    rw [Calls.run_submitQuery]
    apply h.spawn_query <;> rfl
  | blank hs hb =>
    rw [Action.ticket?_of_submitted hs] at h
    exact h.drop rfl fun hl => ⟨hl, List.not_mem_nil, List.not_mem_nil⟩
  | staleSchema stale result =>
    refine h.drop rfl fun hl => ⟨hl, by simp [Action.ticket?], fun hmem => ?_⟩
    -- the awaited generation was issued, so its settlement is never stale
    have hpos := h.issued _ (.inr (.inr (List.mem_append_left _ hmem)))
    obtain rfl := Ticket.schema.inj (List.mem_singleton.1 hmem)
    have hcurrent := GenerationCounter.isCurrent_iff.2 ⟨hpos.ne', rfl⟩
    exact Bool.noConfusion (hcurrent.symm.trans stale)
  | schemaArrived _ _ | schemaFailed _ _ => exact h.drop rfl fun hl => SchemaTree.noConfusion hl
  | toggled index =>
    exact h.drop rfl fun hl =>
      ⟨SchemaTree.loading_of_toggle_eq hl, by simp [Action.ticket?], by simp [Action.ticket?]⟩
  | startup =>
    rw [Calls.run_fetchDatabases]
    exact h.spawn_databases _ _
  | unlisted e =>
    rw [Calls.run_notify_cons, Calls.run_loadSchema]
    exact h.spawn_schema _ rfl
  | listed _ | selected _ | refreshed =>
    rw [Calls.run_loadSchema]
    exact h.spawn_schema _ rfl
  | settled _ _ _ =>
    rw [Calls.run_map_notify]
    exact h.drop rfl fun hl => ⟨hl, by simp [Action.ticket?], by simp [Action.ticket?]⟩
  | unselected _ | staleQuery _ _ =>
    exact h.drop rfl fun hl => ⟨hl, by simp [Action.ticket?], by simp [Action.ticket?]⟩

/-- Starting asks for the databases, so the schema is carried from then on. -/
theorem schemaCarried_of_startup {started started' : Prop}
    (ht : s.Transition phrases .startup t effects) (h : SchemaCarried started s c []) :
    SchemaCarried started' t (c.run effects) [] := by
  cases ht with
  | startup =>
    rw [Calls.run_fetchDatabases]
    exact h.spawn_databases _ _
  | blank hs _ => cases hs
  | asked hs _ => cases hs

end Transition

namespace Session

variable {phrases : Phrases} {s s' : Session} {started : Prop}

/-- Whatever the view or, once the session has started, the tree waits for is carried. -/
structure Carried (started : Prop) (s : Session) : Prop where
  question : QuestionCarried s.console s.calls []
  schema : SchemaCarried started s.console s.calls []

theorem carried_start (database : String) (single : Bool) :
    Carried False (start database single) where
  question := ⟨by simp [start, Calls.none, Calls.underWay, Calls.ticketsWith, Calls.arrived],
    by simp [start, Calls.none, Calls.cancelled, Calls.ticketsWith],
    fun _ hv => QueryView.noConfusion hv, fun _ hv => QueryView.noConfusion hv⟩
  schema := ⟨by simp [start, Calls.none, Calls.underWay, Calls.cancelled, Calls.ticketsWith,
    Calls.arrived], False.elim⟩

/-- A session in which an action is reduced keeps what is waited for carried. -/
theorem Carried.dispatch {c : Calls} {action : Action}
    (hq : QuestionCarried s.console c action.ticket?.toList)
    (hs : SchemaCarried started s.console c action.ticket?.toList) :
    Carried started (dispatch phrases ⟨s.console, c⟩ action) :=
  ⟨questionCarried_of_transition (Console.reduce_transition phrases s.console action) hq,
    schemaCarried_of_transition (Console.reduce_transition phrases s.console action) hs⟩

/-- A move keeps what is waited for carried. -/
theorem Carried.move (h : Carried started s) {m : Move} (hm : s.move? phrases m = some s') :
    Carried started s' := by
  cases m with
  | edit input =>
    obtain rfl := Option.some.inj hm
    exact ⟨h.question.drop rfl fun g hv => ⟨hv, List.not_mem_nil⟩,
      h.schema.drop rfl fun hl => ⟨hl, List.not_mem_nil, List.not_mem_nil⟩⟩
  | wish action =>
    simp only [move?] at hm
    split at hm
    · rename_i hwish
      have hnone : action.ticket? = none := Option.isNone_iff_eq_none.1 hwish
      obtain rfl := Option.some.inj hm
      apply Carried.dispatch <;> rw [hnone]
      · exact h.question
      · exact h.schema
    · cases hm
  | begin =>
    obtain rfl := Option.some.inj hm
    exact ⟨h.question.congr (Calls.underWay_begin _) (Calls.cancelled_begin _) rfl,
      h.schema.congr (Calls.underWay_begin _) (Calls.cancelled_begin _) rfl⟩
  | settle index settlement =>
    obtain ⟨calls, hc, rfl⟩ := Option.map_eq_some_iff.1 hm
    exact ⟨h.question.settle hc, h.schema.settle hc⟩
  | settleLate index settlement =>
    obtain ⟨calls, hc, rfl⟩ := Option.map_eq_some_iff.1 hm
    exact ⟨h.question.settleLate hc, h.schema.settleLate hc⟩
  | drain =>
    simp only [move?] at hm
    split at hm
    · cases hm
    · rename_i action queue hqueue
      obtain rfl := Option.some.inj hm
      -- the settlement leaves the queue and is in hand while it is reduced
      exact .dispatch (h.question.congr rfl rfl (Calls.arrived_of_queue_eq hqueue))
        (h.schema.congr rfl rfl (Calls.arrived_of_queue_eq hqueue))

/-- Starting makes the schema carried from then on. -/
theorem Carried.startup (h : Carried started s) (hm : s.move? phrases (.wish .startup) = some s') :
    Carried True s' := by
  have hmoved := h.move hm
  obtain rfl := Option.some.inj hm
  exact ⟨hmoved.question,
    schemaCarried_of_startup (Console.reduce_transition phrases s.console .startup) h.schema⟩

/-- A run keeps what is waited for carried, and does so for the schema once it has started. -/
theorem Carried.run (h : Carried started s) {moves : List Move}
    (hr : s.run? phrases moves = some s') : Carried (started ∨ .wish .startup ∈ moves) s' := by
  induction moves generalizing s started with
  | nil =>
    obtain rfl := Option.some.inj hr
    exact ⟨h.question, h.schema.mono fun hs => hs.resolve_right List.not_mem_nil⟩
  | cons m moves ih =>
    rw [run?, List.foldlM_cons] at hr
    obtain ⟨next, hm, hnext⟩ := Option.bind_eq_some_iff.1 hr
    by_cases hstart : m = .wish .startup
    · subst hstart
      have hcarried := ih (h.startup hm) hnext
      exact ⟨hcarried.question, hcarried.schema.mono fun _ => .inl trivial⟩
    · have hcarried := ih (h.move hm) hnext
      refine ⟨hcarried.question, hcarried.schema.mono fun hs => hs.imp_right fun hmem => ?_⟩
      exact (List.mem_cons.1 hmem).resolve_left (Ne.symm hstart)

/-- **Nothing is waited for in vain.**  While the view waits for a generation, exactly one call or
settlement of that generation is there: the call is under way and not cancelled, or its settlement
has arrived.  Once the session has started, while the tree waits, a list of databases or the schema
of the current generation is under way or has arrived. -/
theorem no_orphaned_wait {database : String} {single : Bool} {moves : List Move}
    (h : (start database single).run? phrases moves = some s) :
    (∀ g, s.console.view = .loading g →
      s.calls.underWay.count (.query g) + s.calls.arrived.count (.query g) = 1) ∧
    (.wish .startup ∈ moves → s.console.schema = .loading →
      ∃ ticket, (ticket = .databases ∨ ticket = .schema s.console.schemaLoads.latest) ∧
        (ticket ∈ s.calls.underWay ∨ ticket ∈ s.calls.arrived)) := by
  have hcarried := (carried_start database single).run h
  exact ⟨hcarried.question.carried, fun hs => hcarried.schema.carried (.inr hs)⟩

/-- Two questions of which the first settles although it is cancelled: the second is waited for. -/
theorem waits_for_second_question :
    ∃ s : Session, (start "sales" false).run? .english [.wish .startup, .begin,
        .wish (.applySuggestion "first"), .begin, .wish (.applySuggestion "second"),
        .settleLate 1 (.query (.ok (.failure "late")))] = some s ∧
      s.console.view = .loading 2 ∧
      s.calls.underWay.count (.query 2) + s.calls.arrived.count (.query 2) = 1 ∧
      s.console.schema = .loading ∧
      ∃ ticket, (ticket = .databases ∨ ticket = .schema s.console.schemaLoads.latest) ∧
        (ticket ∈ s.calls.underWay ∨ ticket ∈ s.calls.arrived) := by
  have hrun : (start "sales" false).run? .english [.wish .startup, .begin,
      .wish (.applySuggestion "first"), .begin, .wish (.applySuggestion "second"),
      .settleLate 1 (.query (.ok (.failure "late")))] = some _ := rfl
  exact ⟨_, hrun, rfl, (no_orphaned_wait hrun).1 2 rfl, rfl,
    (no_orphaned_wait hrun).2 List.mem_cons_self rfl⟩

end Session
end QueryConsole
