/-
# Tickets of calls

A call and its settlement carry the same ticket: the kind of the call, and its generation if it has
one.  What the calls of a console come to is seen in three lists of tickets: of the calls under way,
of those cancelled, and of the settlements that have arrived in the queue.  This file says what each
operation does to them:

| operation | under way | cancelled | arrived |
| --- | --- | --- | --- |
| `spawn` | a new one last, superseded ones gone | superseded ones may join | as before |
| `begin` | as before | as before | as before |
| `settle?` | one less | as before | that one last |
| `settleLate?` | as before | one may leave | that one last |
-/

import QueryConsole.Console.Calls

namespace QueryConsole

/-- The kind of a call, and its generation. -/
inductive Ticket where
  | databases
  | schema (generation : Nat)
  | query (generation : Nat)
  deriving DecidableEq, Repr

/-- Whether a call is superseded by a later one, by their tickets. -/
def Ticket.supersedes : (later earlier : Ticket) → Bool
  | schema _, schema _ => true
  | query _, query _ => true
  | _, _ => false

/-- Only questions supersede questions. -/
theorem Ticket.eq_query_of_supersedes {later : Ticket} {generation : Nat}
    (h : later.supersedes (.query generation) = true) : ∃ g, later = .query g := by
  cases later with
  | query g => exact ⟨g, rfl⟩
  | _ => cases h

/-- The ticket of a call. -/
def Task.ticket : Task → Ticket
  | databases => .databases
  | schema generation _ => .schema generation
  | query generation _ => .query generation

/-- The ticket that a settlement carries; a wish of the user carries none. -/
def Action.ticket? : Action → Option Ticket
  | databasesLoaded _ => some .databases
  | schemaLoaded generation _ => some (.schema generation)
  | querySettled generation _ => some (.query generation)
  | _ => none

/-- Whether an action is a wish of the user, not the result of a call. -/
def Action.isWish (action : Action) : Bool := action.ticket?.isNone

theorem Task.isSupersededBy_eq (later earlier : Task) :
    later.isSupersededBy earlier = later.ticket.supersedes earlier.ticket := by
  cases later <;> cases earlier <;> rfl

/-- A settlement carries the ticket of its call. -/
theorem Settlement.ticket?_of_action? {settlement : Settlement} {task : Task} {action : Action}
    (h : settlement.action? task = some action) : action.ticket? = some task.ticket := by
  cases settlement <;> cases task <;> cases h <;> rfl

namespace Calls

/-- A cancelled call that settles all the same, because it was cancelled too late.  None where the
call is not cancelled. -/
def settleLate? (c : Calls) (index : Nat) (settlement : Settlement) : Option Calls :=
  match c.started[index]? with
  | some (task, .cancelled) =>
    (settlement.action? task).map fun action =>
      { c with started := c.started.set index (task, .answered), queue := c.queue ++ [action] }
  | _ => .none

/-- The tickets of the calls with a status, of some that have started. -/
def ticketsWith (status : TaskStatus) (started : List (Task × TaskStatus)) : List Ticket :=
  started.filterMap fun (task, s) => if s = status then some task.ticket else .none

/-- The tickets of the calls under way: those that will settle, and those that start next. -/
def underWay (c : Calls) : List Ticket :=
  ticketsWith .pending c.started ++ c.waiting.map Task.ticket

/-- The tickets of the cancelled calls. -/
def cancelled (c : Calls) : List Ticket := ticketsWith .cancelled c.started

/-- The tickets of the settlements in the queue. -/
def arrived (c : Calls) : List Ticket := c.queue.filterMap Action.ticket?

@[simp] theorem ticketsWith_append (status : TaskStatus) (xs ys : List (Task × TaskStatus)) :
    ticketsWith status (xs ++ ys) = ticketsWith status xs ++ ticketsWith status ys :=
  List.filterMap_append

theorem ticketsWith_cons (status s : TaskStatus) (task : Task)
    (started : List (Task × TaskStatus)) :
    ticketsWith status ((task, s) :: started) =
      if s = status then task.ticket :: ticketsWith status started
      else ticketsWith status started := by
  unfold ticketsWith
  rw [List.filterMap_cons]
  split <;> simp_all

theorem mem_ticketsWith {status : TaskStatus} {started : List (Task × TaskStatus)}
    {ticket : Ticket} :
    ticket ∈ ticketsWith status started ↔
      ∃ task, (task, status) ∈ started ∧ task.ticket = ticket := by
  simp only [ticketsWith, List.mem_filterMap, Prod.exists]
  constructor
  · rintro ⟨task, s, hmem, h⟩
    split at h
    · rename_i hs
      exact ⟨task, hs ▸ hmem, Option.some.inj h⟩
    · cases h
  · rintro ⟨task, hmem, rfl⟩
    exact ⟨task, status, hmem, if_pos rfl⟩

/-! ## Asking for a call -/

/-- The superseded calls are no longer under way. -/
theorem underWay_supersede (c : Calls) (later : Task) :
    (c.supersede later).underWay =
      c.underWay.filter fun ticket => !later.ticket.supersedes ticket := by
  have hstarted : ∀ started : List (Task × TaskStatus),
      ticketsWith .pending (started.map fun (task, status) =>
        (task, if status = .pending && later.isSupersededBy task then .cancelled else status)) =
      (ticketsWith .pending started).filter fun ticket => !later.ticket.supersedes ticket := by
    intro started
    induction started with
    | nil => rfl
    | cons x started ih =>
      obtain ⟨task, status⟩ := x
      rw [List.map_cons, ticketsWith_cons, ticketsWith_cons, ih, Task.isSupersededBy_eq]
      cases status <;> cases h : later.ticket.supersedes task.ticket <;> simp [h]
  have hwaiting : c.waiting.filter (fun task => !later.isSupersededBy task) =
      c.waiting.filter ((fun ticket => !later.ticket.supersedes ticket) ∘ Task.ticket) :=
    List.filter_congr fun task _ => congrArg not (Task.isSupersededBy_eq later task)
  rw [underWay, underWay, List.filter_append, List.filter_map, ← hstarted, ← hwaiting]
  rfl

/-- A new call is under way, and those that it supersedes are not. -/
theorem underWay_spawn (c : Calls) (task : Task) :
    (c.spawn task).underWay =
      (c.underWay.filter fun ticket => !task.ticket.supersedes ticket) ++ [task.ticket] := by
  rw [← underWay_supersede]
  simp [spawn, underWay]

/-- How often a ticket is under way once a new call is. -/
theorem count_underWay_spawn (c : Calls) (task : Task) (ticket : Ticket) :
    (c.spawn task).underWay.count ticket =
      (if task.ticket.supersedes ticket then 0 else c.underWay.count ticket) +
        if task.ticket = ticket then 1 else 0 := by
  simp only [underWay_spawn, List.count_append, List.count_singleton, beq_iff_eq]
  congr 1
  split
  · rename_i h
    exact List.count_eq_zero_of_not_mem fun hmem => by simp [h] at hmem
  · rename_i h
    exact List.count_filter (by simpa using h)

/-- A new call is under way, and no other call joins those that were. -/
theorem mem_underWay_spawn {c : Calls} {task : Task} {ticket : Ticket}
    (h : ticket ∈ (c.spawn task).underWay) : ticket ∈ c.underWay ∨ ticket = task.ticket := by
  rw [underWay_spawn, List.mem_append, List.mem_filter, List.mem_singleton] at h
  exact h.imp_left And.left

theorem ticket_mem_underWay_spawn (c : Calls) (task : Task) :
    task.ticket ∈ (c.spawn task).underWay := by
  rw [underWay_spawn]
  exact List.mem_append_right _ List.mem_cons_self

/-- What is not superseded stays under way. -/
theorem mem_underWay_spawn_of_mem {c : Calls} {task : Task} {ticket : Ticket}
    (h : ticket ∈ c.underWay) (hs : task.ticket.supersedes ticket = false) :
    ticket ∈ (c.spawn task).underWay := by
  rw [underWay_spawn]
  exact List.mem_append_left _ (List.mem_filter.2 ⟨h, by rw [hs]; rfl⟩)

@[simp] theorem arrived_spawn (c : Calls) (task : Task) : (c.spawn task).arrived = c.arrived := rfl

/-- Only superseded calls are cancelled. -/
theorem mem_cancelled_spawn {c : Calls} {task : Task} {ticket : Ticket}
    (h : ticket ∈ (c.spawn task).cancelled) :
    ticket ∈ c.cancelled ∨ ticket ∈ c.underWay ∧ task.ticket.supersedes ticket = true := by
  obtain ⟨earlier, hmem, rfl⟩ := mem_ticketsWith.1 h
  obtain ⟨⟨t, status⟩, hstarted, heq⟩ := List.mem_map.1 hmem
  obtain ⟨rfl, hstatus⟩ := Prod.mk.inj heq
  split at hstatus
  · rename_i hs
    rw [Bool.and_eq_true, decide_eq_true_iff, Task.isSupersededBy_eq] at hs
    obtain ⟨rfl, hsuper⟩ := hs
    exact .inr ⟨List.mem_append_left _ (mem_ticketsWith.2 ⟨t, hstarted, rfl⟩), hsuper⟩
  · rw [hstatus] at hstarted
    exact .inl (mem_ticketsWith.2 ⟨t, hstarted, rfl⟩)

/-! ## Effects -/

@[simp] theorem run_fetchDatabases (c : Calls) :
    c.run [.fetchDatabases] = c.spawn .databases := rfl

@[simp] theorem run_loadSchema (c : Calls) (generation : Nat) (database : Option String) :
    c.run [.loadSchema generation database] = c.spawn (.schema generation database) := rfl

@[simp] theorem run_submitQuery (c : Calls) (generation : Nat) (request : QueryRequest) :
    c.run [.submitQuery generation request] = c.spawn (.query generation request) := rfl

@[simp] theorem run_notify_cons (c : Calls) (n : Notification) (effects : List Effect) :
    c.run (.notify n :: effects) = c.run effects := rfl

/-- Notifications ask for no call. -/
@[simp] theorem run_map_notify (c : Calls) (notes : List Notification) :
    c.run (notes.map .notify) = c := by
  induction notes with
  | nil => rfl
  | cons n notes ih => rw [List.map_cons, run_notify_cons, ih]

/-! ## Starting and settling calls -/

/-- Calls that start have the tickets that they had while they waited. -/
theorem ticketsWith_waiting (status : TaskStatus) (waiting : List Task) :
    ticketsWith status (waiting.map (·, .pending)) =
      if TaskStatus.pending = status then waiting.map Task.ticket else [] := by
  induction waiting with
  | nil => cases status <;> rfl
  | cons task waiting ih =>
    rw [List.map_cons, ticketsWith_cons, ih]
    cases status <;> rfl

@[simp] theorem underWay_begin (c : Calls) : c.begin.underWay = c.underWay := by
  simp [begin, underWay, ticketsWith_waiting]

@[simp] theorem cancelled_begin (c : Calls) : c.begin.cancelled = c.cancelled := by
  simp [begin, cancelled, ticketsWith_waiting]

/-- The oldest settlement is the first to have arrived. -/
theorem arrived_of_queue_eq {c : Calls} {action : Action} {queue : List Action}
    (h : c.queue = action :: queue) :
    action.ticket?.toList ++ arrived { c with queue } = c.arrived := by
  rw [arrived, arrived, h, List.filterMap_cons]
  cases action.ticket? <;> rfl

/-- A list around one of its elements, and what replaces it. -/
theorem exists_set_eq {α : Type} {xs : List α} {index : Nat} {x : α} (h : xs[index]? = some x)
    (y : α) :
    ∃ before after, xs = before ++ x :: after ∧ xs.set index y = before ++ y :: after := by
  obtain ⟨hlt, rfl⟩ := List.getElem?_eq_some_iff.1 h
  obtain ⟨before, after, heq, _, hset⟩ := @List.exists_of_set _ index y xs hlt
  exact ⟨before, after, heq, hset⟩

/-- A settlement that is put into the queue arrives last. -/
theorem arrived_concat {c : Calls} {action : Action} {ticket : Ticket}
    (h : action.ticket? = some ticket) :
    (c.queue ++ [action]).filterMap Action.ticket? = c.arrived ++ [ticket] := by
  rw [List.filterMap_append, List.filterMap_cons_some h]
  rfl

/-- A call that settles is no longer under way, and its settlement arrives last. -/
theorem settle?_eq_some {c c' : Calls} {index : Nat} {settlement : Settlement}
    (h : c.settle? index settlement = some c') :
    ∃ ticket, c.underWay.Perm (ticket :: c'.underWay) ∧ c'.cancelled = c.cancelled ∧
      c'.arrived = c.arrived ++ [ticket] := by
  unfold settle? at h
  split at h
  · rename_i task hindex
    obtain ⟨action, haction, rfl⟩ := Option.map_eq_some_iff.1 h
    obtain ⟨before, after, hstarted, hset⟩ := exists_set_eq hindex (task, .answered)
    rw [hstarted] at hset
    refine ⟨task.ticket, ?_, ?_, arrived_concat (Settlement.ticket?_of_action? haction)⟩
    · simp only [underWay, hset, hstarted, ticketsWith_append, ticketsWith_cons, List.append_assoc]
      exact List.perm_middle
    · simp only [cancelled, hset, hstarted, ticketsWith_append, ticketsWith_cons]
      rfl
  · cases h

/-- A cancelled call that settles all the same was cancelled, and its settlement arrives last. -/
theorem settleLate?_eq_some {c c' : Calls} {index : Nat} {settlement : Settlement}
    (h : c.settleLate? index settlement = some c') :
    ∃ ticket ∈ c.cancelled, c'.underWay = c.underWay ∧ (∀ k ∈ c'.cancelled, k ∈ c.cancelled) ∧
      c'.arrived = c.arrived ++ [ticket] := by
  unfold settleLate? at h
  split at h
  · rename_i task hindex
    obtain ⟨action, haction, rfl⟩ := Option.map_eq_some_iff.1 h
    obtain ⟨before, after, hstarted, hset⟩ := exists_set_eq hindex (task, .answered)
    rw [hstarted] at hset
    refine ⟨task.ticket, mem_ticketsWith.2 ⟨task, List.mem_of_getElem? hindex, rfl⟩, ?_,
      fun k hk => ?_, arrived_concat (Settlement.ticket?_of_action? haction)⟩
    · simp only [underWay, hset, hstarted, ticketsWith_append, ticketsWith_cons]
      rfl
    · simp only [cancelled, hset, hstarted, ticketsWith_append, ticketsWith_cons] at hk ⊢
      exact ((List.sublist_cons_self ..).append_left _).subset hk
  · cases h

end Calls
end QueryConsole
