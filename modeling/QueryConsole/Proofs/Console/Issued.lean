/-
# The numbers of calls

Questions and schema loads are numbered, each kind by its own counter.  The calls of a kind that a run
asks for have consecutive numbers, and the last of them is the one that the counter has issued last
(`numbers_emitted`).  So no number is issued twice, and that of a superseded call is never current again
(`lt_latest_of_superseded`).
-/

import QueryConsole.Console.Calls
import QueryConsole.Proofs.Console.Run

namespace QueryConsole

/-- The kinds of calls that are numbered. -/
inductive CallKind where
  | question
  | schemaLoad

namespace CallKind

/-- The number issued last for a kind of calls. -/
def latest : CallKind → Console → Nat
  | question, s => s.queries.latest
  | schemaLoad, s => s.schemaLoads.latest

/-- The number of a call, if it is of the kind. -/
def number? : CallKind → Task → Option Nat
  | question, .query generation _ => some generation
  | schemaLoad, .schema generation _ => some generation
  | _, _ => none

end CallKind

/-- The calls that effects ask for. -/
def Effect.tasks (effects : List Effect) : List Task := effects.filterMap Task.ofEffect?

theorem Effect.tasks_append (xs ys : List Effect) : tasks (xs ++ ys) = tasks xs ++ tasks ys :=
  List.filterMap_append

/-- Notifications ask for no call. -/
theorem Effect.tasks_map_notify (notes : List Notification) : tasks (notes.map .notify) = [] := by
  rw [tasks, List.filterMap_map, List.filterMap_eq_nil_iff]
  exact fun _ _ => rfl

/-- Only calls of one kind supersede each other. -/
theorem Task.exists_number_of_isSupersededBy {later task : Task}
    (h : later.isSupersededBy task = true) :
    ∃ (kind : CallKind) (n m : Nat), kind.number? task = some n ∧ kind.number? later = some m := by
  cases later <;> cases task <;> try cases h
  · exact ⟨.schemaLoad, _, _, rfl, rfl⟩
  · exact ⟨.question, _, _, rfl, rfl⟩

namespace Console

variable {phrases : Phrases} {s t u : Console} {kind : CallKind}

/-- The effects between two states of the console ask for calls with the numbers that were issued
between them. -/
def Numbers (kind : CallKind) (s t : Console) (effects : List Effect) : Prop :=
  ∃ n, kind.latest t = kind.latest s + n ∧
    (Effect.tasks effects).filterMap kind.number? = List.range' (kind.latest s + 1) n

/-- No call is asked for, and no number issued. -/
theorem numbers_of_latest_eq {effects : List Effect} (hlatest : kind.latest t = kind.latest s)
    (heffects : Effect.tasks effects = []) : Numbers kind s t effects :=
  ⟨0, hlatest, by rw [heffects]; rfl⟩

theorem Numbers.append {xs ys : List Effect} (hst : Numbers kind s t xs)
    (htu : Numbers kind t u ys) : Numbers kind s u (xs ++ ys) := by
  obtain ⟨n, hn, hxs⟩ := hst
  obtain ⟨m, hm, hys⟩ := htu
  refine ⟨n + m, by omega, ?_⟩
  rw [Effect.tasks_append, List.filterMap_append, hxs, hys, hn,
    show kind.latest s + n + 1 = kind.latest s + 1 + n by omega, List.range'_append_1]

/-- A move asks at most for one call, with the next number. -/
theorem numbers_advance (phrases : Phrases) (kind : CallKind) (s : Console) (m : Move) :
    Numbers kind s (s.advance phrases m).1 (s.advance phrases m).2 := by
  cases m with
  | edit input => cases kind <;> exact numbers_of_latest_eq rfl rfl
  | act action =>
    have ht := reduce_transition phrases s action
    rw [advance]
    generalize s.reduce phrases action = out at ht ⊢
    obtain ⟨t, effects⟩ := out
    cases ht with
    | asked =>
      cases kind with
      | question => exact ⟨1, rfl, rfl⟩
      | schemaLoad => exact ⟨0, rfl, rfl⟩
    | listed | unlisted | selected | refreshed =>
      cases kind with
      | question => exact ⟨0, rfl, rfl⟩
      | schemaLoad => exact ⟨1, rfl, rfl⟩
    | startup => cases kind <;> exact ⟨0, rfl, rfl⟩
    | settled => cases kind <;> exact numbers_of_latest_eq rfl (Effect.tasks_map_notify _)
    | _ => cases kind <;> exact numbers_of_latest_eq rfl rfl

/-- **The calls of a run have consecutive numbers**, up to the one issued last. -/
theorem numbers_emitted (phrases : Phrases) (kind : CallKind) (s : Console) (moves : List Move) :
    Numbers kind s (s.after phrases moves) (s.emitted phrases moves) := by
  induction moves generalizing s with
  | nil => exact numbers_of_latest_eq rfl rfl
  | cons m moves ih => exact (numbers_advance phrases kind s m).append (ih _)

/-- A call that a later one supersedes has a number that was issued before the last. -/
theorem Numbers.lt_latest_of_superseded {effects : List Effect} (h : Numbers kind s t effects)
    {before since : List Task} {task later : Task} {n m : Nat}
    (htasks : Effect.tasks effects = before ++ task :: since) (hlater : later ∈ since)
    (hn : kind.number? task = some n) (hm : kind.number? later = some m) :
    n < kind.latest t := by
  obtain ⟨k, hlatest, hnumbers⟩ := h
  rw [htasks, List.filterMap_append, List.filterMap_cons_some hn] at hnumbers
  have hmem : m ∈ since.filterMap kind.number? := List.mem_filterMap.mpr ⟨later, hlater, hm⟩
  have hlt : n < m := by
    have hsorted : (List.range' (kind.latest s + 1) k).Pairwise (· < ·) :=
      List.pairwise_lt_range'
    rw [← hnumbers, List.pairwise_append, List.pairwise_cons] at hsorted
    exact hsorted.2.1.1 m hmem
  have hrange : m ∈ List.range' (kind.latest s + 1) k := by
    rw [← hnumbers]
    exact List.mem_append_right _ (List.mem_cons_of_mem _ hmem)
  have hle := (List.mem_range'_1.mp hrange).2
  omega

end Console
end QueryConsole
