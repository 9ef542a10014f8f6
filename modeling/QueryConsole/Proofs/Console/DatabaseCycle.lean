/-
# Going round the databases

The selection of a database follows the list: it is an index of the list, and there is none exactly
while the list is empty (`InRange`).  Lists are replaced and databases selected in any order, and each
such change keeps that (`inRange_after`).

The databases stand in a circle.  Selecting the next one again and again moves one place at a time
(`iterate_forward`), so one round comes past every database once and ends where it began
(`visited_perm`, `iterate_forward_length`); selecting the one before undoes a step
(`previous?_forward`, `next?_backward`).  A selection asks for a schema exactly if it changes something
(`database_cycle`).
-/

import Mathlib.Data.List.Rotate
import QueryConsole.Proofs.Console.Issued

namespace QueryConsole

namespace DatabaseSelector

/-- What changes a selection: a new list with a preferred database, or a choice. -/
inductive Change where
  | list (names : List String) (preferred : String)
  | choose (index : Nat)

/-- The selector with another database selected, if it can be. -/
def choose (s : DatabaseSelector) (index : Nat) : DatabaseSelector := (s.select? index).getD s

/-- The selector after a change. -/
def change (s : DatabaseSelector) : Change → DatabaseSelector
  | .list names preferred => populate names preferred
  | .choose index => s.choose index

/-- The selector after changes one after another. -/
def after (s : DatabaseSelector) (changes : List Change) : DatabaseSelector := changes.foldl change s

/-- The selector with the next database selected. -/
def forward (s : DatabaseSelector) : DatabaseSelector := (s.next?.map s.choose).getD s

/-- The selector with the database before selected. -/
def backward (s : DatabaseSelector) : DatabaseSelector := (s.previous?.map s.choose).getD s

/-- The selected index is one of the list, and there is one unless the list is empty. -/
structure InRange (s : DatabaseSelector) : Prop where
  eq_nil : s.selected = none → s.names = []
  lt_length : ∀ i, s.selected = some i → i < s.names.length

variable {s : DatabaseSelector} {index i : Nat}

/-! ## Changes -/

/-- A choice of an index that is in range and not selected yet takes effect. -/
theorem select?_of_lt (hlt : index < s.names.length) (hne : s.selected ≠ some index) :
    s.select? index = some { s with selected := some index } := by
  rw [select?, if_neg]
  rintro (hle | heq)
  · omega
  · exact hne heq

/-- Any other choice has no effect. -/
theorem select?_eq_none (h : ¬(index < s.names.length ∧ s.selected ≠ some index)) :
    s.select? index = none := by
  rw [select?, if_pos]
  by_cases hlt : index < s.names.length
  · exact .inr (not_not.mp fun hne => h ⟨hlt, hne⟩)
  · exact .inl (Nat.not_lt.mp hlt)

/-- After a choice of an index in range, that index is selected. -/
theorem choose_of_lt (hlt : index < s.names.length) :
    s.choose index = { s with selected := some index } := by
  rw [choose]
  by_cases hsame : s.selected = some index
  · have hnone : s.select? index = none := select?_eq_none fun h => h.2 hsame
    rw [hnone, Option.getD_none, ← hsame]
  · rw [select?_of_lt hlt hsame, Option.getD_some]

theorem inRange_empty : empty.InRange := ⟨fun _ => rfl, nofun⟩

/-- The preferred database of a list is in it, and so is the first one. -/
theorem inRange_populate (names : List String) (preferred : String) :
    (populate names preferred).InRange := by
  cases names with
  | nil => exact ⟨fun _ => rfl, nofun⟩
  | cons name names =>
    have hselected : (populate (name :: names) preferred).selected =
        ((name :: names).findIdx? (· = preferred)).or (some 0) := rfl
    cases hfound : (name :: names).findIdx? (· = preferred) with
    | none =>
      rw [hfound, Option.none_or] at hselected
      refine ⟨fun h => ?_, fun i h => ?_⟩
      · rw [hselected] at h
        cases h
      · obtain rfl := Option.some.inj (hselected.symm.trans h)
        exact Nat.zero_lt_succ _
    | some found =>
      rw [hfound, Option.some_or] at hselected
      refine ⟨fun h => ?_, fun i h => ?_⟩
      · rw [hselected] at h
        cases h
      · obtain rfl := Option.some.inj (hselected.symm.trans h)
        exact (List.findIdx?_eq_some_iff_getElem.mp hfound).1

/-- **Every change keeps the selection in range.** -/
theorem InRange.change (h : s.InRange) (c : Change) : (s.change c).InRange := by
  cases c with
  | list names preferred => exact inRange_populate names preferred
  | choose index =>
    have hchange : s.change (.choose index) = s.choose index := rfl
    rw [hchange]
    by_cases hlt : index < s.names.length
    · rw [choose_of_lt hlt]
      refine ⟨nofun, fun i hi => ?_⟩
      obtain rfl := Option.some.inj hi
      exact hlt
    · have hnone : s.select? index = none := select?_eq_none fun h => hlt h.1
      rwa [choose, hnone, Option.getD_none]

/-- **In every run of changes the selection is in range.** -/
theorem inRange_after (changes : List Change) : (empty.after changes).InRange := by
  have hrun (s : DatabaseSelector) (h : s.InRange) : (s.after changes).InRange := by
    induction changes generalizing s with
    | nil => exact h
    | cons c changes ih => exact ih (s.change c) (h.change c)
  exact hrun empty inRange_empty

/-- Where there are databases, one of them is selected. -/
theorem InRange.exists_selected (h : s.InRange) (hne : s.names ≠ []) :
    ∃ i, s.selected = some i ∧ i < s.names.length := by
  cases hs : s.selected with
  | none => exact absurd (h.eq_nil hs) hne
  | some i => exact ⟨i, rfl, h.lt_length i hs⟩

/-! ## Steps -/

theorem next?_eq (hs : s.selected = some i) (hi : i < s.names.length) :
    s.next? = some ((i + 1) % s.names.length) := by
  rw [next?, if_neg (by omega), hs]

theorem previous?_eq (hs : s.selected = some i) (hi : i < s.names.length) :
    s.previous? = some (if i = 0 then s.names.length - 1 else i - 1) := by
  rw [previous?, if_neg (by omega), hs]

/-- One step forward, from the last database to the first. -/
theorem forward_eq (hs : s.selected = some i) (hi : i < s.names.length) :
    s.forward = { s with selected := some ((i + 1) % s.names.length) } := by
  have hlt : (i + 1) % s.names.length < s.names.length := Nat.mod_lt _ (by omega)
  rw [forward, next?_eq hs hi, Option.map_some, Option.getD_some, choose_of_lt hlt]

/-- One step backward, from the first database to the last. -/
theorem backward_eq (hs : s.selected = some i) (hi : i < s.names.length) :
    s.backward = { s with selected := some (if i = 0 then s.names.length - 1 else i - 1) } := by
  have hlt : (if i = 0 then s.names.length - 1 else i - 1) < s.names.length := by
    split <;> omega
  rw [backward, previous?_eq hs hi, Option.map_some, Option.getD_some, choose_of_lt hlt]

/-- **A step backward undoes a step forward.** -/
theorem previous?_forward (hs : s.selected = some i) (hi : i < s.names.length) :
    s.forward.previous? = some i := by
  have hlt : (i + 1) % s.names.length < s.names.length := Nat.mod_lt _ (by omega)
  rw [forward_eq hs hi, previous?_eq (s := { s with selected := _ }) rfl hlt]
  by_cases hlast : i + 1 = s.names.length
  · have hbefore : s.names.length - 1 = i := by omega
    rw [hlast, Nat.mod_self, if_pos rfl]
    exact congrArg some hbefore
  · rw [Nat.mod_eq_of_lt (by omega), if_neg (by omega), Nat.add_sub_cancel]

/-- **A step forward undoes a step backward.** -/
theorem next?_backward (hs : s.selected = some i) (hi : i < s.names.length) :
    s.backward.next? = some i := by
  have hlt : (if i = 0 then s.names.length - 1 else i - 1) < s.names.length := by
    split <;> omega
  rw [backward_eq hs hi, next?_eq (s := { s with selected := _ }) rfl hlt]
  split
  · rename_i hzero
    rw [hzero, Nat.sub_add_cancel (by omega), Nat.mod_self]
  · rename_i hpos
    rw [Nat.sub_add_cancel (by omega), Nat.mod_eq_of_lt hi]

/-! ## Rounds -/

/-- **Steps add up** around the circle. -/
theorem iterate_forward (hs : s.selected = some i) (hi : i < s.names.length) (steps : Nat) :
    forward^[steps] s = { s with selected := some ((i + steps) % s.names.length) } := by
  induction steps with
  | zero => rw [Function.iterate_zero, id, Nat.add_zero, Nat.mod_eq_of_lt hi, ← hs]
  | succ steps ih =>
    have hlt : (i + steps) % s.names.length < s.names.length := Nat.mod_lt _ (by omega)
    rw [Function.iterate_succ_apply', ih, forward_eq (s := { s with selected := _ }) rfl hlt,
      Nat.mod_add_mod, Nat.add_assoc]

/-- The indexes that are selected one after another in a number of steps. -/
def visited (s : DatabaseSelector) (steps : Nat) : List (Option Nat) :=
  (List.range steps).map fun k => (forward^[k + 1] s).selected

/-- A round visits the list of indexes, turned so far that it ends at the first one selected. -/
theorem visited_length (hs : s.selected = some i) (hi : i < s.names.length) :
    s.visited s.names.length = ((List.range s.names.length).rotate (i + 1)).map some := by
  refine List.ext_getElem (by simp [visited]) ?_
  intro k hk _
  have hturn : i + (k + 1) = k + (i + 1) := by omega
  simp only [visited, List.getElem_map, List.getElem_range, iterate_forward hs hi, hturn,
    List.getElem_rotate, List.length_range]

/-- **A round visits every index exactly once.** -/
theorem visited_perm (hs : s.selected = some i) (hi : i < s.names.length) :
    (s.visited s.names.length).Perm ((List.range s.names.length).map some) := by
  rw [visited_length hs hi]
  exact (List.rotate_perm _ _).map some

example : (populate ["sales", "plants", "sales"] "plants").visited 3 = [some 2, some 0, some 1] := by
  decide

/-- **A round ends where it began.** -/
theorem iterate_forward_length (hs : s.selected = some i) (hi : i < s.names.length) :
    forward^[s.names.length] s = s := by
  rw [iterate_forward hs hi, Nat.add_mod_right, Nat.mod_eq_of_lt hi, ← hs]

end DatabaseSelector

namespace Console

variable {phrases : Phrases} {s : Console} {moves : List Move}

/-- The selection of a console changes as a selection can. -/
theorem exists_change_advance (phrases : Phrases) (s : Console) (m : Move) :
    ∃ changes, (s.advance phrases m).1.databases = s.databases.after changes := by
  cases m with
  | edit input => exact ⟨[], rfl⟩
  | act action =>
    have ht := reduce_transition phrases s action
    rw [advance]
    generalize s.reduce phrases action = out at ht ⊢
    obtain ⟨t, effects⟩ := out
    cases ht with
    | listed names => exact ⟨[.list names s.defaultDatabase], rfl⟩
    | unlisted => exact ⟨[.list [] ""], rfl⟩
    | @selected index databases changes =>
      refine ⟨[.choose index], ?_⟩
      have hchoose : s.databases.choose index = databases := by
        rw [DatabaseSelector.choose, changes, Option.getD_some]
      exact hchoose.symm
    | _ => exact ⟨[], rfl⟩

/-- **The selection of a console is one that changes lead to.** -/
theorem exists_changes_after (phrases : Phrases) (s : Console) (moves : List Move) :
    ∃ changes, (s.after phrases moves).databases = s.databases.after changes := by
  induction moves generalizing s with
  | nil => exact ⟨[], rfl⟩
  | cons m moves ih =>
    obtain ⟨first, hfirst⟩ := exists_change_advance phrases s m
    obtain ⟨rest, hrest⟩ := ih (s.advance phrases m).1
    refine ⟨first ++ rest, ?_⟩
    rw [after_cons, hrest, hfirst, DatabaseSelector.after, DatabaseSelector.after,
      DatabaseSelector.after, List.foldl_append]

/-- The number of the next schema load is above that of every load so far. -/
theorem lt_next_of_mem_emitted {generation : Nat} {database : Option String}
    (h : .loadSchema generation database ∈ s.emitted phrases moves) :
    generation < (s.after phrases moves).schemaLoads.next := by
  obtain ⟨n, hlatest, hnumbers⟩ := numbers_emitted phrases .schemaLoad s moves
  have htask : Task.schema generation database ∈ Effect.tasks (s.emitted phrases moves) :=
    List.mem_filterMap.mpr ⟨_, h, rfl⟩
  have hnumber : generation ∈
      (Effect.tasks (s.emitted phrases moves)).filterMap CallKind.schemaLoad.number? :=
    List.mem_filterMap.mpr ⟨_, htask, rfl⟩
  rw [hnumbers] at hnumber
  have hle := (List.mem_range'_1.mp hnumber).2
  have hnext : (s.after phrases moves).schemaLoads.next =
      CallKind.schemaLoad.latest (s.after phrases moves) + 1 := rfl
  omega

/-- **A selection that changes something asks for one schema**, that of the database it selects. -/
theorem reduce_selectDatabase_of_lt {index : Nat} (hlt : index < s.databases.names.length)
    (hne : s.databases.selected ≠ some index) :
    s.reduce phrases (.selectDatabase index) =
      ({ s with
          databases := { s.databases with selected := some index }
          schema := .loading
          schemaLoads := s.schemaLoads.issue },
        [.loadSchema s.schemaLoads.next (some s.databases.names[index])]) := by
  rw [reduce, DatabaseSelector.select?_of_lt hlt hne]
  have hname : ({ s.databases with selected := some index } : DatabaseSelector).selectedName =
      some s.databases.names[index] := List.getElem?_eq_getElem hlt
  simp only [beginSchemaLoad, hname]

/-- **The databases stand in a circle, and only a change of the selection asks for a schema.**  After
any lists and choices, an index of the list is selected, and none exactly while the list is empty.  Where
there are databases, one round of steps forward visits every index exactly once and ends where it began,
and a step backward undoes a step forward and the other way round.  The selection of a console is one of
these; and whatever happened before, selecting an index asks for exactly one schema, under a number never
issued before and for the database at that index, if the index is in range and not selected already, and
does nothing otherwise. -/
theorem database_cycle (changes : List DatabaseSelector.Change) (phrases : Phrases)
    (database : String) (single : Bool) (moves : List Move) :
    (let s := DatabaseSelector.empty.after changes;
      (s.selected = none ↔ s.names = []) ∧
        (∀ i, s.selected = some i → i < s.names.length) ∧
        (s.names ≠ [] →
          (s.visited s.names.length).Perm ((List.range s.names.length).map some) ∧
          DatabaseSelector.forward^[s.names.length] s = s ∧
          s.forward.previous? = s.selected ∧ s.backward.next? = s.selected)) ∧
      (let s := (start database single).after phrases moves;
        (∃ own, s.databases = DatabaseSelector.empty.after own) ∧
        ∀ index,
          (∀ hlt : index < s.databases.names.length, s.databases.selected ≠ some index →
            s.reduce phrases (.selectDatabase index) =
              ({ s with
                  databases := { s.databases with selected := some index }
                  schema := .loading
                  schemaLoads := s.schemaLoads.issue },
                [.loadSchema s.schemaLoads.next (some s.databases.names[index])]) ∧
            ∀ g d, .loadSchema g d ∈ (start database single).emitted phrases moves →
              g ≠ s.schemaLoads.next) ∧
          (¬(index < s.databases.names.length ∧ s.databases.selected ≠ some index) →
            s.reduce phrases (.selectDatabase index) = (s, []))) := by
  refine ⟨?_, ?_⟩
  · intro s
    have hrange : s.InRange := DatabaseSelector.inRange_after changes
    refine ⟨⟨hrange.eq_nil, fun hnil => ?_⟩, hrange.lt_length, fun hne => ?_⟩
    · cases hs : s.selected with
      | none => rfl
      | some i =>
        have hlt := hrange.lt_length i hs
        rw [hnil] at hlt
        exact absurd hlt (Nat.not_lt_zero i)
    · obtain ⟨i, hs, hi⟩ := hrange.exists_selected hne
      rw [hs]
      exact ⟨DatabaseSelector.visited_perm hs hi, DatabaseSelector.iterate_forward_length hs hi,
        DatabaseSelector.previous?_forward hs hi, DatabaseSelector.next?_backward hs hi⟩
  · intro s
    refine ⟨exists_changes_after phrases (start database single) moves, fun index => ⟨?_, ?_⟩⟩
    · intro hlt hne
      refine ⟨reduce_selectDatabase_of_lt hlt hne, fun g d hmem => ?_⟩
      exact Nat.ne_of_lt (lt_next_of_mem_emitted hmem)
    · intro h
      rw [reduce, DatabaseSelector.select?_eq_none h]

end Console
end QueryConsole
