/-
# What is expanded

A schema arrives with all its tables collapsed.  From then on toggles expand and collapse the tables
one by one, until another schema replaces the tree or the tree is given up:

| move | the tree after it |
| --- | --- |
| a schema that is waited for (`Receives`) | the tables of that schema, all collapsed |
| start, list of databases, selection, refresh, failed load | no tables |
| toggle | the same tables, one of them expanded or collapsed |
| anything else | the same |

So the tree of a run is that of the schema received last, with all toggles since applied to it
(`exists_lastReceived`).  Toggles commute and cancel in pairs: a table is expanded exactly if an odd number
of them was its own (`expanded_iff_odd_toggles`).
-/

import Mathlib.Algebra.Ring.Parity
import QueryConsole.Proofs.Console.SelectedSchema

namespace QueryConsole

namespace SchemaTree

variable {tree : SchemaTree} {index table : Nat}

/-- The tree with tables expanded or collapsed one after another. -/
def toggleAll (tree : SchemaTree) (indexes : List Nat) : SchemaTree :=
  indexes.foldl (fun tree index => tree.toggle index) tree

@[simp] theorem toggleAll_nil (tree : SchemaTree) : tree.toggleAll [] = tree := rfl

@[simp] theorem toggleAll_cons (tree : SchemaTree) (index : Nat) (indexes : List Nat) :
    tree.toggleAll (index :: indexes) = (tree.toggle index).toggleAll indexes := rfl

theorem toggleAll_append (tree : SchemaTree) (xs ys : List Nat) :
    tree.toggleAll (xs ++ ys) = (tree.toggleAll xs).toggleAll ys := List.foldl_append

/-- Expanding and collapsing does not change what the tree shows of the schema. -/
theorem shown_toggleAll (tree : SchemaTree) (indexes : List Nat) :
    (tree.toggleAll indexes).shown = tree.shown := by
  induction indexes generalizing tree with
  | nil => rfl
  | cons index indexes ih => rw [toggleAll_cons, ih, shown_toggle]

/-- A toggle changes its own table and no other. -/
theorem getElem?_tables_toggle (tree : SchemaTree) (index table : Nat) :
    (tree.toggle index).tables[table]? =
      tree.tables[table]?.map fun t =>
        { t with expanded := t.expanded ^^ decide (index = table) } := by
  cases tree with
  | loaded ts =>
    rw [toggle_loaded, tables, tables, List.getElem?_modify]
    cases ts[table]? with
    | none => rfl
    | some t =>
      by_cases h : index = table
      · simp [h]
      · simp [h]
  | _ => rfl

/-- **Toggles add up by parity:** a table changes if an odd number of them is its own. -/
theorem getElem?_tables_toggleAll (tree : SchemaTree) (indexes : List Nat) (table : Nat) :
    (tree.toggleAll indexes).tables[table]? =
      tree.tables[table]?.map fun t =>
        { t with expanded := t.expanded ^^ decide (Odd (indexes.count table)) } := by
  induction indexes generalizing tree with
  | nil =>
    have hnone : decide (Odd (([] : List Nat).count table)) = false := by simp
    simp only [toggleAll_nil, hnone, Bool.xor_false, Option.map_id']
  | cons index indexes ih =>
    rw [toggleAll_cons, ih, getElem?_tables_toggle, Option.map_map]
    refine congrArg (fun f => Option.map f tree.tables[table]?) (funext fun t => ?_)
    have hparity : (decide (index = table) ^^ decide (Odd (indexes.count table))) =
        decide (Odd ((index :: indexes).count table)) := by
      by_cases h : index = table
      · simp [h, Nat.odd_add_one, -Nat.not_odd_iff_even]
      · simp [h]
    rw [Function.comp_apply, ← hparity, Bool.xor_assoc]

/-- A table of a schema that has just arrived is collapsed. -/
theorem getElem?_tables_ofSchema (schema : Schema) (table : Nat) :
    (ofSchema schema).tables[table]? =
      schema.tables[table]?.map fun t => ⟨t.name, t.columns, false⟩ :=
  List.getElem?_map

end SchemaTree

namespace Console

/-- Whether a move brings a schema that is waited for. -/
def Receives (s : Console) (m : Move) (schema : Schema) : Prop :=
  ∃ generation, m = .act (.schemaLoaded generation (.ok schema)) ∧
    s.schemaLoads.isCurrent generation = true

/-- Whether no move of a run brings a schema that is waited for. -/
def ReceivesNone (phrases : Phrases) : Console → List Move → Prop
  | _, [] => True
  | s, m :: moves =>
    (∀ schema, ¬s.Receives m schema) ∧ ReceivesNone phrases (s.advance phrases m).1 moves

/-- The schema that a run has received last, and the moves since. -/
def LastReceived (phrases : Phrases) (s : Console) (moves : List Move) (schema : Schema)
    (since : List Move) : Prop :=
  ∃ before m, moves = before ++ m :: since ∧ (s.after phrases before).Receives m schema ∧
    (s.after phrases (before ++ [m])).ReceivesNone phrases since

/-- The index of the table that a move toggles. -/
def Move.toggled? : Move → Option Nat
  | .act (.toggleTable index) => some index
  | _ => none

/-- The indexes of the tables that moves toggle, in order. -/
def toggles (moves : List Move) : List Nat := moves.filterMap Move.toggled?

variable {phrases : Phrases} {s : Console} {moves since : List Move} {m : Move} {schema : Schema}

theorem toggles_concat (moves : List Move) (m : Move) :
    toggles (moves ++ [m]) = toggles moves ++ m.toggled?.toList := by
  rw [toggles, List.filterMap_append, List.filterMap_cons, List.filterMap_nil]
  cases m.toggled? with
  | none => rfl
  | some index => rfl

theorem receivesNone_append {xs ys : List Move} :
    s.ReceivesNone phrases (xs ++ ys) ↔
      s.ReceivesNone phrases xs ∧ (s.after phrases xs).ReceivesNone phrases ys := by
  induction xs generalizing s with
  | nil => simp [ReceivesNone]
  | cons m xs ih => rw [List.cons_append, ReceivesNone, ReceivesNone, ih, after_cons, and_assoc]

/-- A move that brings a schema that is waited for is the last to do so in the run that it ends. -/
theorem lastReceived_of_receives (h : (s.after phrases moves).Receives m schema) :
    LastReceived phrases s (moves ++ [m]) schema [] :=
  ⟨moves, m, rfl, h, trivial⟩

/-- A move that brings no such schema leaves the last one what it was. -/
theorem LastReceived.concat (h : LastReceived phrases s moves schema since)
    (hm : ∀ schema, ¬(s.after phrases moves).Receives m schema) :
    LastReceived phrases s (moves ++ [m]) schema (since ++ [m]) := by
  obtain ⟨before, n, rfl, hn, hsince⟩ := h
  refine ⟨before, n, by rw [List.append_assoc, List.cons_append], hn, ?_⟩
  have hafter : (s.after phrases (before ++ [n])).after phrases since =
      s.after phrases (before ++ n :: since) := by
    rw [← after_append, List.append_assoc, List.singleton_append]
  exact receivesNone_append.mpr ⟨hsince, hafter ▸ hm, trivial⟩

/-- **What a move does to the tree:** a schema that is waited for replaces it; any other move gives it
up, or applies its toggle if it has one. -/
theorem schema_advance (phrases : Phrases) (s : Console) (m : Move) :
    (∃ schema, s.Receives m schema ∧ (s.advance phrases m).1.schema = .ofSchema schema) ∨
      (∀ schema, ¬s.Receives m schema) ∧
        ((∀ ts, (s.advance phrases m).1.schema ≠ .loaded ts) ∨
          (s.advance phrases m).1.schema = s.schema.toggleAll m.toggled?.toList) := by
  have hother (action : Action) (h : ∀ g schema, action ≠ .schemaLoaded g (.ok schema)) :
      ∀ schema, ¬s.Receives (.act action) schema := by
    rintro schema ⟨g, hm, -⟩
    exact h g schema (Move.act.inj hm)
  cases m with
  | edit input =>
    refine .inr ⟨?_, .inr rfl⟩
    rintro schema ⟨g, hm, -⟩
    cases hm
  | act action =>
    have ht := reduce_transition phrases s action
    rw [advance]
    generalize s.reduce phrases action = out at ht ⊢
    obtain ⟨t, effects⟩ := out
    cases ht with
    | schemaArrived current schema => exact .inl ⟨schema, ⟨_, rfl, current⟩, rfl⟩
    | staleSchema stale result =>
      refine .inr ⟨?_, .inr rfl⟩
      rintro schema ⟨g, hm, hcurrent⟩
      obtain ⟨rfl, -⟩ := Action.schemaLoaded.inj (Move.act.inj hm)
      rw [stale] at hcurrent
      cases hcurrent
    | schemaFailed | startup | listed | unlisted | selected | refreshed =>
      exact .inr ⟨hother _ (by rintro _ _ ⟨⟩), .inl (by rintro _ ⟨⟩)⟩
    | toggled | unselected | staleQuery | settled =>
      exact .inr ⟨hother _ (by rintro _ _ ⟨⟩), .inr rfl⟩
    | blank submits | asked submits =>
      cases action with
      | submit | applySuggestion => exact .inr ⟨hother _ (by rintro _ _ ⟨⟩), .inr rfl⟩
      | _ => cases submits

/-- **The tree of a run** is that of the schema received last, with the toggles since applied. -/
theorem exists_lastReceived (hs : ∀ ts, s.schema ≠ .loaded ts) {ts : List TreeTable}
    (h : (s.after phrases moves).schema = .loaded ts) :
    ∃ schema since, LastReceived phrases s moves schema since ∧
      (s.after phrases moves).schema = (SchemaTree.ofSchema schema).toggleAll (toggles since) := by
  induction moves using List.reverseRecOn generalizing ts with
  | nil => exact absurd h (hs ts)
  | append_singleton moves m ih =>
    have hafter : s.after phrases (moves ++ [m]) = ((s.after phrases moves).advance phrases m).1 :=
      after_append ..
    rw [hafter] at h ⊢
    rcases schema_advance phrases (s.after phrases moves) m with
      ⟨schema, hreceives, hschema⟩ | ⟨hnone, hgone | hkept⟩
    · exact ⟨schema, [], lastReceived_of_receives hreceives, hschema⟩
    · exact absurd h (hgone ts)
    · obtain ⟨earlier, hearlier⟩ : ∃ earlier, (s.after phrases moves).schema = .loaded earlier := by
        rw [h] at hkept
        cases hm : m.toggled? with
        | none =>
          rw [hm] at hkept
          exact ⟨ts, hkept.symm⟩
        | some index =>
          rw [hm] at hkept
          exact SchemaTree.loaded_of_toggle_eq hkept.symm
      obtain ⟨schema, since, hlast, htree⟩ := ih hearlier
      refine ⟨schema, since ++ [m], hlast.concat hnone, ?_⟩
      rw [toggles_concat, SchemaTree.toggleAll_append, ← htree, hkept]

/-- **A table is expanded exactly if it was toggled an odd number of times since its schema arrived.**
While a tree is shown, whatever happened before, its tables are those of the schema that was received
last, with their columns and in their order, and each of them is expanded exactly if an odd number of the
toggles since then was its own.  Nothing else counts: toggles from before, toggles of other or missing
tables, schemas that are not waited for, questions and edits. -/
theorem expanded_iff_odd_toggles (phrases : Phrases) (database : String) (single : Bool)
    {moves : List Move} {ts : List TreeTable}
    (hloaded : ((start database single).after phrases moves).schema = .loaded ts) :
    ∃ schema since, LastReceived phrases (start database single) moves schema since ∧
      (ts.map fun t => ⟨t.name, t.columns⟩) = schema.tables ∧
      ∀ table t, ts[table]? = some t → (t.expanded = true ↔ Odd ((toggles since).count table)) := by
  have hstart : ∀ ts, (start database single).schema ≠ .loaded ts := nofun
  obtain ⟨schema, since, hlast, htree⟩ := exists_lastReceived hstart hloaded
  rw [hloaded] at htree
  have htables : ts = ((SchemaTree.ofSchema schema).toggleAll (toggles since)).tables :=
    congrArg SchemaTree.tables htree
  refine ⟨schema, since, hlast, ?_, ?_⟩
  · have hshown := SchemaTree.shown_toggleAll (SchemaTree.ofSchema schema) (toggles since)
    rw [SchemaTree.shown_ofSchema, SchemaTree.shown, ← htables] at hshown
    exact congrArg Schema.tables hshown
  · intro table t ht
    rw [htables, SchemaTree.getElem?_tables_toggleAll, SchemaTree.getElem?_tables_ofSchema,
      Option.map_map] at ht
    obtain ⟨source, -, rfl⟩ := Option.map_eq_some_iff.mp ht
    simp

/-- A run with toggles before the schema arrives, of a table that does not exist, and around a
superseded schema. -/
def toggledRun : List Move :=
  [.act .refreshSchema, .act .refreshSchema, .act (.toggleTable 0),
    .act (.schemaLoaded 2 (.ok ⟨[⟨"orders", ["id", "total"]⟩, ⟨"customers", ["name"]⟩]⟩)),
    .act (.toggleTable 0), .act (.toggleTable 1), .act (.toggleTable 7),
    .act (.schemaLoaded 1 (.ok ⟨[⟨"plants", []⟩]⟩)), .act (.toggleTable 1)]

/-- Of its two tables the one toggled once is expanded, and the one toggled twice is not. -/
theorem toggled_once_and_twice :
    let ts : List TreeTable := [⟨"orders", ["id", "total"], true⟩, ⟨"customers", ["name"], false⟩]
    ((start "sales" false).after .english toggledRun).schema = .loaded ts ∧
      ∃ schema since, LastReceived .english (start "sales" false) toggledRun schema since ∧
        schema.tables = [⟨"orders", ["id", "total"]⟩, ⟨"customers", ["name"]⟩] ∧
        Odd ((toggles since).count 0) ∧ ¬Odd ((toggles since).count 1) := by
  intro ts
  have hloaded : ((start "sales" false).after .english toggledRun).schema = .loaded ts := by decide
  obtain ⟨schema, since, hlast, htables, hexpanded⟩ :=
    expanded_iff_odd_toggles .english "sales" false hloaded
  have hfirst := hexpanded 0 _ rfl
  have hsecond := hexpanded 1 _ rfl
  refine ⟨hloaded, schema, since, hlast, htables.symm, hfirst.mp rfl, ?_⟩
  intro hodd
  exact Bool.noConfusion (hsecond.mpr hodd)

end Console
end QueryConsole
