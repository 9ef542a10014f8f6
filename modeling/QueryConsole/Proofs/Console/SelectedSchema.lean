/-
# The schema tree belongs to the selected database

Lists of databases, selections and refreshes each ask for a schema, and schemas may arrive late,
twice or after they were superseded.  A move either asks for the schema of the database that is selected
after it (`Loads`), or leaves the selection and the current generation alone (`Keeps`) and fills the
tree at most with a schema of that generation.  So the last load of a run, `IsLastLoad`, is always
for the selected database, and a tree that is shown has arrived for that load
(`schema_of_selected_database`).
-/

import Mathlib.Data.List.Induction
import QueryConsole.Proofs.Console.Run
import QueryConsole.Proofs.Console.Tree

namespace QueryConsole

namespace SchemaTree

/-- The schema that a tree shows, whatever is expanded in it. -/
def shown (tree : SchemaTree) : Schema := ⟨tree.tables.map fun t => ⟨t.name, t.columns⟩⟩

@[simp] theorem shown_ofSchema (s : Schema) : (ofSchema s).shown = s := by
  simp only [shown, ofSchema, tables, List.map_map]
  exact congrArg Schema.mk (List.map_id _)

@[simp] theorem shown_toggle (index : Nat) (tree : SchemaTree) :
    (tree.toggle index).shown = tree.shown := by
  cases tree with
  | loaded ts =>
    simp only [shown, toggle_loaded, tables, Schema.mk.injEq]
    induction ts generalizing index with
    | nil => simp
    | cons t ts ih => cases index with
      | zero => simp
      | succ index => simp [ih]
  | _ => rfl

end SchemaTree

namespace Console

/-- A move led to `out` and asked for the schema of the database that is selected there. -/
structure Loads (out : Console × List Effect) (generation : Nat) : Prop where
  emits : ∃ notes, out.2 = notes ++ [.loadSchema generation out.1.databases.selectedName]
  current : out.1.schemaLoads.isCurrent generation = true
  loading : out.1.schema = .loading

/-- A move led to `out` and asked for no schema; the tree shows what it showed, or a schema of the
current generation that the move brings. -/
structure Keeps (s : Console) (m : Move) (out : Console × List Effect) : Prop where
  emits : ∀ generation database, .loadSchema generation database ∉ out.2
  databases : out.1.databases = s.databases
  schemaLoads : out.1.schemaLoads = s.schemaLoads
  schema : ∀ tables, out.1.schema = .loaded tables →
    (∃ earlier, s.schema = .loaded earlier) ∧ out.1.schema.shown = s.schema.shown ∨
      ∃ generation, s.schemaLoads.isCurrent generation = true ∧
        m = .act (.schemaLoaded generation (.ok out.1.schema.shown))

/-- A move that has nothing to do with schemas keeps what there is. -/
theorem keeps_of_schema_eq {s t : Console} {m : Move} {effects : List Effect}
    (hdatabases : t.databases = s.databases) (hloads : t.schemaLoads = s.schemaLoads)
    (hschema : t.schema = s.schema)
    (heffects : ∀ generation database, .loadSchema generation database ∉ effects) :
    Keeps s m (t, effects) :=
  ⟨heffects, hdatabases, hloads, fun tables h =>
    .inl ⟨⟨tables, hschema ▸ h⟩, congrArg SchemaTree.shown hschema⟩⟩

/-- **Every move asks for the selected schema or keeps what there is.** -/
theorem loads_or_keeps (phrases : Phrases) (s : Console) (m : Move) :
    (∃ generation, Loads (s.advance phrases m) generation) ∨ Keeps s m (s.advance phrases m) := by
  cases m with
  | edit input => exact .inr (keeps_of_schema_eq rfl rfl rfl (by simp))
  | act action =>
    have ht := reduce_transition phrases s action
    rw [advance]
    generalize s.reduce phrases action = out at ht ⊢
    obtain ⟨t, effects⟩ := out
    cases ht with
    | listed names =>
      exact .inl ⟨_, ⟨[], rfl⟩, GenerationCounter.isCurrent_issue _, rfl⟩
    | unlisted e =>
      exact .inl ⟨_, ⟨[_], rfl⟩, GenerationCounter.isCurrent_issue _, rfl⟩
    | selected changes =>
      exact .inl ⟨_, ⟨[], rfl⟩, GenerationCounter.isCurrent_issue _, rfl⟩
    | refreshed =>
      exact .inl ⟨_, ⟨[], rfl⟩, GenerationCounter.isCurrent_issue _, rfl⟩
    | startup => exact .inr ⟨by simp, rfl, rfl, fun _ h => SchemaTree.noConfusion h⟩
    | schemaFailed current e => exact .inr ⟨by simp, rfl, rfl, fun _ h => SchemaTree.noConfusion h⟩
    | schemaArrived current schema =>
      refine .inr ⟨by simp, rfl, rfl, fun _ _ => .inr ⟨_, current, ?_⟩⟩
      rw [SchemaTree.shown_ofSchema]
    | toggled index =>
      exact .inr ⟨by simp, rfl, rfl, fun tables h =>
        .inl ⟨SchemaTree.loaded_of_toggle_eq h, SchemaTree.shown_toggle index _⟩⟩
    | _ => exact .inr (keeps_of_schema_eq rfl rfl rfl (by simp))

/-- The last load of a run: what it asks for, and the moves since. -/
def IsLastLoad (phrases : Phrases) (s : Console) (moves : List Move) (generation : Nat)
    (database : Option String) (since : List Move) : Prop :=
  ∃ before m notes, moves = before ++ m :: since ∧
    ((s.after phrases before).advance phrases m).2 =
      notes ++ [.loadSchema generation database] ∧
    ∀ g d, .loadSchema g d ∉ (s.after phrases (before ++ [m])).emitted phrases since

variable {phrases : Phrases} {s : Console}

/-- A move that asks for a schema is the last load of the run it ends. -/
theorem isLastLoad_of_emits {moves : List Move} {m : Move} {notes : List Effect}
    {generation : Nat} {database : Option String}
    (h : ((s.after phrases moves).advance phrases m).2 =
      notes ++ [.loadSchema generation database]) :
    IsLastLoad phrases s (moves ++ [m]) generation database [] :=
  ⟨moves, m, notes, rfl, h, fun _ _ => List.not_mem_nil⟩

/-- A move that asks for no schema leaves the last load what it was. -/
theorem IsLastLoad.concat {moves since : List Move} {m : Move} {generation : Nat}
    {database : Option String} (h : IsLastLoad phrases s moves generation database since)
    (hm : ∀ g d, .loadSchema g d ∉ ((s.after phrases moves).advance phrases m).2) :
    IsLastLoad phrases s (moves ++ [m]) generation database (since ++ [m]) := by
  obtain ⟨before, n, notes, rfl, hn, hsince⟩ := h
  refine ⟨before, n, notes, by rw [List.append_assoc, List.cons_append], hn, fun g d hmem => ?_⟩
  rw [emitted_append, ← after_append, List.append_assoc, List.singleton_append, emitted_cons,
    emitted_nil, List.append_nil, List.mem_append] at hmem
  exact hmem.elim (hsince g d) (hm g d)

/-- **The tree belongs to the selected database.**  Before a schema is asked for no tree is shown.
After that the last load is for the selected database and of the current generation, and a tree that
is shown arrived for that load. -/
theorem schema_of_selected_database (phrases : Phrases) (database : String) (single : Bool)
    (moves : List Move) :
    (∀ g d, .loadSchema g d ∉ (start database single).emitted phrases moves) ∧
        ((start database single).after phrases moves).schemaLoads = .start ∧
        (∀ tables, ((start database single).after phrases moves).schema ≠ .loaded tables) ∨
      ∃ generation since,
        IsLastLoad phrases (start database single) moves generation
          ((start database single).after phrases moves).databases.selectedName since ∧
        ((start database single).after phrases moves).schemaLoads.isCurrent generation = true ∧
        ∀ tables, ((start database single).after phrases moves).schema = .loaded tables →
          .act (.schemaLoaded generation
            (.ok ((start database single).after phrases moves).schema.shown)) ∈ since := by
  induction moves using List.reverseRecOn with
  | nil => exact .inl ⟨fun _ _ => List.not_mem_nil, rfl, fun _ => SchemaTree.noConfusion⟩
  | append_singleton moves m ih =>
    rw [show (start database single).after phrases (moves ++ [m]) = _ from after_append ..]
    rw [after_cons, after_nil]
    rcases loads_or_keeps phrases ((start database single).after phrases moves) m with
      ⟨generation, hload⟩ | hkeep
    · obtain ⟨notes, hnotes⟩ := hload.emits
      exact .inr ⟨generation, [], isLastLoad_of_emits hnotes, hload.current,
        fun _ h => SchemaTree.noConfusion (hload.loading.symm.trans h)⟩
    · rcases ih with ⟨hnone, hstart, hempty⟩ | ⟨generation, since, hlast, hcurrent, hshown⟩
      · refine .inl ⟨fun g d hmem => ?_, hkeep.schemaLoads.trans hstart, fun tables h => ?_⟩
        · rw [emitted_append, List.mem_append, emitted_cons, emitted_nil, List.append_nil] at hmem
          exact hmem.elim (hnone g d) (hkeep.emits g d)
        · rcases hkeep.schema tables h with ⟨⟨earlier, he⟩, _⟩ | ⟨g, hg, _⟩
          · exact hempty earlier he
          · rw [hstart] at hg
            exact Bool.noConfusion hg
      · rw [← hkeep.databases] at hlast
        rw [← hkeep.schemaLoads] at hcurrent
        refine .inr ⟨generation, since ++ [m], hlast.concat hkeep.emits, hcurrent,
          fun tables h => List.mem_append.2 ?_⟩
        rcases hkeep.schema tables h with ⟨⟨earlier, he⟩, hsame⟩ | ⟨g, hg, hm⟩
        · rw [hsame]
          exact .inl (hshown earlier he)
        · rw [← hkeep.schemaLoads] at hg
          obtain rfl := GenerationCounter.eq_of_isCurrent hcurrent hg
          exact .inr (List.mem_singleton.2 hm.symm)

end Console
end QueryConsole
