/-
# The cursor on the tree

Enter and the space bar expand or collapse the table that owns the selected line.  Whatever the press
does to the lines below, the selection ends up on the header of that table (`toggleTable_eq_stay`):

| before | selected line | after |
| --- | --- | --- |
| collapsed | the header, which is the only line of the table | expanded, the same line |
| expanded | the header or a column | collapsed, the line of the header |

All other tables stay as they are, and so does everything else of the workbench.  The help popup takes
the press while it is open, and then nothing changes (`tree_keeps_cursor`).
-/

import Mathlib.Data.List.Basic
import QueryConsole.Proofs.Console.TreeLines
import QueryConsole.Proofs.Workbench.Selection
import QueryConsole.Proofs.Workbench.StatusBar

namespace QueryConsole

/-! ## One table expanded or collapsed -/

/-- The table, expanded if it was collapsed and collapsed if it was expanded. -/
def TreeTable.flipped (t : TreeTable) : TreeTable := { t with expanded := !t.expanded }

namespace SchemaTree

variable {tree : SchemaTree} {table : Nat} {t : TreeTable}

/-- Expanding or collapsing a table changes that table only. -/
theorem toggle_eq_set (h : tree.tables[table]? = some t) :
    tree.toggle table = .loaded (tree.tables.set table t.flipped) := by
  cases tree with
  | loaded ts =>
    have htable : ts[table]? = some t := h
    have hmodify : ts.modify table TreeTable.flipped = ts.set table t.flipped := by
      rw [List.modify_eq_set_getElem?, htable]
      rfl
    exact (toggle_loaded table ts).trans (congrArg SchemaTree.loaded hmodify)
  | _ => cases h

/-- The header of a table stays in its line when the table itself changes. -/
theorem headerLine_set (ts : List TreeTable) (table : Nat) (u : TreeTable) :
    headerLine (ts.set table u) table = headerLine ts table := by
  rw [headerLine, headerLine, List.take_set_of_le (Nat.le_refl table)]

/-- A collapsed table has no line but its header. -/
theorem headerLine_succ_of_not_expanded {ts : List TreeTable} (h : ts[table]? = some t)
    (hcollapsed : t.expanded = false) : headerLine ts (table + 1) = headerLine ts table + 1 := by
  have hshown : shownColumns (ts.take table ++ [t]) = shownColumns (ts.take table) := by
    rw [shownColumns_append, shownColumns, shownColumns, hcollapsed]
    rfl
  rw [headerLine, headerLine, List.take_add_one, h, Option.toList_some, hshown]
  omega

end SchemaTree

namespace Workbench

open SchemaTree (headerLine)

variable {phrases : Phrases} {outside : Outside} {b : Workbench} {p : KeyPress} {table : Nat}
  {t : TreeTable}

/-! ## The key press -/

/-- **Expanding or collapsing the table under the selection** changes that table and moves the
selection to its header, and does nothing else. -/
theorem toggleTable_eq_stay (howner : b.console.schema.tableAtLine? b.treeLine = some table)
    (htable : b.console.schema.tables[table]? = some t) :
    b.toggleTable phrases =
      stay { b with
        console := { b.console with
          schema := .loaded (b.console.schema.tables.set table t.flipped) }
        treeLine := headerLine b.console.schema.tables table } := by
  obtain ⟨hlt, hle, hbelow⟩ := SchemaTree.tableAtLine?_eq_some_iff.mp howner
  set ts := b.console.schema.tables with hts
  set toggled : SchemaTree := .loaded (ts.set table t.flipped) with htoggled
  have htables : toggled.tables = ts.set table t.flipped := rfl
  have hlength : table < toggled.tables.length := by rwa [htables, List.length_set]
  have hdispatch : b.dispatch phrases (.toggleTable table) =
      stay { b with
        console := { b.console with schema := toggled }
        treeLine := min b.treeLine (toggled.lines.length - 1) } := by
    have hreduce : b.console.reduce phrases (.toggleTable table) =
        ({ b.console with schema := toggled }, []) := by
      rw [Console.reduce, SchemaTree.toggle_eq_set htable]
    rw [dispatch, hreduce]
    exact congrArg stay (settle_of_view_eq rfl)
  have hline : toggled.lineOfTable? table = some (headerLine ts table) := by
    rw [SchemaTree.lineOfTable?_eq, if_pos hlength, htables, SchemaTree.headerLine_set]
  have hget : toggled.tables[table]? = some t.flipped := by
    rw [htables, List.getElem?_set_self (by rwa [hts] at hlt)]
  rw [toggleTable, howner]
  simp only [hdispatch, stay, hline, hget]
  cases hexpanded : t.expanded with
  | true =>
    -- the table was collapsed, so the selection is moved to its header
    rw [if_neg (by simp [TreeTable.flipped, hexpanded])]
  | false =>
    -- the table was expanded from its only line, which is still in the tree
    have hnext := SchemaTree.headerLine_succ_of_not_expanded htable hexpanded
    have hheader : b.treeLine = headerLine ts table := by omega
    have hin : b.treeLine < toggled.lines.length := by
      rw [hheader]
      exact (List.findIdx?_eq_some_iff_getElem.mp hline).1
    have hmin : min b.treeLine (toggled.lines.length - 1) = headerLine ts table := by omega
    rw [if_pos (by simp [TreeTable.flipped, hexpanded]), hmin]

/-- Enter or the space bar, whatever modifiers are held. -/
def IsTreeKey (p : KeyPress) : Prop := p.key = .enter ∨ p.key = .char ' '

theorem IsTreeKey.isCtrl_eq_false (h : IsTreeKey p) {c : Char} (hc : c ≠ ' ') :
    p.isCtrl c = false := by
  rcases h with hkey | hkey
  · simp [KeyPress.isCtrl, hkey]
  · simp [KeyPress.isCtrl, hkey, Ne.symm hc]

/-- The help popup takes the press while it is open. -/
theorem handleKey_under_help (hhelp : b.help = true) (hp : IsTreeKey p) :
    b.handleKey phrases outside p = b.stay := by
  have hquit : (p.isCtrl 'c' || p.isCtrl 'q') = false := by
    rw [hp.isCtrl_eq_false (by decide), hp.isCtrl_eq_false (by decide), Bool.or_self]
  have hnone : b.command? p = none := by
    rcases hp with hkey | hkey
    · simp [command?, hquit, hkey, hhelp]
    · simp [command?, hquit, hkey, hhelp]
  rw [handleKey, hnone]

/-- Otherwise the press goes to the tree, since it belongs to no shortcut. -/
theorem handleKey_of_isTreeKey (hhelp : b.help = false) (hpanel : b.panel = .schema)
    (hp : IsTreeKey p) : b.handleKey phrases outside p = b.toggleTable phrases := by
  have htoggle : schemaCommand? p = some .toggle := by
    rcases hp with hkey | hkey
    · simp only [schemaCommand?, hkey]
    · simp only [schemaCommand?, hkey]
  have hcommand : b.command? p = some (.schema .toggle) := by
    rw [command?_eq_panel hhelp hp, hpanel, Panel.command?, htoggle, Option.map_some]
  exact handleKey_of_command? hcommand

/-- In a tree with tables the selected line belongs to one of them. -/
theorem SelectionsValid.exists_owner (h : b.SelectionsValid) {ts : List TreeTable}
    (hschema : b.console.schema = .loaded ts) (hts : ts ≠ []) :
    ∃ table t, b.console.schema.tableAtLine? b.treeLine = some table ∧ ts[table]? = some t := by
  have hline := h.treeLine
  have htables : b.console.schema.tables = ts := by rw [hschema, SchemaTree.tables]
  have hpos : 0 < ts.length := List.length_pos_of_ne_nil hts
  have hlength := SchemaTree.length_lines b.console.schema
  obtain ⟨table, howner⟩ : ∃ table, b.console.schema.tableAtLine? b.treeLine = some table := by
    refine Option.ne_none_iff_exists'.mp fun hnone => ?_
    have hpast := SchemaTree.tableAtLine?_eq_none_iff.mp hnone
    rw [htables] at hlength
    omega
  have hlt := (SchemaTree.tableAtLine?_eq_some_iff.mp howner).1
  rw [htables] at hlt
  exact ⟨table, ts[table], howner, List.getElem?_eq_getElem hlt⟩

/-- **Enter acts on the table under the selection, and the selection stays on it.**  In every run that
leads to a tree with tables in the active panel: while no help is open, Enter and the space bar flip the
table that owns the selected line and no other, and the selected line belongs to it afterwards as well.
Where the press expands the table the line stays the same; where it collapses the table the line becomes
that of the header, whichever line of the table was selected.  Nothing else changes, and nothing at all
while the help is open. -/
theorem tree_keeps_cursor (phrases : Phrases) (outside : Outside) (database : String)
    (single : Bool) (suggestions : List String) (endpoint : String) (moves : List Move)
    {b : Workbench} {ts : List TreeTable} {p : KeyPress}
    (hrun : (start database single suggestions endpoint).after phrases moves = b)
    (hpanel : b.panel = .schema) (hschema : b.console.schema = .loaded ts) (hts : ts ≠ [])
    (hp : IsTreeKey p) :
    (b.help = false →
      let step := b.handleKey phrases outside p
      let schema := step.bench.console.schema
      ∃ table t, b.console.schema.tableAtLine? b.treeLine = some table ∧ ts[table]? = some t ∧
        schema = .loaded (ts.set table { t with expanded := !t.expanded }) ∧
        schema.tableAtLine? step.bench.treeLine = some table ∧
        (t.expanded = false → step.bench.treeLine = b.treeLine) ∧
        (t.expanded = true → schema.lineOfTable? table = some step.bench.treeLine) ∧
        step = stay { b with
          console := { b.console with schema }, treeLine := step.bench.treeLine }) ∧
      (b.help = true → b.handleKey phrases outside p = b.stay) := by
  refine ⟨fun hhelp => ?_, fun hhelp => handleKey_under_help hhelp hp⟩
  have hvalid : b.SelectionsValid :=
    hrun ▸ selectionsValid_after phrases database single suggestions endpoint moves
  obtain ⟨table, t, howner, htable⟩ := hvalid.exists_owner hschema hts
  have htables : b.console.schema.tables = ts := by rw [hschema, SchemaTree.tables]
  have hstep : b.handleKey phrases outside p = _ := handleKey_of_isTreeKey hhelp hpanel hp
  rw [toggleTable_eq_stay howner (by rwa [htables]), htables] at hstep
  have hlt : table < (ts.set table t.flipped).length := by
    rw [List.length_set]
    exact (List.getElem?_eq_some_iff.mp htable).1
  have hheader : headerLine (ts.set table t.flipped) table = headerLine ts table :=
    SchemaTree.headerLine_set ts table _
  rw [hstep]
  refine ⟨table, t, howner, htable, rfl, ?_, ?_, ?_, rfl⟩
  · rw [← hheader]
    exact SchemaTree.tableAtLine?_headerLine hlt
  · intro hcollapsed
    obtain ⟨-, hle, hbelow⟩ := SchemaTree.tableAtLine?_eq_some_iff.mp howner
    rw [htables] at hle hbelow
    have hnext := SchemaTree.headerLine_succ_of_not_expanded htable hcollapsed
    show headerLine ts table = b.treeLine
    omega
  · intro _
    rw [← hheader]
    exact (SchemaTree.lineOfTable?_eq _ _).trans (if_pos hlt)

/-- A run to a tree of two tables, with the first header selected. -/
def toTree : List Move :=
  [.act .refreshSchema,
    .act (.schemaLoaded 1 (.ok ⟨[⟨"orders", ["id", "total"]⟩, ⟨"customers", ["name"]⟩]⟩)),
    .event willing (.key ⟨.tab, .none⟩), .event willing (.key ⟨.tab, .none⟩)]

/-- A run on to the last column of the first table. -/
def toTreeColumn : List Move :=
  toTree ++ [.event willing (.key ⟨.enter, .none⟩), .event willing (.key ⟨.down, .none⟩),
    .event willing (.key ⟨.down, .none⟩)]

/-- The space bar on the last column of a table collapses the table and selects its header. -/
theorem collapse_from_last_column :
    let b := (start "sales" false [] "http://localhost").after .english toTreeColumn
    let step := b.handleKey .english willing ⟨.char ' ', .none⟩
    let ts : List TreeTable := [⟨"orders", ["id", "total"], true⟩, ⟨"customers", ["name"], false⟩]
    b.panel = .schema ∧ b.help = false ∧ b.console.schema = .loaded ts ∧ b.treeLine = 2 ∧
      step.bench.treeLine = 0 ∧
      ∃ table t, b.console.schema.tableAtLine? b.treeLine = some table ∧ ts[table]? = some t ∧
        step.bench.console.schema = .loaded (ts.set table { t with expanded := !t.expanded }) ∧
        step.bench.console.schema.tableAtLine? step.bench.treeLine = some table := by
  intro b step ts
  have hpanel : b.panel = .schema := by decide
  have hhelp : b.help = false := by decide
  have hschema : b.console.schema = .loaded ts := by decide
  have hspace : IsTreeKey ⟨.char ' ', .none⟩ := .inr rfl
  obtain ⟨table, t, howner, htable, hflipped, hafter, -⟩ :=
    (tree_keeps_cursor .english willing "sales" false [] "http://localhost" toTreeColumn rfl hpanel
      hschema (List.cons_ne_nil _ _) hspace).1 hhelp
  exact ⟨hpanel, hhelp, hschema, by decide, by decide, table, t, howner, htable, hflipped, hafter⟩

/-- The same run with the help popup opened at its end. -/
def toTreeUnderHelp : List Move := toTree ++ [.event willing (.key ⟨.function 1, .none⟩)]

/-- Under the open help popup Enter leaves the table under the selection collapsed. -/
theorem enter_ignored_under_help :
    let b := (start "sales" false [] "http://localhost").after .english toTreeUnderHelp
    let ts : List TreeTable := [⟨"orders", ["id", "total"], false⟩, ⟨"customers", ["name"], false⟩]
    b.panel = .schema ∧ b.console.schema = .loaded ts ∧
      b.console.schema.tableAtLine? b.treeLine = some 0 ∧
      (b.handleKey .english willing ⟨.enter, .none⟩).bench.console.schema = .loaded ts ∧
      (b.handleKey .english willing ⟨.enter, .none⟩).bench.console.schema ≠
        .loaded (ts.set 0 ⟨"orders", ["id", "total"], true⟩) := by
  decide

end Workbench
end QueryConsole
