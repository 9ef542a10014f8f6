/-
# The lines of the tree, counted

The visible lines of a tree are counted from its top.  The header of a table stands below the headers
of the tables before it and below the columns of those among them that are expanded (`headerLine`);
the lines of the table are those from its header on that are above the header of the next table.

| question | answer |
| --- | --- |
| which line is the header of a table? | `headerLine` (`lineOfTable?_eq`) |
| which table owns a line? | the one whose header is the last at or above it (`tableAtLine?_eq_some_iff`) |

So the two look-ups undo each other, at any mix of expanded and collapsed tables
(`line_numbering_invertible`).
-/

import Mathlib.Order.Monotone.Basic
import QueryConsole.Proofs.Console.Tree

namespace QueryConsole
namespace SchemaTree

variable {index table line : Nat} {t : TreeTable} {ts : List TreeTable} {tree : SchemaTree}

/-! ## Heights -/

/-- The number of columns that show of tables: those of the expanded ones. -/
def shownColumns : List TreeTable → Nat
  | [] => 0
  | t :: ts => (if t.expanded then t.columns.length else 0) + shownColumns ts

/-- The line of a table's header: below the headers of the tables before it, and below their columns
that show. -/
def headerLine (ts : List TreeTable) (table : Nat) : Nat := table + shownColumns (ts.take table)

theorem shownColumns_append (ts us : List TreeTable) :
    shownColumns (ts ++ us) = shownColumns ts + shownColumns us := by
  induction ts with
  | nil => rw [List.nil_append, shownColumns, Nat.zero_add]
  | cons t ts ih => rw [List.cons_append, shownColumns, shownColumns, ih, Nat.add_assoc]

theorem length_tableLines (index : Nat) (t : TreeTable) :
    (tableLines index t).length = 1 + if t.expanded then t.columns.length else 0 := by
  unfold tableLines
  split
  · rw [List.length_cons, List.length_map, Nat.add_comm]
  · rfl

@[simp] theorem headerLine_zero (ts : List TreeTable) : headerLine ts 0 = 0 := by
  simp [headerLine, shownColumns]

/-- A header is as far below the one of the first table as it is in the tree of the other tables, and
the lines of the first table are between. -/
theorem headerLine_succ_cons (index : Nat) (t : TreeTable) (ts : List TreeTable) (table : Nat) :
    headerLine (t :: ts) (table + 1) = (tableLines index t).length + headerLine ts table := by
  rw [headerLine, headerLine, List.take_succ_cons, shownColumns, length_tableLines]
  omega

/-- The end of the lines is where the header of a further table would be. -/
theorem length_linesFrom (index : Nat) (ts : List TreeTable) :
    (linesFrom index ts).length = headerLine ts ts.length := by
  induction ts generalizing index with
  | nil => rfl
  | cons t ts ih => rw [linesFrom, List.length_append, ih, List.length_cons, headerLine_succ_cons]

theorem headerLine_nil (table : Nat) : headerLine [] table = table := by
  simp [headerLine, shownColumns]

/-- **Headers are in the order of the tables**, since every table has one. -/
theorem headerLine_strictMono (ts : List TreeTable) : StrictMono (headerLine ts) := by
  refine strictMono_nat_of_lt_succ ?_
  intro table
  induction ts generalizing table with
  | nil =>
    rw [headerLine_nil, headerLine_nil]
    omega
  | cons t ts ih =>
    cases table with
    | zero =>
      have hlength := length_tableLines 0 t
      rw [headerLine_succ_cons 0, headerLine_zero, headerLine_zero]
      omega
    | succ table =>
      have hlt := ih table
      rw [headerLine_succ_cons 0, headerLine_succ_cons 0]
      omega

/-! ## One line -/

/-- The first line of a table is its header. -/
theorem getElem?_tableLines_eq_header_iff {k : Nat} {u : TreeTable} :
    (tableLines index t)[line]? = some (.header k u) ↔ line = 0 ∧ k = index ∧ u = t := by
  unfold tableLines
  cases line with
  | zero =>
    rw [List.getElem?_cons_zero]
    constructor
    · intro h
      cases h
      exact ⟨rfl, rfl, rfl⟩
    · rintro ⟨-, rfl, rfl⟩
      rfl
  | succ line =>
    rw [List.getElem?_cons_succ]
    have hcolumn : (if t.expanded then t.columns.map (TreeLine.column index) else [])[line]? ≠
        some (.header k u) := by
      split
      · simp
      · simp
    exact iff_of_false hcolumn (by simp)

/-- All lines of a table belong to it. -/
theorem owner_tableLines (h : line < (tableLines index t).length) :
    (tableLines index t)[line]?.map (·.owner) = some index := by
  unfold tableLines at h ⊢
  cases line with
  | zero => rfl
  | succ line =>
    rw [List.getElem?_cons_succ]
    rw [List.length_cons] at h
    split at h
    · rename_i hexpanded
      rw [List.length_map] at h
      have hlt : line < t.columns.length := by omega
      simp [hexpanded, hlt, TreeLine.owner]
    · exact absurd h (by simp)

/-- **Where the headers are:** a line is the header of a table exactly if it is as far down as the
tables before it are high. -/
theorem getElem?_linesFrom_eq_header_iff {k : Nat} :
    (linesFrom index ts)[line]? = some (.header k t) ↔
      ∃ table, k = index + table ∧ ts[table]? = some t ∧ line = headerLine ts table := by
  induction ts generalizing index line with
  | nil => simp [linesFrom]
  | cons u ts ih =>
    rw [linesFrom, List.getElem?_append]
    split
    · rename_i hlt
      rw [getElem?_tableLines_eq_header_iff]
      constructor
      · rintro ⟨rfl, rfl, rfl⟩
        exact ⟨0, rfl, rfl, (headerLine_zero _).symm⟩
      · rintro ⟨table, rfl, htable, hline⟩
        cases table with
        | zero =>
          rw [headerLine_zero] at hline
          exact ⟨hline, rfl, (Option.some.inj htable).symm⟩
        | succ table =>
          rw [headerLine_succ_cons index] at hline
          omega
    · rename_i hge
      rw [ih]
      constructor
      · rintro ⟨table, rfl, htable, hline⟩
        refine ⟨table + 1, by omega, htable, ?_⟩
        rw [headerLine_succ_cons index]
        omega
      · rintro ⟨table, rfl, htable, hline⟩
        cases table with
        | zero =>
          have hlength := length_tableLines index u
          rw [headerLine_zero] at hline
          omega
        | succ table =>
          rw [headerLine_succ_cons index] at hline
          exact ⟨table, by omega, htable, by omega⟩

/-- **Who owns a line:** the table whose header is at or above the line, if the next header, or the
end of the tree, is below it. -/
theorem owner_linesFrom_eq_some_iff :
    (linesFrom index ts)[line]?.map (·.owner) = some (index + table) ↔
      table < ts.length ∧ headerLine ts table ≤ line ∧ line < headerLine ts (table + 1) := by
  induction ts generalizing index line table with
  | nil => simp [linesFrom]
  | cons u ts ih =>
    rw [linesFrom, List.getElem?_append]
    split
    · rename_i hlt
      rw [owner_tableLines hlt]
      cases table with
      | zero =>
        rw [headerLine_succ_cons index, headerLine_zero, headerLine_zero, List.length_cons]
        simp only [Nat.add_zero, true_iff]
        omega
      | succ table =>
        rw [headerLine_succ_cons index]
        refine iff_of_false ?_ ?_
        · intro h
          have hindex := Option.some.inj h
          omega
        · omega
    · rename_i hge
      cases table with
      | zero =>
        rw [headerLine_succ_cons index, headerLine_zero, headerLine_zero]
        refine iff_of_false ?_ ?_
        · intro h
          obtain ⟨l, hl, howner⟩ := Option.map_eq_some_iff.mp h
          have hbounds := owner_of_mem_linesFrom (List.mem_of_getElem? hl)
          omega
        · omega
      | succ table =>
        have hshift : index + (table + 1) = index + 1 + table := by omega
        rw [hshift, ih, headerLine_succ_cons index, headerLine_succ_cons index, List.length_cons]
        omega

/-! ## The look-ups -/

/-- The number of visible lines. -/
theorem length_lines (tree : SchemaTree) :
    tree.lines.length = tree.tables.length + shownColumns tree.tables := by
  rw [lines, length_linesFrom, headerLine, List.take_length]

theorem getElem?_lines_eq_header_iff :
    tree.lines[line]? = some (.header table t) ↔
      tree.tables[table]? = some t ∧ line = headerLine tree.tables table := by
  rw [lines, getElem?_linesFrom_eq_header_iff]
  constructor
  · rintro ⟨k, rfl, h⟩
    rwa [Nat.zero_add]
  · intro h
    exact ⟨table, (Nat.zero_add table).symm, h⟩

/-- Every table has its header in the tree. -/
theorem getElem?_lines_headerLine (h : table < tree.tables.length) :
    tree.lines[headerLine tree.tables table]? = some (.header table tree.tables[table]) :=
  getElem?_lines_eq_header_iff.mpr ⟨List.getElem?_eq_getElem h, rfl⟩

/-- A line is the header of a table if the look-up of headers takes it for one. -/
theorem isHeaderOf_iff {l : TreeLine} : l.isHeaderOf table = true ↔ ∃ t, l = .header table t := by
  cases l with
  | header k t => simp [TreeLine.isHeaderOf]
  | column k name => simp [TreeLine.isHeaderOf]

/-- **The line of a header.** -/
theorem lineOfTable?_eq (tree : SchemaTree) (table : Nat) :
    tree.lineOfTable? table =
      if table < tree.tables.length then some (headerLine tree.tables table) else none := by
  split
  · rename_i hlt
    obtain ⟨hline, hget⟩ := List.getElem?_eq_some_iff.mp (getElem?_lines_headerLine hlt)
    refine List.findIdx?_eq_some_iff_getElem.mpr ⟨hline, ?_, ?_⟩
    · rw [hget]
      exact isHeaderOf_iff.mpr ⟨_, rfl⟩
    · intro j hj hj'
      obtain ⟨t, ht⟩ := isHeaderOf_iff.mp hj'
      have hother := List.getElem?_eq_getElem (Nat.lt_trans hj hline)
      rw [ht, getElem?_lines_eq_header_iff] at hother
      omega
  · rename_i hge
    cases h : tree.lineOfTable? table with
    | none => rfl
    | some line => exact absurd (lt_length_of_lineOfTable? h) hge

/-- **The owner of a line.** -/
theorem tableAtLine?_eq_some_iff :
    tree.tableAtLine? line = some table ↔
      table < tree.tables.length ∧ headerLine tree.tables table ≤ line ∧
        line < headerLine tree.tables (table + 1) := by
  have howner : tree.tableAtLine? line = some (0 + table) ↔ _ := owner_linesFrom_eq_some_iff
  rwa [Nat.zero_add] at howner

/-- A line without an owner is below the tree. -/
theorem tableAtLine?_eq_none_iff :
    tree.tableAtLine? line = none ↔ tree.lines.length ≤ line := by
  rw [tableAtLine?, Option.map_eq_none_iff, List.getElem?_eq_none_iff]

/-- The first line below a table: the header of the next one, or the end of the tree. -/
theorem lineOfTable?_succ_getD (h : table < tree.tables.length) :
    (tree.lineOfTable? (table + 1)).getD tree.lines.length =
      headerLine tree.tables (table + 1) := by
  rw [lineOfTable?_eq]
  split
  · rfl
  · have hlast : table + 1 = tree.tables.length := by omega
    rw [Option.getD_none, lines, length_linesFrom, hlast]

/-- The header of a table belongs to the table. -/
theorem tableAtLine?_headerLine (h : table < tree.tables.length) :
    tree.tableAtLine? (headerLine tree.tables table) = some table :=
  tableAtLine?_eq_some_iff.mpr ⟨h, Nat.le_refl _, headerLine_strictMono _ (Nat.lt_succ_self table)⟩

/-- The nearest header at or above a visible line: no line between is a header. -/
structure NearestHeader (tree : SchemaTree) (line header : Nat) : Prop where
  le : header ≤ line
  lt_length : line < tree.lines.length
  isHeader : ∃ table t, tree.lines[header]? = some (.header table t)
  nearest : ∀ other table t, tree.lines[other]? = some (.header table t) → other ≤ line →
    other ≤ header

/-- **The header of the owner is the nearest one.** -/
theorem bind_tableAtLine?_eq_some_iff {header : Nat} :
    (tree.tableAtLine? line).bind tree.lineOfTable? = some header ↔
      tree.NearestHeader line header := by
  have hmono := headerLine_strictMono tree.tables
  constructor
  · intro h
    obtain ⟨table, howner, hheader⟩ := Option.bind_eq_some_iff.mp h
    obtain ⟨hlt, hle, hbelow⟩ := tableAtLine?_eq_some_iff.mp howner
    rw [lineOfTable?_eq, if_pos hlt] at hheader
    obtain rfl := Option.some.inj hheader
    have hlength : line < tree.lines.length := by
      rcases Nat.lt_or_ge line tree.lines.length with hline | hline
      · exact hline
      · rw [tableAtLine?_eq_none_iff.mpr hline] at howner
        cases howner
    refine ⟨hle, hlength, ⟨table, _, getElem?_lines_headerLine hlt⟩, ?_⟩
    intro other k t hother hothers
    obtain ⟨-, rfl⟩ := getElem?_lines_eq_header_iff.mp hother
    -- a header at or above the line is above the header of the next table
    have hk : k < table + 1 := hmono.lt_iff_lt.mp (Nat.lt_of_le_of_lt hothers hbelow)
    exact hmono.monotone (Nat.le_of_lt_succ hk)
  · rintro ⟨hle, hlength, ⟨k, t, hheader⟩, hnearest⟩
    obtain ⟨hk, rfl⟩ := getElem?_lines_eq_header_iff.mp hheader
    obtain ⟨table, howner⟩ : ∃ table, tree.tableAtLine? line = some table := by
      refine Option.ne_none_iff_exists'.mp fun hnone => ?_
      exact absurd (tableAtLine?_eq_none_iff.mp hnone) (Nat.not_le.mpr hlength)
    obtain ⟨hlt, habove, hbelow⟩ := tableAtLine?_eq_some_iff.mp howner
    have hupper : k < table + 1 := hmono.lt_iff_lt.mp (Nat.lt_of_le_of_lt hle hbelow)
    have hlower : table ≤ k :=
      hmono.le_iff_le.mp (hnearest _ table _ (getElem?_lines_headerLine hlt) habove)
    have hsame : k = table := by omega
    rw [howner, Option.bind_some, lineOfTable?_eq, if_pos hlt, hsame]

/-- **The numbering of the lines is exact, and can be inverted.**  For every tree, whatever is loaded
and whatever is expanded: there is a line for every table and for every column of an expanded one; the
header of a table is below those of the tables before it and below their columns that show; a line
belongs to the table whose header is at or above it with the next header, or the end of the tree, below
it; lines past the end belong to none.  So the header of a table belongs to that table, and the header
of the table that owns a line is the nearest header at or above the line. -/
theorem line_numbering_invertible (tree : SchemaTree) :
    tree.lines.length = tree.tables.length + shownColumns tree.tables ∧
      (∀ table, tree.lineOfTable? table =
        if table < tree.tables.length then some (table + shownColumns (tree.tables.take table))
        else none) ∧
      (∀ line table, tree.tableAtLine? line = some table ↔
        ∃ header, tree.lineOfTable? table = some header ∧ header ≤ line ∧
          line < (tree.lineOfTable? (table + 1)).getD tree.lines.length) ∧
      (∀ line, tree.tableAtLine? line = none ↔ tree.lines.length ≤ line) ∧
      (∀ table, (tree.lineOfTable? table).bind tree.tableAtLine? =
        if table < tree.tables.length then some table else none) ∧
      ∀ line header, (tree.tableAtLine? line).bind tree.lineOfTable? = some header ↔
        tree.NearestHeader line header := by
  refine ⟨length_lines tree, lineOfTable?_eq tree, ?_, fun line => tableAtLine?_eq_none_iff, ?_,
    fun line header => bind_tableAtLine?_eq_some_iff⟩
  · intro line table
    rw [tableAtLine?_eq_some_iff]
    constructor
    · rintro ⟨hlt, hle, hbelow⟩
      refine ⟨headerLine tree.tables table, ?_, hle, ?_⟩
      · rw [lineOfTable?_eq, if_pos hlt]
      · rwa [lineOfTable?_succ_getD hlt]
    · rintro ⟨header, hheader, hle, hbelow⟩
      have hlt := lt_length_of_lineOfTable? hheader
      rw [lineOfTable?_eq, if_pos hlt] at hheader
      obtain rfl := Option.some.inj hheader
      rw [lineOfTable?_succ_getD hlt] at hbelow
      exact ⟨hlt, hle, hbelow⟩
  · intro table
    rw [lineOfTable?_eq]
    split
    · rename_i hlt
      exact tableAtLine?_headerLine hlt
    · rfl

/-- An expanded table without columns has one line, as a collapsed one has. -/
example :
    let tree : SchemaTree := .loaded
      [⟨"orders", ["id", "total"], true⟩, ⟨"empty", [], true⟩, ⟨"customers", ["id"], false⟩]
    (List.range 6).map tree.tableAtLine? =
      [some 0, some 0, some 0, some 1, some 2, none] := by
  decide

end SchemaTree
end QueryConsole
