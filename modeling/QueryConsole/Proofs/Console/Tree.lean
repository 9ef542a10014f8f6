/-
# Tables and lines of the tree

The visible lines of a tree belong to its tables, whatever is expanded: a line names the table that
owns it by an index, and that table exists.  Expanding and collapsing leaves the tables loaded, and no
tree becomes loaded by it.
-/

import QueryConsole.Console.SchemaTree

namespace QueryConsole
namespace SchemaTree

/-- The owners of the lines of a table and of the tables after it are among these tables. -/
theorem owner_of_mem_linesFrom {index : Nat} {ts : List TreeTable} {line : TreeLine}
    (h : line ∈ linesFrom index ts) : index ≤ line.owner ∧ line.owner < index + ts.length := by
  induction ts generalizing index with
  | nil => exact absurd h List.not_mem_nil
  | cons t ts ih =>
    rw [List.length_cons]
    rcases List.mem_append.1 h with htable | hrest
    · have howner : line.owner = index := by
        rcases List.mem_cons.1 htable with rfl | hcolumn
        · rfl
        · split at hcolumn
          · obtain ⟨name, _, rfl⟩ := List.mem_map.1 hcolumn
            rfl
          · exact absurd hcolumn List.not_mem_nil
      omega
    · have hbounds := ih hrest
      omega

/-- A table whose header has a line is a table of the tree. -/
theorem lt_length_of_lineOfTable? {tree : SchemaTree} {table line : Nat}
    (h : tree.lineOfTable? table = some line) : table < tree.tables.length := by
  obtain ⟨hlt, hheader, -⟩ := List.findIdx?_eq_some_iff_getElem.1 h
  have howner := (owner_of_mem_linesFrom (List.getElem_mem hlt)).2
  rw [Nat.zero_add] at howner
  cases hl : tree.lines[line] with
  | header index t =>
    rw [hl] at hheader howner
    exact (of_decide_eq_true hheader) ▸ howner
  | column index name =>
    rw [hl] at hheader
    cases hheader

/-- A tree that waits after a table is expanded or collapsed has waited before. -/
theorem loading_of_toggle_eq {tree : SchemaTree} {index : Nat}
    (h : tree.toggle index = .loading) : tree = .loading := by
  cases tree with
  | loading => rfl
  | failed => cases h
  | loaded ts =>
    rw [toggle_loaded] at h
    cases h

/-- A tree that is loaded after a table is expanded or collapsed was loaded before. -/
theorem loaded_of_toggle_eq {tree : SchemaTree} {index : Nat} {ts : List TreeTable}
    (h : tree.toggle index = .loaded ts) : ∃ earlier, tree = .loaded earlier := by
  cases tree with
  | loading => cases h
  | failed => cases h
  | loaded earlier => exact ⟨earlier, rfl⟩

end SchemaTree
end QueryConsole
