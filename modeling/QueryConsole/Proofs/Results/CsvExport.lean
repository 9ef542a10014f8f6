/-
# The CSV export of a table

The lines of a table have a cell for each column, so the records that are exported are all as long as the
first.  A writer that insists on this (`Csv.checkedDocument`) writes them all, and what it writes is read
back cell by cell (`csv_export_reads_back`): a record of the column keys, and one of cell texts for every
row.  A table of one column is no exception: its empty cells are not written as empty lines, which many
readers pass over.
-/

import QueryConsole.Proofs.Results.Csv
import QueryConsole.Proofs.Results.Table

namespace QueryConsole

namespace Csv

/-! ## Records of equal lengths -/

/-- A record that has not as many fields as the first. -/
structure UnequalLengths where
  expected : Nat
  found : Nat
  deriving DecidableEq, Repr

/-- The text of records that have to have the number of fields that is expected; without one the first
record decides. -/
def checkedFrom (expected : Option Nat) :
    List (List (List Char)) → Except UnequalLengths (List Char)
  | [] => .ok []
  | fields :: records =>
    match expected.filter (· ≠ fields.length) with
    | some n => .error ⟨n, fields.length⟩
    | none => (checkedFrom (some (expected.getD fields.length)) records).map (record fields ++ ·)

/-- The document of records that have to be equally long. -/
def checkedDocument (records : List (List (List Char))) : Except UnequalLengths (List Char) :=
  checkedFrom none records

/-- A record of the expected length is written in front of the others. -/
theorem checkedFrom_cons {expected : Option Nat} {fields : List (List Char)}
    (h : ∀ n ∈ expected, fields.length = n) (records : List (List (List Char))) :
    checkedFrom expected (fields :: records) =
      (checkedFrom (some fields.length) records).map (record fields ++ ·) := by
  have hfilter : expected.filter (· ≠ fields.length) = none := by
    rw [Option.filter_eq_none_iff]
    intro n hn
    simp [h n hn]
  have hnext : expected.getD fields.length = fields.length := by
    cases expected with
    | none => rfl
    | some n => exact (h n rfl).symm
  rw [checkedFrom, hfilter, hnext]

/-- **Records are written exactly if they are as long as expected.** -/
theorem checkedFrom_eq_ok_iff {n : Nat} {records : List (List (List Char))} {text : List Char} :
    checkedFrom (some n) records = .ok text ↔
      (∀ fields ∈ records, fields.length = n) ∧ text = document records := by
  induction records generalizing text with
  | nil =>
    constructor
    · intro h
      exact ⟨List.forall_mem_nil _, (Except.ok.inj h).symm⟩
    · rintro ⟨-, rfl⟩
      rfl
  | cons fields records ih =>
    rw [List.forall_mem_cons]
    by_cases hlength : fields.length = n
    · subst hlength
      rw [checkedFrom_cons fun m hm => Option.some.inj hm]
      constructor
      · intro h
        cases hrest : checkedFrom (some fields.length) records with
        | error e => rw [hrest] at h; cases h
        | ok rest =>
          rw [hrest] at h
          obtain ⟨hall, rfl⟩ := ih.mp hrest
          exact ⟨⟨rfl, hall⟩, (Except.ok.inj h).symm⟩
      · rintro ⟨⟨-, hall⟩, rfl⟩
        rw [ih.mpr ⟨hall, rfl⟩]
        rfl
    · have hfilter : (some n).filter (· ≠ fields.length) = some n := by
        simp [Ne.symm hlength]
      rw [checkedFrom, hfilter]
      constructor
      · intro h
        cases h
      · rintro ⟨⟨hfields, -⟩, -⟩
        exact absurd hfields hlength

/-- Records that are equally long are written. -/
theorem checkedDocument_of_length {n : Nat} {records : List (List (List Char))}
    (h : ∀ fields ∈ records, fields.length = n) :
    checkedDocument records = .ok (document records) := by
  cases records with
  | nil => rfl
  | cons fields records =>
    obtain ⟨hfields, hrecords⟩ := List.forall_mem_cons.mp h
    subst hfields
    have hnone : ∀ m ∈ (none : Option Nat), fields.length = m := fun m hm => nomatch hm
    rw [checkedDocument, checkedFrom_cons hnone, checkedFrom_eq_ok_iff.mpr ⟨hrecords, rfl⟩]
    rfl

end Csv

namespace ResultTable

/-! ## Tables -/

/-- The texts of the cells, line by line. -/
def lines (t : ResultTable) : List (List (List Char)) :=
  t.rows.map fun row => row.map fun cell => (Cell.shown cell).toList

theorem records_eq (t : ResultTable) : t.records = t.columns.map String.toList :: t.lines := rfl

theorem cellText?_eq (t : ResultTable) (row column : Nat) :
    t.cellText? row column = (t.lines[row]?.bind (·[column]?)).map String.ofList := by
  rw [cellText?, lines, List.getElem?_map]
  cases t.rows[row]? with
  | none => rfl
  | some cells =>
    simp only [Option.map_some, Option.bind_some, List.getElem?_map, Option.map_map]
    congr 1
    funext cell
    exact String.ofList_toList.symm

/-- The records of a table are as long as its list of columns. -/
theorem WellFormed.length_of_mem_records {t : ResultTable} (h : t.WellFormed) :
    ∀ fields ∈ t.records, fields.length = t.columns.length := by
  rw [records_eq, List.forall_mem_cons]
  refine ⟨List.length_map _, fun line hline => ?_⟩
  obtain ⟨row, hrow, rfl⟩ := List.mem_map.mp hline
  rw [List.length_map, h.rows row hrow]

/-- **The CSV export is read back cell by cell.**  For all rows, of which the first has a column, the
records of the table are equally long, so that all of them are written.  What is written is a document
of one record more than there are rows and of no other records, whatever an empty line counts for: first
the keys of the columns, then for every row the texts of its cells. -/
theorem csv_export_reads_back (phrases : Phrases) (first : Row) (others : List Row)
    (hcolumns : first.columns ≠ []) :
    let table := ofRows phrases (first :: others)
    Csv.checkedDocument table.records = .ok table.toCsv.toList ∧
      ∃ lines : List (List (List Char)),
        (∀ skips, Csv.read skips table.toCsv.toList =
          some (first.columns.map String.toList :: lines)) ∧
        (∀ skips records, Csv.IsDocument skips table.toCsv.toList records ↔
          records = first.columns.map String.toList :: lines) ∧
        lines.length = (first :: others).length ∧
        (∀ line ∈ lines, line.length = first.columns.length) ∧
        ∀ i j, table.cellText? i j = (lines[i]?.bind (·[j]?)).map String.ofList := by
  intro table
  have hlength := (wellFormed_ofRows phrases (first :: others)).length_of_mem_records
  have htext : table.toCsv.toList = Csv.document table.records := String.toList_ofList
  -- a record without fields would be an empty line
  have hne : ∀ fields ∈ table.records, fields ≠ [] := by
    rintro fields hfields rfl
    exact hcolumns (List.length_eq_zero_iff.mp (hlength [] hfields).symm)
  have hdocument := fun skips => Csv.isDocument_document skips hne
  rw [htext]
  refine ⟨Csv.checkedDocument_of_length hlength, table.lines, fun skips => ?_, fun skips records => ?_,
    ?_, fun line hline => ?_, cellText?_eq table⟩
  · exact Csv.read_of_isDocument (hdocument skips)
  · exact ⟨fun h => h.unique (hdocument skips), fun h => h ▸ hdocument skips⟩
  · exact (List.length_map _).trans (List.length_map _)
  · exact hlength line (List.mem_cons_of_mem _ hline)

/-- One column, whose key has a comma and quotes in it: an empty text, a row without the key, a line end
between quotes, and a row with other keys only. -/
theorem csv_of_one_column :
    let first : Row := ⟨[("note, \"raw\"", .text "")]⟩
    let others : List Row := [⟨[]⟩, ⟨[("note, \"raw\"", .text "\"a\"\r\nb")]⟩, ⟨[("id", .int 1)]⟩]
    let table := ofRows .english (first :: others)
    first.columns ≠ [] ∧ Csv.checkedDocument table.records = .ok table.toCsv.toList ∧
      ∃ lines : List (List (List Char)),
        (∀ skips, Csv.read skips table.toCsv.toList =
          some (first.columns.map String.toList :: lines)) ∧
        (∀ skips records, Csv.IsDocument skips table.toCsv.toList records ↔
          records = first.columns.map String.toList :: lines) ∧
        lines.length = (first :: others).length ∧
        (∀ line ∈ lines, line.length = first.columns.length) ∧
        ∀ i j, table.cellText? i j = (lines[i]?.bind (·[j]?)).map String.ofList := by
  intro first others table
  have hcolumns : first.columns ≠ [] := List.cons_ne_nil _ _
  exact ⟨hcolumns, csv_export_reads_back .english first others hcolumns⟩

end ResultTable
end QueryConsole
