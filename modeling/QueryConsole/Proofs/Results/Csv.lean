/-
# CSV documents are read back

A CSV document consists of records, each with a line end behind it that the last one may lack, and a
record of fields between commas:

| part | text |
| --- | --- |
| field | bare characters, or characters between quotes, with quotes among them written twice |
| bare character | any but comma, quote, line feed and carriage return |
| line end | a line feed, or a carriage return and a line feed |

This leaves open what an empty line is: a record of one empty field, or nothing at all.  Readers take
it for either, so the grammar (`IsDocument`) and the reader (`read`) come in both sorts.

The reader finds the records of every document (`read_of_isDocument`), so that a text is a document of
at most one list of records.  The document that is written for records is one of just these records
(`isDocument_document`), whatever is taken for an empty line.
-/

import QueryConsole.Results.Export

namespace QueryConsole
namespace Csv

/-! ## The grammar -/

/-- The text of characters between quotes. -/
inductive IsQuoted : (text chars : List Char) → Prop where
  | nil : IsQuoted [] []
  | char {c : Char} {text chars : List Char} (hc : c ≠ '"') (h : IsQuoted text chars) :
      IsQuoted (c :: text) (c :: chars)
  | quote {text chars : List Char} (h : IsQuoted text chars) :
      IsQuoted ('"' :: '"' :: text) ('"' :: chars)

/-- The text of a field. -/
inductive IsField : (text field : List Char) → Prop where
  | bare {chars : List Char} (h : ∀ c ∈ chars, isSpecial c = false) : IsField chars chars
  | quoted {text chars : List Char} (h : IsQuoted text chars) :
      IsField ('"' :: (text ++ ['"'])) chars

/-- The text of a record, without its line end. -/
inductive IsRecord : (text : List Char) → (fields : List (List Char)) → Prop where
  | last {text field : List Char} (h : IsField text field) : IsRecord text [field]
  | more {text field text' : List Char} {fields : List (List Char)} (h : IsField text field)
      (hs : IsRecord text' fields) : IsRecord (text ++ ',' :: text') (field :: fields)

/-- The text of a line end. -/
inductive IsLineEnd : List Char → Prop where
  | feed : IsLineEnd ['\n']
  | returnFeed : IsLineEnd ['\r', '\n']

/-- The text of a document; empty lines are passed over, or are records of one empty field. -/
inductive IsDocument (skips : Bool) : (text : List Char) → (records : List (List (List Char))) → Prop
    where
  | nil : IsDocument skips [] []
  | last {text : List Char} {record : List (List Char)} (h : IsRecord text record)
      (hne : text ≠ []) : IsDocument skips text [record]
  | record {text lineEnd text' : List Char} {record : List (List Char)}
      {records : List (List (List Char))} (h : IsRecord text record)
      (hne : skips = true → text ≠ []) (hend : IsLineEnd lineEnd)
      (hs : IsDocument skips text' records) :
      IsDocument skips (text ++ (lineEnd ++ text')) (record :: records)
  | emptyLine {lineEnd text' : List Char} {records : List (List (List Char))}
      (hskips : skips = true) (hend : IsLineEnd lineEnd) (hs : IsDocument skips text' records) :
      IsDocument skips (lineEnd ++ text') records

/-! ## The reader -/

/-- The characters up to the quote that ends a field, and what follows it. -/
def quotedAt : List Char → Option (List Char × List Char)
  | [] => none
  | '"' :: '"' :: s => (quotedAt s).map fun (chars, rest) => ('"' :: chars, rest)
  | c :: s =>
    if c = '"' then some ([], s) else (quotedAt s).map fun (chars, rest) => (c :: chars, rest)

/-- A field and what follows it. -/
def fieldAt : List Char → Option (List Char × List Char)
  | '"' :: s => quotedAt s
  | s => some (s.takeWhile (!isSpecial ·), s.dropWhile (!isSpecial ·))

theorem length_le_of_quotedAt {s chars rest : List Char} (h : quotedAt s = some (chars, rest)) :
    rest.length ≤ s.length := by
  fun_induction quotedAt s generalizing chars with
  | case1 => cases h
  | case2 s ih =>
    obtain ⟨⟨chars', rest'⟩, hs, heq⟩ := Option.map_eq_some_iff.mp h
    obtain ⟨-, rfl⟩ := Prod.mk.inj heq
    have := ih hs
    simp only [List.length_cons]
    omega
  | case3 s =>
    obtain ⟨-, rfl⟩ := Prod.mk.inj (Option.some.inj h)
    simp
  | case4 c s _ hc ih =>
    obtain ⟨⟨chars', rest'⟩, hs, heq⟩ := Option.map_eq_some_iff.mp h
    obtain ⟨-, rfl⟩ := Prod.mk.inj heq
    have := ih hs
    simp only [List.length_cons]
    omega

theorem length_le_of_fieldAt {s field rest : List Char} (h : fieldAt s = some (field, rest)) :
    rest.length ≤ s.length := by
  unfold fieldAt at h
  split at h
  · have := length_le_of_quotedAt h
    simp only [List.length_cons]
    omega
  · obtain ⟨-, rfl⟩ := Prod.mk.inj (Option.some.inj h)
    exact (List.dropWhile_sublist _).length_le

/-- The fields of a record and what follows the last one. -/
def recordAt (s : List Char) : Option (List (List Char) × List Char) :=
  match h : fieldAt s with
  | none => none
  | some (field, ',' :: rest) =>
    have := length_le_of_fieldAt h
    (recordAt rest).map fun (fields, rest) => (field :: fields, rest)
  | some (field, rest) => some ([field], rest)
termination_by s.length
decreasing_by
  simp only [List.length_cons] at this
  omega

theorem recordAt_of_comma {s field rest : List Char} (h : fieldAt s = some (field, ',' :: rest)) :
    recordAt s = (recordAt rest).map fun (fields, rest) => (field :: fields, rest) := by
  rw [recordAt]
  split
  · next heq => rw [h] at heq; cases heq
  · next heq => rw [h] at heq; cases heq; rfl
  · next hcomma heq =>
    rw [h] at heq
    obtain ⟨-, rfl⟩ := Prod.mk.inj (Option.some.inj heq)
    exact absurd rfl (hcomma rest)

theorem recordAt_of_ne_comma {s field rest : List Char} (h : fieldAt s = some (field, rest))
    (hrest : ∀ rest', rest ≠ ',' :: rest') : recordAt s = some ([field], rest) := by
  rw [recordAt]
  split
  · next heq => rw [h] at heq; cases heq
  · next heq =>
    rw [h] at heq
    obtain ⟨-, rfl⟩ := Prod.mk.inj (Option.some.inj heq)
    exact absurd rfl (hrest _)
  · next heq => rw [h] at heq; cases heq; rfl

theorem length_le_of_recordAt {s rest : List Char} {record : List (List Char)}
    (h : recordAt s = some (record, rest)) : rest.length ≤ s.length := by
  fun_induction recordAt s generalizing record with
  | case1 => cases h
  | case2 s field after hfield hshorter ih =>
    obtain ⟨⟨record', rest'⟩, hs, heq⟩ := Option.map_eq_some_iff.mp h
    obtain ⟨-, rfl⟩ := Prod.mk.inj heq
    have := ih hs
    simp only [List.length_cons] at hshorter
    omega
  | case3 s field after _ hfield =>
    obtain ⟨-, rfl⟩ := Prod.mk.inj (Option.some.inj h)
    exact length_le_of_fieldAt hfield

/-- What follows a line end. -/
def lineEnd? : List Char → Option (List Char)
  | '\n' :: s => some s
  | '\r' :: '\n' :: s => some s
  | _ => none

theorem length_lt_of_lineEnd? {s rest : List Char} (h : lineEnd? s = some rest) :
    rest.length < s.length := by
  unfold lineEnd? at h
  split at h
  · obtain rfl := Option.some.inj h
    exact Nat.lt_succ_self _
  · obtain rfl := Option.some.inj h
    exact Nat.lt_add_of_pos_right Nat.two_pos
  · cases h

/-- The record in the next line, or nothing where an empty line is passed over; and what follows the
line. -/
def lineAt (skips : Bool) (s : List Char) : Option (Option (List (List Char)) × List Char) :=
  match (lineEnd? s).filter fun _ => skips with
  | some rest => some (none, rest)
  | none =>
    match recordAt s with
    | none => none
    | some (record, []) => some (some record, [])
    | some (record, c :: after) => (lineEnd? (c :: after)).map fun rest => (some record, rest)

theorem length_lt_of_lineAt {skips : Bool} {s rest : List Char} {record : Option (List (List Char))}
    (hne : s ≠ []) (h : lineAt skips s = some (record, rest)) : rest.length < s.length := by
  unfold lineAt at h
  split at h
  · next hline =>
    obtain ⟨-, rfl⟩ := Prod.mk.inj (Option.some.inj h)
    exact length_lt_of_lineEnd? (Option.filter_eq_some_iff.mp hline).1
  · split at h
    · cases h
    · obtain ⟨-, rfl⟩ := Prod.mk.inj (Option.some.inj h)
      exact List.length_pos_iff.mpr hne
    · next hrecord =>
      obtain ⟨rest', hend, heq⟩ := Option.map_eq_some_iff.mp h
      obtain ⟨-, rfl⟩ := Prod.mk.inj heq
      exact Nat.lt_of_lt_of_le (length_lt_of_lineEnd? hend) (length_le_of_recordAt hrecord)

/-- The records of a text; none if the text is no document. -/
def read (skips : Bool) (s : List Char) : Option (List (List (List Char))) :=
  if hne : s = [] then some []
  else
    match h : lineAt skips s with
    | none => none
    | some (record, rest) =>
      have := length_lt_of_lineAt hne h
      (read skips rest).map (record.toList ++ ·)
termination_by s.length

theorem read_nil (skips : Bool) : read skips [] = some [] := by
  rw [read, dif_pos rfl]

theorem read_of_lineAt {skips : Bool} {s rest : List Char} {record : Option (List (List Char))}
    (hne : s ≠ []) (h : lineAt skips s = some (record, rest)) :
    read skips s = (read skips rest).map (record.toList ++ ·) := by
  rw [read, dif_neg hne]
  split
  · next heq => rw [h] at heq; cases heq
  · next heq => rw [h] at heq; cases heq; rfl

/-! ## Documents are read -/

/-- What may follow a field: a comma, a line end, or nothing. -/
def EndsField (s : List Char) : Prop := ∀ c ∈ s.head?, c = ',' ∨ c = '\n' ∨ c = '\r'

theorem quotedAt_append {text chars rest : List Char} (h : IsQuoted text chars)
    (hrest : EndsField rest) : quotedAt (text ++ '"' :: rest) = some (chars, rest) := by
  induction h with
  | nil =>
    -- a quote behind the closing one would make the two of them a character of the field
    have hquote : ∀ s, rest ≠ '"' :: s := by
      rintro s rfl
      have := hrest '"' rfl
      revert this
      decide
    rw [List.nil_append, quotedAt]
    · rfl
    · exact fun s _ => hquote s
  | char hc _ ih =>
    rw [List.cons_append, quotedAt, ih, if_neg hc]
    · rfl
    · exact fun s h => absurd h hc
  | quote _ ih =>
    rw [List.cons_append, List.cons_append, quotedAt, ih]
    rfl

/-- Bare characters are all the characters up to a special one. -/
theorem fieldAt_bare {chars rest : List Char} (h : ∀ c ∈ chars, isSpecial c = false)
    (hrest : EndsField rest) : fieldAt (chars ++ rest) = some (chars, rest) := by
  have hquote : ∀ s, chars ++ rest ≠ '"' :: s := by
    intro s hs
    cases chars with
    | nil =>
      rw [List.nil_append] at hs
      have := hrest '"' (by rw [hs]; rfl)
      revert this
      decide
    | cons c chars =>
      obtain rfl := (List.cons.inj hs).1
      exact Bool.noConfusion (h '"' List.mem_cons_self)
  have hstop : rest.dropWhile (!isSpecial ·) = rest ∧ rest.takeWhile (!isSpecial ·) = [] := by
    cases rest with
    | nil => exact ⟨rfl, rfl⟩
    | cons c rest =>
      have hc : (!isSpecial c) = false := by
        obtain rfl | rfl | rfl := hrest c rfl <;> rfl
      exact ⟨List.dropWhile_cons_of_neg (by rw [hc]; decide),
        List.takeWhile_cons_of_neg (by rw [hc]; decide)⟩
  have hall : ∀ c ∈ chars, (!isSpecial c) = true := fun c hc => by rw [h c hc]; rfl
  rw [fieldAt, List.takeWhile_append_of_pos hall, List.dropWhile_append_of_pos hall, hstop.1, hstop.2,
    List.append_nil]
  exact hquote

/-- **A field is found** in front of what may follow it. -/
theorem fieldAt_append {text field rest : List Char} (h : IsField text field)
    (hrest : EndsField rest) : fieldAt (text ++ rest) = some (field, rest) := by
  cases h with
  | bare h => exact fieldAt_bare h hrest
  | quoted h =>
    rw [List.cons_append, List.append_assoc, List.singleton_append, fieldAt]
    exact quotedAt_append h hrest

/-- What may follow a record: a line end, or nothing. -/
def EndsRecord (s : List Char) : Prop := ∀ c ∈ s.head?, c = '\n' ∨ c = '\r'

theorem IsLineEnd.endsRecord {lineEnd : List Char} (h : IsLineEnd lineEnd) (s : List Char) :
    EndsRecord (lineEnd ++ s) := by
  intro c hc
  cases h with
  | feed => exact .inl (Option.some.inj hc).symm
  | returnFeed => exact .inr (Option.some.inj hc).symm

/-- **A record is found** in front of what may follow it. -/
theorem recordAt_append {text rest : List Char} {record : List (List Char)} (h : IsRecord text record)
    (hrest : EndsRecord rest) : recordAt (text ++ rest) = some (record, rest) := by
  induction h with
  | last h =>
    refine recordAt_of_ne_comma (fieldAt_append h fun c hc => .inr (hrest c hc)) ?_
    rintro rest' rfl
    obtain h | h := hrest ',' rfl <;> exact absurd h (by decide)
  | @more text field text' fields h _ ih =>
    have hfield : fieldAt (text ++ ',' :: (text' ++ rest)) = some (field, ',' :: (text' ++ rest)) :=
      fieldAt_append h fun c hc => .inl (Option.some.inj hc).symm
    rw [List.append_assoc, List.cons_append, recordAt_of_comma hfield, ih]
    rfl

theorem IsLineEnd.lineEnd?_append {lineEnd : List Char} (h : IsLineEnd lineEnd) (s : List Char) :
    lineEnd? (lineEnd ++ s) = some s := by
  cases h <;> rfl

theorem lineEnd?_cons {c : Char} (h : c ≠ '\n' ∧ c ≠ '\r') (s : List Char) :
    lineEnd? (c :: s) = none := by
  unfold lineEnd?
  split
  · next heq => exact absurd (List.cons.inj heq).1 h.1
  · next heq => exact absurd (List.cons.inj heq).1 h.2
  · rfl

theorem IsField.head_ne {text field : List Char} (h : IsField text field) :
    ∀ c ∈ text.head?, c ≠ '\n' ∧ c ≠ '\r' := by
  intro c hc
  cases h with
  | bare h =>
    have hbare := h c (List.mem_of_mem_head? hc)
    constructor <;> rintro rfl <;> exact Bool.noConfusion hbare
  | quoted _ =>
    obtain rfl := Option.some.inj hc
    decide

/-- The text of a record does not start with a line end. -/
theorem IsRecord.head_ne {text : List Char} {record : List (List Char)} (h : IsRecord text record) :
    ∀ c ∈ text.head?, c ≠ '\n' ∧ c ≠ '\r' := by
  cases h with
  | last h => exact h.head_ne
  | @more text _ _ _ h _ =>
    cases text with
    | nil =>
      intro c hc
      obtain rfl := Option.some.inj hc
      decide
    | cons _ _ => exact h.head_ne

theorem IsRecord.lineEnd?_append {text : List Char} {record : List (List Char)}
    (h : IsRecord text record) (hne : text ≠ []) (rest : List Char) :
    lineEnd? (text ++ rest) = none := by
  cases text with
  | nil => exact absurd rfl hne
  | cons c _ => exact lineEnd?_cons (h.head_ne c rfl) _

variable {skips : Bool}

/-- An empty line that counts for nothing is passed over. -/
theorem lineAt_of_emptyLine {s rest : List Char} (h : lineEnd? s = some rest) :
    lineAt true s = some (none, rest) := by
  rw [lineAt, h]
  rfl

/-- Any other line is a record. -/
theorem lineAt_of_record {s after : List Char} {record : List (List Char)}
    (hline : skips = true → lineEnd? s = none) (hrecord : recordAt s = some (record, after)) :
    lineAt skips s =
      if after = [] then some (some record, [])
      else (lineEnd? after).map fun rest => (some record, rest) := by
  have hfilter : (lineEnd? s).filter (fun _ => skips) = none := by
    cases skips with
    | false => cases lineEnd? s <;> rfl
    | true => rw [hline rfl]; rfl
  rw [lineAt, hfilter]
  dsimp only
  rw [hrecord]
  cases after <;> rfl

/-- **The records of every document are read.** -/
theorem read_of_isDocument {text : List Char} {records : List (List (List Char))}
    (h : IsDocument skips text records) : read skips text = some records := by
  induction h with
  | nil => exact read_nil skips
  | @last text record h hne =>
    have hline : lineEnd? text = none := by
      have := h.lineEnd?_append hne []
      rwa [List.append_nil] at this
    have hrecord : recordAt text = some (record, []) := by
      have : recordAt (text ++ []) = some (record, []) := recordAt_append h nofun
      rwa [List.append_nil] at this
    rw [read_of_lineAt hne (lineAt_of_record (fun _ => hline) hrecord), read_nil]
    rfl
  | @record text lineEnd text' record records h hne hend _ ih =>
    have hafter : lineEnd ++ text' ≠ [] := by cases hend <;> nofun
    have hline : lineAt skips (text ++ (lineEnd ++ text')) = some (some record, text') := by
      rw [lineAt_of_record (fun hskips => h.lineEnd?_append (hne hskips) _)
        (recordAt_append h (hend.endsRecord _)), if_neg hafter, hend.lineEnd?_append]
      rfl
    have hne' : text ++ (lineEnd ++ text') ≠ [] := List.append_ne_nil_of_right_ne_nil _ hafter
    rw [read_of_lineAt hne' hline, ih]
    rfl
  | @emptyLine lineEnd text' records hskips hend _ ih =>
    subst hskips
    have hne : lineEnd ++ text' ≠ [] := by cases hend <;> nofun
    rw [read_of_lineAt hne (lineAt_of_emptyLine (hend.lineEnd?_append _)), ih]
    rfl

/-- A text is a document of at most one list of records. -/
theorem IsDocument.unique {text : List Char} {records records' : List (List (List Char))}
    (h : IsDocument skips text records) (h' : IsDocument skips text records') : records = records' :=
  Option.some.inj ((read_of_isDocument h).symm.trans (read_of_isDocument h'))

/-! ## What is written is a document -/

theorem isQuoted_flatMap (cs : List Char) :
    IsQuoted (cs.flatMap fun c => if c = '"' then ['"', '"'] else [c]) cs := by
  induction cs with
  | nil => exact .nil
  | cons c cs ih =>
    rw [List.flatMap_cons]
    split
    · next hc =>
      subst hc
      exact .quote ih
    · next hc => exact .char hc ih

theorem isField_field (cs : List Char) : IsField (field cs) cs := by
  unfold field
  split
  · exact .quoted (isQuoted_flatMap cs)
  · next h =>
    refine .bare fun c hc => Bool.eq_false_iff.mpr fun hs => ?_
    exact h (List.any_eq_true.mpr ⟨c, hc, hs⟩)

theorem field_ne_nil {cs : List Char} (h : cs ≠ []) : field cs ≠ [] := by
  unfold field
  split
  · exact List.cons_ne_nil _ _
  · exact h

/-- A field and the further fields behind it, up to the line feed. -/
theorem exists_isRecord_fieldsEnd (cs : List Char) (rest : List (List Char)) :
    ∃ text, field cs ++ fieldsEnd rest = text ++ ['\n'] ∧ (cs :: rest ≠ [[]] → text ≠ []) ∧
      IsRecord text (cs :: rest) := by
  induction rest generalizing cs with
  | nil =>
    refine ⟨field cs, rfl, fun h => field_ne_nil fun hcs => h (by rw [hcs]), ?_⟩
    exact .last (isField_field cs)
  | cons next rest ih =>
    obtain ⟨text, heq, -, htext⟩ := ih next
    refine ⟨field cs ++ ',' :: text, ?_, fun _ => ?_, .more (isField_field cs) htext⟩
    · rw [fieldsEnd, List.cons_append, heq, List.append_assoc, List.cons_append]
    · exact List.append_ne_nil_of_right_ne_nil _ (List.cons_ne_nil _ _)

/-- What is written for a record is a text of it, which is not empty, and a line feed. -/
theorem exists_isRecord_record {fields : List (List Char)} (hne : fields ≠ []) :
    ∃ text, record fields = text ++ ['\n'] ∧ text ≠ [] ∧ IsRecord text fields := by
  unfold record
  split
  · exact absurd rfl hne
  · exact ⟨['"', '"'], rfl, List.cons_ne_nil _ _, .last (.quoted .nil)⟩
  · next cs rest hempty =>
    obtain ⟨text, heq, htext, hrecord⟩ := exists_isRecord_fieldsEnd cs rest
    refine ⟨text, heq, htext fun h => ?_, hrecord⟩
    obtain ⟨rfl, rfl⟩ := List.cons.inj h
    exact hempty rfl rfl

/-- **What is written for records is a document of these records.** -/
theorem isDocument_document (skips : Bool) {records : List (List (List Char))}
    (h : ∀ record ∈ records, record ≠ []) : IsDocument skips (document records) records := by
  induction records with
  | nil => exact .nil
  | cons record records ih =>
    obtain ⟨hrecord, hrecords⟩ := List.forall_mem_cons.mp h
    obtain ⟨text, heq, hne, htext⟩ := exists_isRecord_record hrecord
    have hcons : document (record :: records) = text ++ (['\n'] ++ document records) := by
      rw [document, List.flatMap_cons, heq, List.append_assoc]
      rfl
    rw [hcons]
    exact .record htext (fun _ => hne) .feed (ih hrecords)

end Csv
end QueryConsole
