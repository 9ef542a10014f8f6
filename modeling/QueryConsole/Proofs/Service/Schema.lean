/-
# A schema is read in the order of its text

A schema is read of exactly the texts that are an object whose members are all arrays of strings
(`reads_read`).  Its tables are the members, one for one and in their order, and they stay so in the tree
that is built of it (`Lists`).  A text that is an object with any other member is refused as a whole
(`parseBytes_in_text_order`).
-/

import QueryConsole.Console.SchemaTree
import QueryConsole.Proofs.Json.Exact
import QueryConsole.Proofs.Text.Utf8

namespace QueryConsole

namespace SchemaTree

/-- Of tables that are all collapsed only the headers are seen. -/
theorem linesFrom_of_collapsed {ts : List TreeTable} (h : ∀ t ∈ ts, t.expanded = false) (index : Nat) :
    linesFrom index ts = ts.mapIdx fun i t => .header (index + i) t := by
  induction ts generalizing index with
  | nil => rfl
  | cons t ts ih =>
    obtain ⟨ht, hts⟩ := List.forall_mem_cons.mp h
    have hlines : tableLines index t = [.header index t] := by
      rw [tableLines, ht]
      rfl
    rw [linesFrom, hlines, ih hts, List.mapIdx_cons, List.singleton_append]
    refine congrArg _ (List.mapIdx_eq_mapIdx_iff.mpr fun i _ => ?_)
    rw [Nat.add_assoc, Nat.add_comm 1 i]

/-- The lines of a fresh tree are the headers of the tables in their order. -/
theorem lines_ofSchema (s : Schema) :
    (ofSchema s).lines = s.tables.mapIdx fun i t => .header i ⟨t.name, t.columns, false⟩ := by
  have hcollapsed : ∀ t ∈ (ofSchema s).tables, t.expanded = false := by
    intro t ht
    obtain ⟨u, -, rfl⟩ := List.mem_map.mp ht
    rfl
  rw [lines, linesFrom_of_collapsed hcollapsed, ofSchema, tables]
  refine List.ext_getElem? fun i => ?_
  rw [List.getElem?_mapIdx, List.getElem?_mapIdx, List.getElem?_map, Option.map_map, Nat.zero_add]
  rfl

end SchemaTree

namespace Schema

open Json Utf8

/-- The members of an object are the tables of the schema: one for one and in their order, each with its
columns in theirs, and so are the headers of the tree, all collapsed. -/
structure Lists (s : Schema) (members : List (String × List Char)) : Prop where
  length_tables : s.tables.length = members.length
  length_lines : (SchemaTree.ofSchema s).lines.length = members.length
  at_index (i : Nat) (h : i < members.length) : ∃ columns, IsArray IsString members[i].2 columns ∧
    s.tables[i]? = some ⟨members[i].1, columns⟩ ∧
    (SchemaTree.ofSchema s).lines[i]? = some (.header i ⟨members[i].1, columns, false⟩)

variable {schema : Schema} {bytes : List UInt8} {text cs : List Char} {rest : List Piece}
  {members : List (String × List Char)} {ms : List (String × List String)}

/-! ## Reading -/

/-- The tables as members of an object. -/
def entries (s : Schema) : List (String × List String) := s.tables.map fun t => (t.name, t.columns)

/-- The schema whose tables are the members of an object. -/
def ofEntries (ms : List (String × List String)) : Schema := ⟨ms.map fun m => ⟨m.1, m.2⟩⟩

theorem entries_ofEntries (ms : List (String × List String)) : (ofEntries ms).entries = ms := by
  rw [entries, ofEntries, List.map_map]
  exact List.map_id ms

theorem ofEntries_entries (s : Schema) : ofEntries s.entries = s := by
  rw [entries, ofEntries, List.map_map]
  exact congrArg Schema.mk (List.map_id s.tables)

theorem isValue_of_isArray {columns : List String} (h : IsArray IsString cs columns) : IsValue cs :=
  h.isValue fun _ _ hstring => hstring.isValue

/-- Arrays of strings are read, and any other value is refused. -/
theorem reads_columns : Reads (sequence Json.text) (IsArray IsString) :=
  reads_sequence reads_text fun _ _ hstring => hstring.isValue

theorem columns_decided : Decides (sequence Json.text) (IsArray IsString) :=
  sequence_decided reads_text (fun _ _ hstring => hstring.isValue) text_decided

/-- **A schema is read** exactly of an object whose members are arrays of strings. -/
theorem reads_read : Reads read fun cs s => IsObject (IsArray IsString) cs s.entries := by
  refine reads_typed (by decide) (fun s schema rest => ?_) ?_
  · constructor
    · intro h
      obtain ⟨⟨ms, after⟩, hobject, heq⟩ := exists_of_map_eq_ok h
      obtain ⟨rfl, rfl⟩ := Prod.mk.inj heq
      rw [object_eq, (stepsOver_members reads_columns).enclosed_eq_ok_iff] at hobject
      obtain ⟨body, rfl, hbody⟩ := hobject
      refine ⟨body ++ ['\x7d'], rfl, body, rfl, ?_⟩
      change Separated _ true body (ofEntries ms).entries
      rwa [entries_ofEntries]
    · rintro ⟨cs, rfl, body, hcs, hbody⟩
      obtain rfl : cs = body ++ ['\x7d'] := List.tail_eq_of_cons_eq hcs
      have hobject := (stepsOver_members reads_columns).enclosed_eq_ok_iff.mpr
        ⟨body, rfl (a := Utf8.ofChars (body ++ ['\x7d']) ++ rest), hbody⟩
      rw [object_eq, hobject]
      change Except.ok (ofEntries schema.entries, rest) = _
      rw [ofEntries_entries]
  · rintro cs schema ⟨body, rfl, -⟩
    exact ⟨body ++ ['\x7d'], rfl⟩

/-- **An object with a member that is no array of strings** is refused, wherever that member stands. -/
theorem refuses_read (hobject : IsObject Eq cs members) (hvalues : ∀ m ∈ members, IsValue m.2)
    (hbad : ∃ m ∈ members, ¬∃ columns, IsArray IsString m.2 columns) : Refuses read cs := by
  obtain ⟨body, rfl, hbody⟩ := hobject
  have hrefused (m : String × List Char) (hm : m ∈ members) (text : List Char)
      (hmember : IsMember Eq text m) :
      (∃ x, IsMember (IsArray IsString) text x) ∨ Refused (memberStep (sequence Json.text)) text := by
    rcases columns_decided (hvalues m hm) with ⟨columns, hcolumns⟩ | hrefuses
    · left
      obtain ⟨key, gap, lead, value, rfl, hkey, hgap, hlead, rfl⟩ := hmember
      exact ⟨(m.1, columns), key, gap, lead, _, rfl, hkey, hgap, hlead, hcolumns⟩
    · exact .inr (refused_member hmember hrefuses)
  obtain ⟨bad, hmem, hnone⟩ := hbad
  have hbad_refused (text : List Char) (hmember : IsMember Eq text bad) :
      Refused (memberStep (sequence Json.text)) text :=
    refused_member hmember ((columns_decided (hvalues bad hmem)).resolve_left hnone)
  refine refuses_typed_of_inner (by decide) fun rest => ?_
  obtain ⟨problem, hproblem⟩ := (stepsOver_members reads_columns).error_of_separated hbody hrefused
    ⟨bad, hmem, hbad_refused⟩
  refine ⟨problem, ?_⟩
  rw [object_eq, enclosed, ofChars_concat, hproblem]
  rfl

/-! ## Whole texts -/

/-- The entry of a table is the member of an object: its name is the key, and its columns are the items
of the value. -/
def IsEntry (m : String × List Char) (e : String × List String) : Prop :=
  e.1 = m.1 ∧ IsArray IsString m.2 e.2

/-- An object of arrays of strings, with the texts of its values. -/
theorem exists_members (h : IsObject (IsArray IsString) cs ms) :
    ∃ members, IsObject Eq cs members ∧ (∀ m ∈ members, IsValue m.2) ∧
      List.Forall₂ IsEntry members ms := by
  obtain ⟨body, rfl, hbody⟩ := h
  have hmember : ∀ e ∈ ms, ∀ text, IsMember (IsArray IsString) text e →
      ∃ m, IsMember Eq text m ∧ flip IsEntry e m := by
    rintro e - text ⟨key, gap, lead, value, rfl, hkey, hgap, hlead, hvalue⟩
    exact ⟨(e.1, value), ⟨key, gap, lead, value, rfl, hkey, hgap, hlead, rfl⟩, rfl, hvalue⟩
  obtain ⟨members, hmembers, hall⟩ := hbody.exists_forall₂ hmember
  refine ⟨members, ⟨body, rfl, hmembers⟩, fun m hm => ?_, hall.flip⟩
  obtain ⟨e, -, -, hcolumns⟩ := exists_mem_of_forall₂ hall hm
  exact isValue_of_isArray hcolumns

/-- An object whose values are all arrays of strings, with their strings. -/
theorem exists_entries (h : IsObject Eq cs members)
    (hall : ∀ m ∈ members, ∃ columns, IsArray IsString m.2 columns) :
    ∃ ms, IsObject (IsArray IsString) cs ms ∧ List.Forall₂ IsEntry members ms := by
  obtain ⟨body, rfl, hbody⟩ := h
  have hentry : ∀ m ∈ members, ∀ text, IsMember Eq text m →
      ∃ e, IsMember (IsArray IsString) text e ∧ IsEntry m e := by
    rintro m hm text ⟨key, gap, lead, value, rfl, hkey, hgap, hlead, rfl⟩
    obtain ⟨columns, hcolumns⟩ := hall m hm
    exact ⟨(m.1, columns), ⟨key, gap, lead, _, rfl, hkey, hgap, hlead, hcolumns⟩, rfl, hcolumns⟩
  obtain ⟨ms, hms, hentries⟩ := hbody.exists_forall₂ hentry
  exact ⟨ms, ⟨body, rfl, hms⟩, hentries⟩

/-- Entries that are the members one for one are listed so. -/
theorem lists_of_forall₂ (h : List.Forall₂ IsEntry members schema.entries) : schema.Lists members := by
  have hlength : schema.tables.length = members.length := by
    rw [h.length_eq, entries, List.length_map]
  refine ⟨hlength, ?_, fun i hi => ?_⟩
  · rw [SchemaTree.lines_ofSchema, List.length_mapIdx, hlength]
  · have hi' : i < schema.tables.length := hlength ▸ hi
    obtain ⟨hname, hcolumns⟩ := (List.forall₂_iff_get.mp h).2 i hi (h.length_eq ▸ hi)
    simp only [entries, List.get_eq_getElem, List.getElem_map] at hname hcolumns
    refine ⟨schema.tables[i].columns, hcolumns, ?_, ?_⟩
    · rw [List.getElem?_eq_getElem hi', ← hname]
    · rw [SchemaTree.lines_ofSchema, List.getElem?_mapIdx, List.getElem?_eq_getElem hi', ← hname]
      rfl

/-- A text is read as its bytes are. -/
theorem parse_eq_parseBytes (text : String) : parse text = parseBytes (Utf8.encode text.toList) := by
  rw [parse, parseBytes, pieces_encode]

/-- **A schema is read in the order of its text, or not at all.**  What is read is the text of an object
whose members are arrays of strings, and these are listed in their order, each as often as it stands
there; every such object is read; and any other object is refused. -/
theorem parseBytes_in_text_order (bytes : List UInt8) :
    (∀ schema, parseBytes bytes = .ok schema → ∃ text members, Utf8.text? bytes = some text ∧
      IsObjectText text members ∧ schema.Lists members) ∧
    (∀ text members, Utf8.text? bytes = some text → IsObjectText text members →
      ((∀ m ∈ members, ∃ columns, IsArray IsString m.2 columns) →
        ∃ schema, parseBytes bytes = .ok schema ∧ schema.Lists members) ∧
      ((∃ m ∈ members, ¬∃ columns, IsArray IsString m.2 columns) →
        ∃ problem, parseBytes bytes = .error problem)) := by
  constructor
  · intro schema h
    obtain ⟨front, object, back, hpieces, hfront, hback, hobject⟩ := reads_read.whole_eq_ok_iff.mp h
    obtain ⟨members, hmembers, hvalues, hentries⟩ := exists_members hobject
    exact ⟨front ++ (object ++ back), members, text?_eq_some_iff.mpr hpieces,
      ⟨front, object, back, rfl, hfront, hback, hmembers, hvalues⟩, lists_of_forall₂ hentries⟩
  · rintro text members htext ⟨front, object, back, rfl, hfront, hback, hobject, hvalues⟩
    have hpieces : pieces bytes = Utf8.ofChars (front ++ (object ++ back)) := text?_eq_some_iff.mp htext
    constructor
    · intro hall
      obtain ⟨ms, hms, hentries⟩ := exists_entries hobject hall
      rw [← entries_ofEntries ms] at hms hentries
      exact ⟨ofEntries ms, reads_read.whole_eq_ok_iff.mpr
        ⟨front, object, back, hpieces, hfront, hback, hms⟩, lists_of_forall₂ hentries⟩
    · intro hbad
      rw [parseBytes, hpieces]
      exact (refuses_read hobject hvalues hbad).whole hfront back

/-- The text of an object of two members without blank characters. -/
theorem isObjectText_pair {m m' : String × List Char} {cs cs' : List Char} (h : IsMember Eq cs m)
    (h' : IsMember Eq cs' m') (hvalue : IsValue m.2) (hvalue' : IsValue m'.2) :
    IsObjectText ('\x7b' :: (cs ++ ',' :: cs' ++ ['\x7d'])) [m, m'] := by
  have hblank : Blank [] := List.forall_mem_nil _
  have hlast : Separated (IsMember Eq) false ([] ++ comma false ++ [] ++ cs' ++ []) [m'] :=
    .part hblank hblank h' (.done hblank)
  have hboth : Separated (IsMember Eq) true ([] ++ comma true ++ [] ++ cs ++ _) [m, m'] :=
    .part hblank hblank h hlast
  have hbody : Separated (IsMember Eq) true (cs ++ ',' :: cs') [m, m'] := by
    simpa [comma] using hboth
  exact ⟨[], _, [], (List.append_nil _).symm, hblank, hblank, ⟨cs ++ ',' :: cs', rfl, hbody⟩,
    List.forall_mem_cons.mpr ⟨hvalue, List.forall_mem_singleton.mpr hvalue'⟩⟩

/-- A name that stands twice is listed twice, and a column list that is a string spoils the object. -/
theorem repeated_name_and_mistyped_columns :
    (∃ schema, parse "\x7b\"a\":[\"x\"],\"a\":[]\x7d" = .ok schema ∧
      schema.Lists [("a", "[\"x\"]".toList), ("a", "[]".toList)] ∧
      ∃ text members, IsObjectText text members ∧ schema.Lists members) ∧
    ∃ problem, parse "\x7b\"a\":[],\"b\":\"id\"\x7d" = .error problem := by
  have hblank : Blank [] := List.forall_mem_nil _
  have hmember (key : Char) (value : List Char)
      (hplain : 0x20 ≤ key.toNat ∧ key ≠ '"' ∧ key ≠ '\\') :
      IsMember Eq ('"' :: ([key] ++ ['"']) ++ ([] ++ ':' :: ([] ++ value)))
        (String.ofList [key], value) :=
    ⟨_, [], [], value, rfl, isString_of_plain [key] (List.forall_mem_singleton.mpr hplain), hblank,
      hblank, rfl⟩
  have hitem : Separated IsString true ([] ++ comma true ++ [] ++ "\"x\"".toList ++ []) ["x"] :=
    .part hblank hblank (isString_of_plain ['x'] (List.forall_mem_singleton.mpr (by decide))) (.done hblank)
  have hx : IsArray IsString "[\"x\"]".toList ["x"] := ⟨_, rfl, hitem⟩
  have hnone : IsArray IsString "[]".toList [] := ⟨[], rfl, .done hblank⟩
  have hid : IsString "\"id\"".toList "id" := isString_of_plain ['i', 'd'] <|
    List.forall_mem_cons.mpr ⟨by decide, List.forall_mem_singleton.mpr (by decide)⟩
  have htwice : IsObjectText "\x7b\"a\":[\"x\"],\"a\":[]\x7d".toList
      [("a", "[\"x\"]".toList), ("a", "[]".toList)] :=
    isObjectText_pair (hmember 'a' _ (by decide)) (hmember 'a' _ (by decide))
      (isValue_of_isArray hx) (isValue_of_isArray hnone)
  have hmixed : IsObjectText "\x7b\"a\":[],\"b\":\"id\"\x7d".toList
      [("a", "[]".toList), ("b", "\"id\"".toList)] :=
    isObjectText_pair (hmember 'a' _ (by decide)) (hmember 'b' _ (by decide))
      (isValue_of_isArray hnone) hid.isValue
  rw [parse_eq_parseBytes, parse_eq_parseBytes]
  constructor
  · obtain ⟨hread, htext⟩ :=
      parseBytes_in_text_order (Utf8.encode "\x7b\"a\":[\"x\"],\"a\":[]\x7d".toList)
    obtain ⟨schema, hschema, hlists⟩ := (htext _ _ (text?_encode _) htwice).1 <|
      List.forall_mem_cons.mpr ⟨⟨_, hx⟩, List.forall_mem_singleton.mpr ⟨_, hnone⟩⟩
    obtain ⟨text, members, -, hobject, hmembers⟩ := hread schema hschema
    exact ⟨schema, hschema, hlists, text, members, hobject, hmembers⟩
  · have hnot : ¬∃ columns, IsArray IsString "\"id\"".toList columns := by
      rintro ⟨columns, parts, hparts, -⟩
      exact absurd (List.head_eq_of_cons_eq hparts) (by decide)
    obtain ⟨-, htext⟩ :=
      parseBytes_in_text_order (Utf8.encode "\x7b\"a\":[],\"b\":\"id\"\x7d".toList)
    exact (htext _ _ (text?_encode _) hmixed).2
      ⟨_, List.mem_cons_of_mem _ (List.mem_singleton_self _), hnot⟩

end Schema
end QueryConsole
