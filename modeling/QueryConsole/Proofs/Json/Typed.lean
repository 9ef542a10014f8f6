/-
# Typed values and records are read back

A reader of one type reads back what is written of a value of that type (`Spells`): a string, a truth
value, a value that may be `null`, an array of strings.  A record is read back member by member, if the
reader of every field reads back what is written for it (`Layout.spells_record`).
-/

import QueryConsole.Proofs.Json.ReadBack

namespace QueryConsole
namespace Json

open Utf8 (Piece)

variable {α σ : Type} {blank : List Char}

/-- The characters spell a value for a reader, whatever blank characters stand in front of them and
whatever follows. -/
def Spells (read : List Piece → Read α) (cs : List Char) (x : α) : Prop :=
  ∀ ⦃blank⦄, Blank blank → ∀ rest,
    read (Utf8.ofChars blank ++ (Utf8.ofChars cs ++ rest)) = .ok (x, rest)

/-! ## Values of one type -/

theorem spells_typed {expected : Expected} {start : Char → List Piece → Option (Read α)}
    {c : Char} {cs : List Char} {x : α} (hc : isBlankPiece (.char c) = false)
    (h : ∀ rest, start c (Utf8.ofChars cs ++ rest) = some (.ok (x, rest))) :
    Spells (typed expected start) (c :: cs) x := by
  intro blank hblank rest
  rw [typed, skipBlank_append hblank, Utf8.ofChars_cons, List.cons_append, skipBlank_cons hc]
  dsimp only
  rw [h, Option.getD_some]

/-- A string is spelled by its text. -/
theorem spells_text (v : String) : Spells text (stringChars v) v :=
  spells_typed rfl fun rest => by
    rw [if_pos rfl]
    exact congrArg some (string_escaped v rest)

/-- A string is read from its opening quote on. -/
theorem text_escaped (v : String) (rest : List Piece) :
    text (.char '"' :: (Utf8.ofChars (v.toList.flatMap escape ++ ['"']) ++ rest)) = .ok (v, rest) :=
  spells_text v (List.forall_mem_nil _) rest

theorem Layout.spells_text (L : Layout) (depth : Nat) (v : String) :
    Spells text (L.print depth (.str v)) v := by
  rw [L.print_scalar depth (.str v) rfl]
  exact Json.spells_text v

/-- A truth value is spelled by its word. -/
theorem Layout.spells_boolean (L : Layout) (depth : Nat) (b : Bool) :
    Spells boolean (L.print depth (.bool b)) b := by
  rw [L.print_scalar depth (.bool b) rfl]
  cases b with
  | true =>
    refine spells_typed rfl fun rest => ?_
    rw [if_pos rfl, word_ofChars]
    rfl
  | false =>
    refine spells_typed rfl fun rest => ?_
    rw [if_neg (by decide), if_pos rfl, word_ofChars]
    rfl

/-- A string that may be missing is spelled by its text, or by `null`. -/
theorem Layout.spells_nullable_text (L : Layout) (depth : Nat) (v? : Option String) :
    Spells (nullable text)
      (L.print depth
        (match v? with
          | some v => .str v
          | none => .null)) v? := by
  intro blank hblank rest
  cases v? with
  | none =>
    rw [L.print_scalar depth .null rfl]
    change nullable text (Utf8.ofChars blank ++
      (.char 'n' :: (Utf8.ofChars ['u', 'l', 'l'] ++ rest))) = _
    rw [nullable, skipBlank_append hblank, skipBlank_cons rfl]
    dsimp only
    rw [if_pos rfl, word_ofChars]
    rfl
  | some v =>
    rw [L.print_scalar depth (.str v) rfl]
    change nullable text (Utf8.ofChars blank ++
      (.char '"' :: (Utf8.ofChars (v.toList.flatMap escape ++ ['"']) ++ rest))) = _
    rw [nullable, skipBlank_append hblank, skipBlank_cons rfl]
    dsimp only
    rw [if_neg (by decide), text_escaped]
    rfl

/-- A string in an array is taken. -/
theorem takes_texts (hblank : Blank blank) (v : String) :
    Takes (items text) (items text) blank (stringChars v) (v :: ·) := fun rest _ m first => by
  have hskip : skipBlank (Utf8.ofChars (stringChars v) ++ rest) =
      .char '"' :: (Utf8.ofChars (v.toList.flatMap escape ++ ['"']) ++ rest) :=
    skipBlank_cons (by decide) _
  rw [items, nextItem_of_start first hblank hskip (by decide)]
  dsimp only
  rw [text_escaped]

/-- Strings are spelled by the array of them. -/
theorem Layout.spells_sequence_text (L : Layout) (depth : Nat) (texts : List String) :
    Spells (sequence text) (L.print depth (.arr (texts.map .str))) texts := by
  intro blank hblank rest
  have hgets : Gets ']' (L.line (depth + 1)) (items text) (texts.map stringChars) texts :=
    gets_list (stopsAt_items _) fun v _ => takes_texts (L.blank_line (depth + 1)) v
  obtain ⟨t, last, htext, hlast, hitems⟩ :=
    read_bracketed (L.blank_line depth) (by decide) hgets '[' rest
  have hprint : (texts.map Json.str).map (L.print (depth + 1)) = texts.map stringChars := by
    rw [List.map_map]
    exact List.map_congr_left fun v _ => L.print_scalar (depth + 1) (.str v) rfl
  rw [L.print_arr, hprint, htext, sequence, typed, skipBlank_append hblank,
    skipBlank_cons (by decide)]
  dsimp only
  rw [if_pos rfl, array, hitems, Option.getD_some]
  dsimp only
  rw [closing_blank_append hlast (by decide)]
  rfl

/-! ## Records -/

/-- The members fill a record in turn: each is spelled for the reader of its field. -/
inductive Fills (field : String → σ → List Piece → Read σ) (print : Json → List Char) :
    σ → List (String × Json) → σ → Prop where
  | done (r : σ) : Fills field print r [] r
  | member {r r' r'' : σ} {key : String} {v : Json} {members : List (String × Json)}
      (spells : Spells (field key r) (print v) r') (further : Fills field print r' members r'') :
    Fills field print r ((key, v) :: members) r''

variable {known : String → Bool} {field : String → σ → List Piece → Read σ} {r r' : σ}
  {seen : List String}

theorem stopsAt_recordMembers (known : String → Bool) (field : String → σ → List Piece → Read σ)
    (seen : List String) (r : σ) :
    StopsAt '\x7d' (fun n first s => recordMembers known field n first seen r s) r :=
  fun hblank n first s => by
    dsimp only
    rw [recordMembers, nextKey_close first hblank]

/-- A member whose key is new is taken, and its key is one that was seen. -/
theorem takes_recordMembers {key : String} {cs gap : List Char} (hknown : known key = true)
    (hnew : key ∉ seen) (hblank : Blank blank) (hgap : Blank gap)
    (h : Spells (field key r) cs r') :
    Takes (fun n first s => recordMembers known field n first seen r s)
      (fun n first s => recordMembers known field n first (key :: seen) r' s) blank
      (memberText gap key cs) id := fun rest _ n first => by
  have hseen : ¬seen.contains key := fun h => hnew (List.contains_iff_mem.mp h)
  dsimp only
  rw [ofChars_memberText, recordMembers, nextKey_quote first hblank]
  dsimp only
  rw [string_escaped]
  dsimp only
  rw [if_neg hseen, colon_colon]
  dsimp only
  rw [if_pos hknown, h hgap]
  dsimp only
  cases recordMembers known field n false (key :: seen) r' rest <;> rfl

/-- Members of different keys that fill a record are taken one by one. -/
theorem gets_recordMembers {print : Json → List Char} {members : List (String × Json)}
    {line gap : List Char} (hline : Blank line) (hgap : Blank gap)
    (h : Fills field print r members r') (hknown : ∀ m ∈ members, known m.1 = true)
    (hkeys : (members.map Prod.fst).Nodup) (hnew : ∀ m ∈ members, m.1 ∉ seen) :
    Gets '\x7d' line (fun n first s => recordMembers known field n first seen r s)
      (members.map fun m => memberText gap m.1 (print m.2)) r' := by
  -- every member adds its key to those that were seen, so these vary
  induction h generalizing seen with
  | done r => exact .stop (stopsAt_recordMembers known field seen r)
  | @member r r' r'' key v members spells _ ih =>
    obtain ⟨hknown, hmembers⟩ := List.forall_mem_cons.mp hknown
    obtain ⟨hnew, hnews⟩ := List.forall_mem_cons.mp hnew
    obtain ⟨hkey, hkeys⟩ := List.nodup_cons.mp hkeys
    have hfurther : ∀ m ∈ members, m.1 ∉ key :: seen := fun m hm hseen => by
      obtain hm' | hm' := List.mem_cons.mp hseen
      · have hmem : m.1 ∈ members.map Prod.fst := List.mem_map_of_mem hm
        exact hkey (hm' ▸ hmem)
      · exact hnews m hm hm'
    exact .part (takes_recordMembers hknown hnew hline hgap spells) (ih hmembers hkeys hfurther)

/-- **A record is spelled by the object of its members**, if they fill it. -/
theorem Layout.spells_record (L : Layout) {depth : Nat} {expected : Expected}
    {fields : List String} {members : List (String × Json)}
    (h : Fills field (L.print (depth + 1)) r members r')
    (hknown : members.map Prod.fst ⊆ fields) (hkeys : (members.map Prod.fst).Nodup) :
    Spells (record expected fields field r) (L.print depth (.obj members)) r' := by
  intro blank hblank rest
  have hcontains : ∀ m ∈ members, fields.contains m.1 = true := fun m hm =>
    List.contains_iff_mem.mpr (hknown (List.mem_map_of_mem hm))
  have hgets := gets_recordMembers (L.blank_line (depth + 1)) L.blank_gap h hcontains hkeys
    fun _ _ => List.not_mem_nil
  obtain ⟨t, last, htext, hlast, hmembers⟩ :=
    read_bracketed (L.blank_line depth) (by decide) hgets '\x7b' rest
  rw [L.print_obj, htext, record, typed, skipBlank_append hblank, skipBlank_cons (by decide)]
  dsimp only
  rw [if_neg (by decide), if_pos rfl, hmembers, Option.getD_some]
  dsimp only
  rw [closing_blank_append hlast (by decide)]
  rfl

/-- What is spelled is read of the whole text. -/
theorem whole_of_spells {read : List Piece → Read α} {cs : List Char} {x : α}
    (h : Spells read cs x) : whole read (Utf8.ofChars cs) = .ok x := by
  have hread := h (List.forall_mem_nil _) []
  change read (Utf8.ofChars cs ++ []) = .ok (x, []) at hread
  rw [List.append_nil] at hread
  rw [whole, hread]
  rfl

end Json
end QueryConsole
