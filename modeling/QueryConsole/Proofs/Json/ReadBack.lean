/-
# JSON text is read back

In any layout a text is read back as the value that it was made of (`Layout.value_print`), so both the
compact and the indented text of a value are (`parse_compact`, `parse_indented`), if

- the value is well-formed and not nested too deep, as all values are that are read themselves, and
- every double in it is read back from its own text.
-/

import QueryConsole.Proofs.Json.Layout
import QueryConsole.Proofs.Json.Numeral

namespace QueryConsole
namespace Json

open Utf8 (Piece)

variable {s rest : List Piece}

/-! ## Words and strings -/

theorem word_ofChars (cs : List Char) (s : List Piece) :
    word cs (Utf8.ofChars cs ++ s) = .ok s := by
  induction cs with
  | nil => rfl
  | cons c cs ih => rw [Utf8.ofChars_cons, List.cons_append, word, if_pos rfl, ih]

theorem stringBody_escape_of_eq_ok {after : List Piece} {c : Char}
    (h : escapeSequence s = .ok (c, after)) :
    stringBody true (.char '\\' :: s) =
      (stringBody true after).map fun (cs, rest) => (c :: cs, rest) := by
  rw [stringBody, if_neg (by decide), if_pos rfl]
  split
  · next heq => rw [h] at heq; cases heq
  · next heq =>
    rw [h] at heq
    obtain ⟨rfl, rfl⟩ := Prod.mk.inj (Except.ok.inj heq)
    rfl

/-- The escape of a control is read as its four digits. -/
theorem hex4_control {n : Nat} (h : n < 0x20) :
    hex4 [.char '0', .char '0', .char (Nat.digitChar (n / 16)), .char (Nat.digitChar (n % 16))] =
      some n := by
  have all : ∀ m ∈ List.range 0x20, hex4 [.char '0', .char '0', .char (Nat.digitChar (m / 16)),
      .char (Nat.digitChar (m % 16))] = some m := by decide
  exact all n (List.mem_range.2 h)

theorem escapeSequence_control {c : Char} (h : c.toNat < 0x20) (s : List Piece) :
    escapeSequence (.char 'u' :: .char '0' :: .char '0' :: .char (Nat.digitChar (c.toNat / 16)) ::
      .char (Nat.digitChar (c.toNat % 16)) :: s) = .ok (c, s) := by
  rw [escapeSequence, if_pos rfl, unicodeEscape, codeUnit]
  simp only [List.take_succ_cons, List.take_zero, List.drop_succ_cons, List.drop_zero,
    hex4_control h]
  rw [if_neg (by omega), if_neg (by omega), Char.ofNat_toNat]

/-- **A character is read back from what is written for it** inside a string. -/
theorem stringBody_escape (c : Char) (s : List Piece) :
    stringBody true (Utf8.ofChars (escape c) ++ s) =
      (stringBody true s).map fun (cs, rest) => (c :: cs, rest) := by
  unfold escape
  split
  · next hc => subst hc; exact stringBody_escape_of_eq_ok rfl
  split
  · next hc => subst hc; exact stringBody_escape_of_eq_ok rfl
  split
  · next hc => subst hc; exact stringBody_escape_of_eq_ok rfl
  split
  · next hc => subst hc; exact stringBody_escape_of_eq_ok rfl
  split
  · next hc => subst hc; exact stringBody_escape_of_eq_ok rfl
  split
  · next hc => subst hc; exact stringBody_escape_of_eq_ok rfl
  split
  · next hc => subst hc; exact stringBody_escape_of_eq_ok rfl
  split
  · next hcontrol => exact stringBody_escape_of_eq_ok (escapeSequence_control hcontrol s)
  · next hquote hbackslash _ _ _ _ _ hcontrol =>
    change stringBody true (.char c :: s) = _
    rw [stringBody, if_neg hquote, if_neg hbackslash, if_neg hcontrol]

/-- **A string is read back** from behind its opening quote. -/
theorem string_escaped (text : String) (s : List Piece) :
    string (Utf8.ofChars (text.toList.flatMap escape ++ ['"']) ++ s) = .ok (text, s) := by
  have hbody (cs : List Char) :
      stringBody true (Utf8.ofChars (cs.flatMap escape ++ ['"']) ++ s) = .ok (cs, s) := by
    induction cs with
    | nil =>
      change stringBody true (.char '"' :: s) = _
      rw [stringBody, if_pos rfl, if_pos rfl]
    | cons c cs ih =>
      rw [List.flatMap_cons, List.append_assoc, Utf8.ofChars_append, List.append_assoc,
        stringBody_escape, ih]
      rfl
  rw [string, hbody]
  exact congrArg (fun text => Except.ok (text, s)) String.ofList_toList

/-! ## Blank characters -/

variable {blank : List Char}

theorem skipBlank_append (h : Blank blank) (s : List Piece) :
    skipBlank (Utf8.ofChars blank ++ s) = skipBlank s :=
  List.dropWhile_append_of_pos fun p hp => by
    obtain ⟨c, hc, rfl⟩ := List.mem_map.mp hp
    exact h c hc

theorem skipBlank_cons {p : Piece} (h : isBlankPiece p = false) (s : List Piece) :
    skipBlank (p :: s) = p :: s :=
  List.dropWhile_cons_of_neg (by rw [h]; decide)

theorem value_blank_append (h : Blank blank) (depth : Nat) (s : List Piece) :
    value depth (Utf8.ofChars blank ++ s) = value depth s := by
  unfold value
  rw [skipBlank_append h]

theorem closing_blank_append (h : Blank blank) {close : Char}
    (hclose : isBlankPiece (.char close) = false) (s : List Piece) :
    closing close (Utf8.ofChars blank ++ .char close :: s) = .ok s := by
  rw [closing, skipBlank_append h, skipBlank_cons hclose]
  exact if_pos rfl

theorem colon_colon (s : List Piece) : colon (.char ':' :: s) = .ok s := rfl

theorem ends_cons {c : Char} (h : digit? (.char c) = none ∧ c ≠ '.' ∧ c ≠ 'e' ∧ c ≠ 'E')
    (s : List Piece) : Ends (.char c :: s) := by
  rintro p hp
  obtain rfl := Option.some.inj hp
  obtain ⟨hdigit, hpoint, he, hE⟩ := h
  exact ⟨hdigit, fun h => hpoint (Piece.char.inj h), fun h => he (Piece.char.inj h),
    fun h => hE (Piece.char.inj h)⟩

/-- A number ends where blank characters follow. -/
theorem ends_blank_append (h : Blank blank) (hs : Ends s) : Ends (Utf8.ofChars blank ++ s) := by
  cases blank with
  | nil => exact hs
  | cons c blank =>
    have hc := h c List.mem_cons_self
    simp only [isBlankPiece, Bool.or_eq_true, decide_eq_true_eq] at hc
    refine ends_cons ?_ _
    obtain ((rfl | rfl) | rfl) | rfl := hc <;> decide

/-! ## Parts between brackets -/

/-- The comma in front of a part, unless it is the first. -/
def comma (first : Bool) : List Char := if first then [] else [',']

theorem ends_furtherChars {close : Char} {lastLine : List Char} (hlast : Blank lastLine)
    (hclose : digit? (.char close) = none ∧ close ≠ '.' ∧ close ≠ 'e' ∧ close ≠ 'E')
    (line : List Char) (parts : List (List Char)) (s : List Piece) :
    Ends (Utf8.ofChars (furtherChars close line lastLine parts) ++ s) := by
  cases parts with
  | nil =>
    rw [furtherChars, Utf8.ofChars_append, List.append_assoc]
    exact ends_blank_append hlast (ends_cons hclose s)
  | cons part parts => exact ends_cons (by decide) _

/-- One part more needs one character more. -/
theorem length_lt_length_furtherChars (close : Char) (line lastLine : List Char)
    (parts : List (List Char)) :
    parts.length < (furtherChars close line lastLine parts).length := by
  induction parts with
  | nil =>
    rw [furtherChars, List.length_append]
    exact Nat.lt_add_left _ Nat.zero_lt_one
  | cons part parts ih =>
    rw [furtherChars, List.length_append, List.length_cons, List.length_cons]
    omega

section
variable {α : Type} {read next : Nat → Bool → List Piece → Read α} {close : Char}
  {line lastLine part : List Char} {parts : List (List Char)} {f : α → α} {x : α}

/-- A reader of parts stops at the closing bracket, which it leaves, with what it has. -/
def StopsAt (close : Char) (read : Nat → Bool → List Piece → Read α) (x : α) : Prop :=
  ∀ {blank}, Blank blank → ∀ n first s,
    read (n + 1) first (Utf8.ofChars blank ++ .char close :: s) =
      .ok (x, Utf8.ofChars blank ++ .char close :: s)

/-- A reader of parts takes the text of a part from the front, whatever ends it, and goes on as
another does, of whose result it makes its own. -/
def Takes (read next : Nat → Bool → List Piece → Read α) (line part : List Char) (f : α → α) :
    Prop :=
  ∀ ⦃rest⦄, Ends rest → ∀ n first,
    read (n + 1) first (Utf8.ofChars (comma first ++ line) ++ (Utf8.ofChars part ++ rest)) =
      (next n false rest).map fun (x, s) => (f x, s)

/-- A reader takes the texts of parts, one by one, and stops with a result. -/
inductive Gets (close : Char) (line : List Char) :
    (Nat → Bool → List Piece → Read α) → List (List Char) → α → Prop where
  | stop {read : Nat → Bool → List Piece → Read α} {x : α} (stops : StopsAt close read x) :
    Gets close line read [] x
  | part {read next : Nat → Bool → List Piece → Read α} {part : List Char}
      {parts : List (List Char)} {f : α → α} {x : α} (takes : Takes read next line part f)
      (further : Gets close line next parts x) :
    Gets close line read (part :: parts) (f x)

theorem read_furtherChars (hlast : Blank lastLine)
    (hclose : digit? (.char close) = none ∧ close ≠ '.' ∧ close ≠ 'e' ∧ close ≠ 'E')
    (h : Gets close line read parts x) (s : List Piece) {fuel : Nat} (hfuel : parts.length < fuel) :
    read fuel false (Utf8.ofChars (furtherChars close line lastLine parts) ++ s) =
      .ok (x, Utf8.ofChars lastLine ++ .char close :: s) := by
  induction h generalizing fuel with
  | stop stops =>
    obtain ⟨fuel, rfl⟩ := Nat.exists_eq_succ_of_ne_zero (Nat.ne_zero_of_lt hfuel)
    rw [furtherChars, Utf8.ofChars_append, List.append_assoc]
    exact stops hlast fuel false s
  | @part read next part parts f x takes _ ih =>
    obtain ⟨fuel, rfl⟩ := Nat.exists_eq_succ_of_ne_zero (Nat.ne_zero_of_lt hfuel)
    have htext := takes (ends_furtherChars hlast hclose line parts s) fuel false
    rw [ih (Nat.lt_of_succ_lt_succ hfuel)] at htext
    rw [furtherChars]
    simp only [comma, Bool.false_eq_true, if_false, Utf8.ofChars_append, Utf8.ofChars_cons,
      List.append_assoc, List.cons_append, List.nil_append] at htext ⊢
    exact htext

/-- **The parts between two brackets are read**, up to what stands in front of the closing one. -/
theorem read_bracketed (hlast : Blank lastLine)
    (hclose : digit? (.char close) = none ∧ close ≠ '.' ∧ close ≠ 'e' ∧ close ≠ 'E')
    (h : Gets close line read parts x) (opening : Char) (s : List Piece) :
    ∃ t last, Utf8.ofChars (bracketed opening close line lastLine parts) ++ s =
        .char opening :: t ∧ Blank last ∧
      read (t.length + 1) true t = .ok (x, Utf8.ofChars last ++ .char close :: s) := by
  cases h with
  | stop stops =>
    have hnil : Blank [] := List.forall_mem_nil _
    exact ⟨.char close :: s, [], rfl, hnil, stops hnil _ true s⟩
  | @part _ next part parts f x takes further =>
    have hends := ends_furtherChars hlast hclose line parts s
    refine ⟨Utf8.ofChars (comma true ++ line) ++ (Utf8.ofChars part ++
      (Utf8.ofChars (furtherChars close line lastLine parts) ++ s)), lastLine, ?_, hlast, ?_⟩
    · simp only [bracketed, comma, if_true, Utf8.ofChars_append, Utf8.ofChars_cons,
        List.append_assoc, List.cons_append, List.nil_append]
    · rw [takes hends, read_furtherChars hlast hclose further]
      · rfl
      · have hlength := length_lt_length_furtherChars close line lastLine parts
        simp only [List.length_append, Utf8.length_ofChars] at hlength ⊢
        omega

/-- A reader that takes every part of a list, in front of the others, gets the list. -/
theorem gets_list {β : Type} {read : Nat → Bool → List Piece → Read (List β)}
    {write : β → List Char} {xs : List β} (hstop : StopsAt close read [])
    (hxs : ∀ x ∈ xs, Takes read read line (write x) (x :: ·)) :
    Gets close line read (xs.map write) xs := by
  induction xs with
  | nil => exact .stop hstop
  | cons x xs ih =>
    obtain ⟨hx, hxs⟩ := List.forall_mem_cons.mp hxs
    exact .part hx (ih hxs)

end

/-! ## Elements and members -/

/-- A value that is read starts with a character that closes nothing. -/
theorem exists_start_of_value {depth : Nat} {v : Json} (h : value depth s = .ok (v, rest)) :
    ∃ c t, skipBlank s = .char c :: t ∧ c ≠ ']' ∧ value depth (.char c :: t) = .ok (v, rest) := by
  obtain ⟨c, t, hskip, -⟩ := value_cases h
  have hc : isBlankPiece (.char c) = false := by
    have hhead := List.head?_dropWhile_not isBlankPiece s
    rw [← skipBlank, hskip] at hhead
    exact hhead
  have ht : value depth (.char c :: t) = .ok (v, rest) := by
    unfold value at h ⊢
    rw [skipBlank_cons hc]
    rwa [hskip] at h
  refine ⟨c, t, hskip, ?_, ht⟩
  rintro rfl
  rw [value_eq_scalar depth hc (by decide) (by decide)] at ht
  cases ht

theorem nextItem_of_start (first : Bool) (hblank : Blank blank) {c : Char} {t : List Piece}
    (hs : skipBlank s = .char c :: t) (hclose : c ≠ ']') :
    nextItem first (Utf8.ofChars (comma first ++ blank) ++ s) = .ok (some (.char c :: t)) := by
  have hskip : skipBlank (Utf8.ofChars blank ++ s) = .char c :: t := by
    rw [skipBlank_append hblank, hs]
  cases first with
  | true =>
    rw [comma, if_pos rfl, List.nil_append, nextItem, hskip]
    dsimp only
    rw [if_neg hclose, if_pos rfl]
  | false =>
    have hcomma : skipBlank (.char ',' :: (Utf8.ofChars blank ++ s)) =
        .char ',' :: (Utf8.ofChars blank ++ s) := skipBlank_cons (by decide) _
    have hne : Piece.char c ≠ .char ']' := fun h => hclose (Piece.char.inj h)
    change nextItem false (.char ',' :: (Utf8.ofChars blank ++ s)) = _
    rw [nextItem, hcomma]
    dsimp only
    rw [if_neg (by decide), if_neg (by decide), if_pos rfl, hskip]
    exact if_neg hne

theorem nextItem_close (first : Bool) (hblank : Blank blank) (s : List Piece) :
    nextItem first (Utf8.ofChars blank ++ .char ']' :: s) = .ok none := by
  rw [nextItem, skipBlank_append hblank, skipBlank_cons (by decide)]
  exact if_pos rfl

theorem stopsAt_items {α : Type} (item : List Piece → Read α) :
    StopsAt ']' (items item) [] := fun hblank m first s => by
  rw [items, nextItem_close first hblank]

/-- An element that is read back is taken. -/
theorem takes_items {n : Nat} {v : Json} {write : Json → List Char} (hblank : Blank blank)
    (hv : ∀ {rest}, Ends rest → value n (Utf8.ofChars (write v) ++ rest) = .ok (v, rest)) :
    Takes (items (value n)) (items (value n)) blank (write v) (v :: ·) := fun _ hrest m first => by
  obtain ⟨c, t, hskip, hclose, ht⟩ := exists_start_of_value (hv hrest)
  rw [items, nextItem_of_start first hblank hskip hclose]
  dsimp only
  rw [ht]

theorem nextKey_quote (first : Bool) (hblank : Blank blank) (s : List Piece) :
    nextKey first (Utf8.ofChars (comma first ++ blank) ++ .char '"' :: s) = .ok (some s) := by
  have hskip : skipBlank (Utf8.ofChars blank ++ .char '"' :: s) = .char '"' :: s := by
    rw [skipBlank_append hblank, skipBlank_cons (by decide)]
  cases first with
  | true =>
    rw [comma, if_pos rfl, List.nil_append, nextKey, hskip]
    rfl
  | false =>
    have hcomma : skipBlank (.char ',' :: (Utf8.ofChars blank ++ .char '"' :: s)) =
        .char ',' :: (Utf8.ofChars blank ++ .char '"' :: s) := skipBlank_cons (by decide) _
    change nextKey false (.char ',' :: (Utf8.ofChars blank ++ .char '"' :: s)) = _
    rw [nextKey, hcomma]
    dsimp only
    rw [if_neg (by decide), if_neg (by decide), if_pos rfl, hskip]
    rfl

theorem nextKey_close (first : Bool) (hblank : Blank blank) (s : List Piece) :
    nextKey first (Utf8.ofChars blank ++ .char '\x7d' :: s) = .ok none := by
  rw [nextKey, skipBlank_append hblank, skipBlank_cons (by decide)]
  exact if_pos rfl

theorem stopsAt_members {α : Type} (item : List Piece → Read α) :
    StopsAt '\x7d' (members item) [] := fun hblank m first s => by
  rw [members, nextKey_close first hblank]

/-- The pieces of a member: its key between quotes, the colon, and its value. -/
theorem ofChars_memberText (gap : List Char) (key : String) (value : List Char)
    (rest : List Piece) :
    Utf8.ofChars (memberText gap key value) ++ rest =
      .char '"' :: (Utf8.ofChars (key.toList.flatMap escape ++ ['"']) ++
        (.char ':' :: (Utf8.ofChars gap ++ (Utf8.ofChars value ++ rest)))) := by
  simp only [memberText, stringChars, Utf8.ofChars_append, Utf8.ofChars_cons, List.append_assoc,
    List.cons_append]

/-- A member whose value is read back is taken. -/
theorem takes_members {n : Nat} {m : String × Json} {write : Json → List Char} (hblank : Blank blank)
    {gap : List Char} (hgap : Blank gap)
    (hv : ∀ {rest}, Ends rest → value n (Utf8.ofChars (write m.2) ++ rest) = .ok (m.2, rest)) :
    Takes (members (value n)) (members (value n)) blank (memberText gap m.1 (write m.2)) (m :: ·) :=
  fun rest hrest k first => by
    rw [ofChars_memberText, members, nextKey_quote first hblank]
    dsimp only
    rw [string_escaped]
    dsimp only
    rw [colon_colon]
    dsimp only
    rw [value_blank_append hgap, hv hrest]

namespace Layout

variable {n : Nat}

/-- The texts of values in a layout are read back whatever ends them. -/
def ReadsBack (L : Layout) (n depth : Nat) (v : Json) : Prop :=
  ∀ {rest}, Ends rest → value n (Utf8.ofChars (L.print depth v) ++ rest) = .ok (v, rest)

/-- Between the brackets of an array its elements are read. -/
theorem value_arr (L : Layout) {depth : Nat} {vs : List Json}
    (hvs : ∀ v ∈ vs, L.ReadsBack n (depth + 1) v) : L.ReadsBack (n + 1) depth (.arr vs) := by
  intro s _
  have hgets : Gets ']' (L.line (depth + 1)) (items (value n)) (vs.map (L.print (depth + 1))) vs :=
    gets_list (stopsAt_items _) fun v hv => takes_items (L.blank_line (depth + 1)) (hvs v hv)
  obtain ⟨t, last, htext, hlast, hitems⟩ :=
    read_bracketed (L.blank_line depth) (by decide) hgets '[' s
  have hvalue : value (n + 1) (.char '[' :: t) =
      (array (value n) t).map fun r => (.arr r.1, r.2) := rfl
  rw [L.print_arr, htext, hvalue, array, hitems]
  dsimp only
  rw [closing_blank_append hlast (by decide)]
  rfl

/-- Between the braces of an object its members are read. -/
theorem value_obj (L : Layout) {depth : Nat} {ms : List (String × Json)}
    (hms : ∀ m ∈ ms, L.ReadsBack n (depth + 1) m.2) (hkeys : (ms.map Prod.fst).Nodup) :
    L.ReadsBack (n + 1) depth (.obj ms) := by
  intro s _
  have hgets : Gets '\x7d' (L.line (depth + 1)) (members (value n))
      (ms.map fun m => memberText L.gap m.1 (L.print (depth + 1) m.2)) ms :=
    gets_list (stopsAt_members _) fun m hm =>
      takes_members (L.blank_line (depth + 1)) L.blank_gap (hms m hm)
  obtain ⟨t, last, htext, hlast, hmembers⟩ :=
    read_bracketed (L.blank_line depth) (by decide) hgets '\x7b' s
  have hvalue : value (n + 1) (.char '\x7b' :: t) =
      (object (value n) t).map fun r => (ofMembers r.1, r.2) := rfl
  rw [L.print_obj, htext, hvalue, object, hmembers]
  dsimp only
  rw [closing_blank_append hlast (by decide)]
  exact congrArg (fun v => Except.ok (v, s)) (ofMembers_of_nodup hkeys)

end Layout

/-! ## Values -/

mutual

/-- The doubles in a value. -/
def doubles : Json → List Double
  | .double d => [d]
  | .arr items => itemDoubles items
  | .obj members => memberDoubles members
  | _ => []

/-- The doubles in elements. -/
def itemDoubles : List Json → List Double
  | [] => []
  | item :: items => item.doubles ++ itemDoubles items

/-- The doubles in the values of members. -/
def memberDoubles : List (String × Json) → List Double
  | [] => []
  | (_, value) :: members => value.doubles ++ memberDoubles members

end

theorem mem_itemDoubles {d : Double} {items : List Json} :
    d ∈ itemDoubles items ↔ ∃ v ∈ items, d ∈ v.doubles := by
  induction items with
  | nil => simp [itemDoubles]
  | cons item items ih => rw [itemDoubles, List.mem_append, ih, List.exists_mem_cons_iff]

theorem mem_memberDoubles {d : Double} {members : List (String × Json)} :
    d ∈ memberDoubles members ↔ ∃ m ∈ members, d ∈ m.2.doubles := by
  induction members with
  | nil => simp [memberDoubles]
  | cons m members ih => rw [memberDoubles, List.mem_append, ih, List.exists_mem_cons_iff]

/-- Every double in a value is read back from its own text. -/
def DoublesReadBack (v : Json) : Prop :=
  ∀ d ∈ v.doubles, parse (Json.double d).compact = .ok (.double d)

theorem doublesReadBack_arr {items : List Json} :
    DoublesReadBack (.arr items) ↔ ∀ v ∈ items, DoublesReadBack v := by
  simp only [DoublesReadBack, doubles, mem_itemDoubles]
  exact ⟨fun h v hv d hd => h d ⟨v, hv, hd⟩, fun h d ⟨v, hv, hd⟩ => h v hv d hd⟩

theorem doublesReadBack_obj {members : List (String × Json)} :
    DoublesReadBack (.obj members) ↔ ∀ m ∈ members, DoublesReadBack m.2 := by
  simp only [DoublesReadBack, doubles, mem_memberDoubles]
  exact ⟨fun h m hm d hd => h d ⟨m, hm, hd⟩, fun h d ⟨m, hm, hd⟩ => h m hm d hd⟩

/-- A double shows itself in what is found of a value. -/
theorem eq_double_of_found {v : Json} {d : Double} (h : Found.ofValue v = .double d) :
    v = .double d := by
  cases v with
  | double d' => exact congrArg Json.double (Found.double.inj h)
  | _ => cases h

/-- Doubles are read back where they are what is found in their own texts. -/
theorem doublesReadBack_of_found {v : Json}
    (h : ∀ d ∈ v.doubles, (parse (Json.double d).compact).map Found.ofValue = .ok (.double d)) :
    v.DoublesReadBack := fun d hd => by
  obtain ⟨w, hw, hfound⟩ := exists_of_map_eq_ok (h d hd)
  rw [hw, eq_double_of_found hfound]

/-- **A scalar is read back** from its text. -/
theorem value_scalarChars (n : Nat) {v : Json} (hscalar : v.isScalar = true) (wf : v.WellFormed)
    (doubles : v.DoublesReadBack) (hrest : Ends rest) :
    value n (Utf8.ofChars v.chars ++ rest) = .ok (v, rest) := by
  cases wf with
  | null =>
    change value n (.char 'n' :: (Utf8.ofChars ['u', 'l', 'l'] ++ rest)) = _
    rw [value_eq_scalar n (by decide) (by decide) (by decide), scalar, if_pos rfl, word_ofChars]
    rfl
  | bool b =>
    cases b with
    | true =>
      change value n (.char 't' :: (Utf8.ofChars ['r', 'u', 'e'] ++ rest)) = _
      rw [value_eq_scalar n (by decide) (by decide) (by decide), scalar, if_neg (by decide),
        if_pos rfl, word_ofChars]
      rfl
    | false =>
      change value n (.char 'f' :: (Utf8.ofChars ['a', 'l', 's', 'e'] ++ rest)) = _
      rw [value_eq_scalar n (by decide) (by decide) (by decide), scalar, if_neg (by decide),
        if_neg (by decide), if_pos rfl, word_ofChars]
      rfl
  | int lower upper => exact value_intChars n lower upper hrest
  | double finite => exact value_doubleChars n finite (doubles _ List.mem_cons_self) hrest
  | str text =>
    have htext : Utf8.ofChars (stringChars text) ++ rest =
        .char '"' :: (Utf8.ofChars (text.toList.flatMap escape ++ ['"']) ++ rest) := rfl
    rw [chars, htext, value_eq_scalar n (by decide) (by decide) (by decide), scalar,
      if_neg (by decide), if_neg (by decide), if_neg (by decide), if_pos rfl, string_escaped]
    rfl
  | arr _ | obj _ _ => cases hscalar

/-- What a text has to be made of to be read back: a well-formed value that is nested no deeper than
the reader may open, with doubles that are read back. -/
structure Recoverable (n : Nat) (v : Json) : Prop where
  nested : NestedAtMost n v
  wellFormed : v.WellFormed
  doubles : v.DoublesReadBack

namespace Recoverable

variable {n : Nat}

/-- Strings are recoverable at any depth. -/
theorem str (n : Nat) (text : String) : Recoverable n (.str text) :=
  ⟨.scalar rfl, .str text, fun _ hd => absurd hd List.not_mem_nil⟩

/-- A value that bytes write is recoverable if its doubles are. -/
theorem of_parseBytes {bytes : List UInt8} {v : Json} (h : parseBytes bytes = .ok v)
    (doubles : v.DoublesReadBack) : Recoverable maxDepth v :=
  ⟨nestedAtMost_of_parseBytes h, wellFormed_of_parseBytes h, doubles⟩

theorem mono {n' : Nat} {v : Json} (h : Recoverable n v) (hle : n ≤ n') : Recoverable n' v :=
  ⟨h.nested.mono hle, h.wellFormed, h.doubles⟩

theorem of_arr {items : List Json} (h : Recoverable (n + 1) (.arr items)) :
    ∀ v ∈ items, Recoverable n v := fun v hv => by
  have wf := h.wellFormed
  cases wf with
  | arr items_wf => exact ⟨h.nested.of_arr v hv, items_wf v hv, doublesReadBack_arr.mp h.doubles v hv⟩

theorem of_obj {members : List (String × Json)} (h : Recoverable (n + 1) (.obj members)) :
    ∀ m ∈ members, Recoverable n m.2 := fun m hm => by
  have wf := h.wellFormed
  cases wf with
  | obj _ values => exact ⟨h.nested.of_obj m hm, values m hm, doublesReadBack_obj.mp h.doubles m hm⟩

theorem nodup_keys {members : List (String × Json)} (h : Recoverable n (.obj members)) :
    (members.map Prod.fst).Nodup := by
  have wf := h.wellFormed
  cases wf with
  | obj keys _ => exact keys

theorem arr {items : List Json} (h : ∀ v ∈ items, Recoverable n v) :
    Recoverable (n + 1) (.arr items) where
  nested := .arr fun v hv => (h v hv).nested
  wellFormed := .arr fun v hv => (h v hv).wellFormed
  doubles := doublesReadBack_arr.mpr fun v hv => (h v hv).doubles

theorem obj {members : List (String × Json)} (hkeys : (members.map Prod.fst).Nodup)
    (h : ∀ m ∈ members, Recoverable n m.2) : Recoverable (n + 1) (.obj members) where
  nested := .obj fun m hm => (h m hm).nested
  wellFormed := .obj hkeys fun m hm => (h m hm).wellFormed
  doubles := doublesReadBack_obj.mpr fun m hm => (h m hm).doubles

end Recoverable

namespace Layout

/-- **Every recoverable value is read back** from its text in any layout. -/
theorem value_print (L : Layout) {n : Nat} {v : Json} (h : Recoverable n v) (depth : Nat) :
    L.ReadsBack n depth v := by
  obtain ⟨nested, wf, doubles⟩ := h
  induction nested generalizing depth with
  | scalar hscalar =>
    intro rest hrest
    rw [L.print_scalar _ _ hscalar]
    exact value_scalarChars _ hscalar wf doubles hrest
  | arr _ ih =>
    cases wf with
    | arr items_wf =>
      exact L.value_arr fun v hv =>
        ih v hv (depth + 1) (items_wf v hv) (doublesReadBack_arr.mp doubles v hv)
  | obj _ ih =>
    cases wf with
    | obj keys values =>
      exact L.value_obj (fun m hm =>
        ih m hm (depth + 1) (values m hm) (doublesReadBack_obj.mp doubles m hm)) keys

/-- A text in a layout is a text of its value. -/
theorem parse_print (L : Layout) {v : Json} (h : Recoverable maxDepth v) (depth : Nat) :
    parse (String.ofList (L.print depth v)) = .ok v := by
  have hvalue := L.value_print h depth ends_nil
  rw [List.append_nil] at hvalue
  rw [parse, String.toList_ofList, parsePieces, whole, hvalue]
  rfl

end Layout

/-- Compact text is read back. -/
theorem parse_compact {v : Json} (h : Recoverable maxDepth v) : parse v.compact = .ok v :=
  compactLayout.parse_print h 0

/-- Indented text is read back. -/
theorem parse_indented {v : Json} (h : Recoverable maxDepth v) : parse v.indented = .ok v :=
  indentedLayout.parse_print h 0

end Json
end QueryConsole
