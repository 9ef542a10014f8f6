/-
# Arrays and objects are read as the grammar says

A reader reads what a grammar writes (`Reads`) if it succeeds exactly on the texts of the grammar, behind
any blank characters, with the values that they say.  Then its items are stepped over in an array
(`stepsOver_items`), and its values behind their keys in an object (`stepsOver_members`).
-/

import QueryConsole.Proofs.Json.Parts

namespace QueryConsole
namespace Json

open Utf8 (Piece)

variable {α : Type} {s s' t rest : List Piece} {x : α} {first : Bool}

/-- The reader succeeds exactly behind blank characters and a text that is written for the value, and it
leaves what follows. -/
def Reads (read : List Piece → Read α) (written : List Char → α → Prop) : Prop :=
  ∀ ⦃s x rest⦄, read s = .ok (x, rest) ↔
    ∃ blank cs, Blank blank ∧ written cs x ∧ s = Utf8.ofChars (blank ++ cs) ++ rest

variable {read : List Piece → Read α} {written : List Char → α → Prop}

/-! ## Items and members -/

/-- Reads the next item of an array. -/
def itemStep (read : List Piece → Read α) (first : Bool) (s : List Piece) :
    Except Problem (Option (α × List Piece)) :=
  match nextItem first s with
  | .error problem => .error problem
  | .ok none => .ok none
  | .ok (some s) => (read s).map some

/-- Reads a member of an object from behind the opening quote of its key. -/
def memberBody (read : List Piece → Read α) (s : List Piece) : Read (String × α) :=
  match string s with
  | .error problem => .error problem
  | .ok (key, s) =>
    match colon s with
    | .error problem => .error problem
    | .ok s => (read s).map fun (x, s) => ((key, x), s)

/-- Reads the next member of an object. -/
def memberStep (read : List Piece → Read α) (first : Bool) (s : List Piece) :
    Except Problem (Option ((String × α) × List Piece)) :=
  match nextKey first s with
  | .error problem => .error problem
  | .ok none => .ok none
  | .ok (some s) => (memberBody read s).map some

theorem items_eq (read : List Piece → Read α) : items read = steps (itemStep read) := by
  funext n first s
  induction n generalizing first s with
  | zero => rfl
  | succ n ih =>
    rw [items, steps, itemStep]
    cases nextItem first s with
    | error problem => rfl
    | ok next =>
      cases next with
      | none => rfl
      | some s =>
        cases hread : read s with
        | error problem => simp only [hread, Except.map]
        | ok result => simp only [hread, Except.map, ih]

theorem members_eq (read : List Piece → Read α) : members read = steps (memberStep read) := by
  funext n first s
  induction n generalizing first s with
  | zero => rfl
  | succ n ih =>
    rw [members, steps, memberStep]
    cases nextKey first s with
    | error problem => rfl
    | ok next =>
      cases next with
      | none => rfl
      | some s =>
        dsimp only
        rw [memberBody]
        cases string s with
        | error problem => rfl
        | ok result =>
          obtain ⟨key, s⟩ := result
          dsimp only
          cases colon s with
          | error problem => rfl
          | ok s =>
            cases hread : read s with
            | error problem => simp only [hread, Except.map]
            | ok result => simp only [hread, Except.map, ih]

theorem array_eq (read : List Piece → Read α) : array read = enclosed (itemStep read) ']' := by
  funext s
  have hparts : items read (s.length + 1) true s = steps (itemStep read) (s.length + 1) true s := by
    rw [items_eq]
  unfold array enclosed
  cases hsteps : steps (itemStep read) (s.length + 1) true s with
  | error problem => simp only [hparts, hsteps]
  | ok result => simp only [hparts, hsteps]

theorem object_eq (read : List Piece → Read α) : object read = enclosed (memberStep read) '\x7d' := by
  funext s
  have hparts : members read (s.length + 1) true s = steps (memberStep read) (s.length + 1) true s := by
    rw [members_eq]
  unfold object enclosed
  cases hsteps : steps (memberStep read) (s.length + 1) true s with
  | error problem => simp only [hparts, hsteps]
  | ok result => simp only [hparts, hsteps]

/-- No item is found exactly in front of a bracket that closes. -/
theorem nextItem_eq_none_iff : nextItem first s = .ok none ↔
    ∃ blank t, Blank blank ∧ s = Utf8.ofChars blank ++ .char ']' :: t := by
  constructor
  · intro h
    unfold nextItem at h
    split at h
    · cases h
    · rename_i c t hskip
      by_cases hc : c = ']'
      · subst hc
        obtain ⟨blank, hblank, hs⟩ := (skipBlank_eq_cons_iff (by decide)).mp hskip
        exact ⟨blank, t, hblank, hs⟩
      · rw [if_neg hc] at h
        split at h
        · cases h
        · split at h
          · split at h
            · cases h
            · split at h <;> cases h
          · cases h
    · split at h <;> cases h
  · rintro ⟨blank, t, hblank, rfl⟩
    exact nextItem_close first hblank t

/-- An item that is found stands behind what separates it. -/
theorem exists_of_nextItem (h : nextItem first s = .ok (some s')) :
    ∃ gap lead, Blank gap ∧ Blank lead ∧ s = Utf8.ofChars (gap ++ comma first ++ lead) ++ s' := by
  obtain ⟨gap, hgap, hs⟩ := exists_skipBlank s
  have hlead : Blank [] := List.forall_mem_nil _
  unfold nextItem at h
  split at h
  · cases h
  · rename_i c t hskip
    split at h
    · cases h
    · split at h
      · rename_i hfirst
        obtain rfl := Option.some.inj (Except.ok.inj h)
        refine ⟨gap, [], hgap, hlead, ?_⟩
        rw [comma, if_pos hfirst, List.append_nil, List.append_nil, ← hskip, ← hs]
      · rename_i hfirst
        split at h
        · rename_i hcomma
          subst hcomma
          obtain ⟨lead, hlead, ht⟩ := exists_skipBlank t
          split at h
          · cases h
          · rename_i p u hskip'
            split at h
            · cases h
            · obtain rfl := Option.some.inj (Except.ok.inj h)
              refine ⟨gap, lead, hgap, hlead, ?_⟩
              rw [comma, if_neg hfirst, List.append_assoc, ofChars_append_append, List.singleton_append,
                Utf8.ofChars_cons, List.cons_append, ← hskip', ← ht, ← hskip, ← hs]
        · cases h
  · rename_i p t hskip
    split at h
    · rename_i hfirst
      obtain rfl := Option.some.inj (Except.ok.inj h)
      refine ⟨gap, [], hgap, hlead, ?_⟩
      rw [comma, if_pos hfirst, List.append_nil, List.append_nil, ← hskip, ← hs]
    · cases h

/-- No key is found exactly in front of a brace that closes. -/
theorem nextKey_eq_none_iff : nextKey first s = .ok none ↔
    ∃ blank t, Blank blank ∧ s = Utf8.ofChars blank ++ .char '\x7d' :: t := by
  constructor
  · intro h
    unfold nextKey at h
    split at h
    · cases h
    · rename_i p t hskip
      by_cases hp : p = .char '\x7d'
      · subst hp
        obtain ⟨blank, hblank, hs⟩ := (skipBlank_eq_cons_iff (by decide)).mp hskip
        exact ⟨blank, t, hblank, hs⟩
      · rw [if_neg hp] at h
        split at h
        · split at h <;> cases h
        · split at h
          · split at h
            · cases h
            · split at h <;> cases h
          · cases h
  · rintro ⟨blank, t, hblank, rfl⟩
    exact nextKey_close first hblank t

/-- A key that is found stands behind what separates it, and its opening quote is passed. -/
theorem exists_of_nextKey (h : nextKey first s = .ok (some s')) :
    ∃ gap lead, Blank gap ∧ Blank lead ∧
      s = Utf8.ofChars (gap ++ comma first ++ lead) ++ .char '"' :: s' := by
  obtain ⟨gap, hgap, hs⟩ := exists_skipBlank s
  unfold nextKey at h
  split at h
  · cases h
  · rename_i p t hskip
    split at h
    · cases h
    · split at h
      · rename_i hfirst
        split at h
        · rename_i hquote
          subst hquote
          obtain rfl := Option.some.inj (Except.ok.inj h)
          refine ⟨gap, [], hgap, List.forall_mem_nil _, ?_⟩
          rw [comma, if_pos hfirst, List.append_nil, List.append_nil, ← hskip, ← hs]
        · cases h
      · rename_i hfirst
        split at h
        · rename_i hcomma
          subst hcomma
          obtain ⟨lead, hlead, ht⟩ := exists_skipBlank t
          split at h
          · cases h
          · rename_i q u hskip'
            split at h
            · rename_i hquote
              subst hquote
              obtain rfl := Option.some.inj (Except.ok.inj h)
              refine ⟨gap, lead, hgap, hlead, ?_⟩
              rw [comma, if_neg hfirst, List.append_assoc, ofChars_append_append, List.singleton_append,
                Utf8.ofChars_cons, List.cons_append, ← hskip', ← ht, ← hskip, ← hs]
            · cases h
        · cases h

/-- The separation in front of a part, taken apart. -/
theorem ofChars_part (first : Bool) (gap lead text : List Char) (rest : List Piece) :
    Utf8.ofChars (gap ++ comma first ++ lead ++ text) ++ rest =
      Utf8.ofChars gap ++ (Utf8.ofChars (comma first ++ lead) ++ (Utf8.ofChars text ++ rest)) := by
  rw [ofChars_append_append (gap ++ comma first ++ lead), List.append_assoc gap, ofChars_append_append gap]

/-- The step passes over what separates an item, up to its first character. -/
theorem itemStep_append {gap lead cs : List Char} {c : Char} (hgap : Blank gap) (hlead : Blank lead)
    (hc : isBlankPiece (.char c) = false) (hclose : c ≠ ']') :
    itemStep read first (Utf8.ofChars (gap ++ comma first ++ lead ++ c :: cs) ++ rest) =
      (read (Utf8.ofChars (c :: cs) ++ rest)).map some := by
  have hstart := nextItem_of_start first hlead (skipBlank_cons hc (Utf8.ofChars cs ++ rest)) hclose
  have hnext : nextItem first (Utf8.ofChars (gap ++ comma first ++ lead ++ c :: cs) ++ rest) =
      .ok (some (Utf8.ofChars (c :: cs) ++ rest)) := by
    rw [ofChars_part, nextItem, skipBlank_append hgap]
    exact hstart
  rw [itemStep, hnext]

/-- The step passes over what separates a member, up to the opening quote of its key. -/
theorem memberStep_append {gap lead cs : List Char} (hgap : Blank gap) (hlead : Blank lead) :
    memberStep read first (Utf8.ofChars (gap ++ comma first ++ lead ++ '"' :: cs) ++ rest) =
      (memberBody read (Utf8.ofChars cs ++ rest)).map some := by
  have hstart := nextKey_quote first hlead (Utf8.ofChars cs ++ rest)
  have hnext : nextKey first (Utf8.ofChars (gap ++ comma first ++ lead ++ '"' :: cs) ++ rest) =
      .ok (some (Utf8.ofChars cs ++ rest)) := by
    rw [ofChars_part, nextKey, skipBlank_append hgap]
    exact hstart
  rw [memberStep, hnext]

/-- **Items are stepped over** by a reader that reads what is written for them, if these are texts of
values. -/
theorem stepsOver_items (h : Reads read written) (hvalue : ∀ cs x, written cs x → IsValue cs) :
    StepsOver (itemStep read) ']' written where
  close_visible := by decide
  none_iff {first s} := by
    rw [← nextItem_eq_none_iff]
    unfold itemStep
    cases nextItem first s with
    | error problem => simp
    | ok next =>
      cases next with
      | none => simp
      | some s => cases hread : read s <;> simp [hread, Except.map]
  some_iff {first s rest x} := by
    constructor
    · intro hstep
      unfold itemStep at hstep
      split at hstep
      · cases hstep
      · cases hstep
      · rename_i s' hnext
        obtain ⟨result, hread, hresult⟩ := exists_of_map_eq_ok hstep
        obtain rfl := Option.some.inj hresult
        obtain ⟨gap, lead, hgap, hlead, rfl⟩ := exists_of_nextItem hnext
        obtain ⟨blank, cs, hblank, hcs, rfl⟩ := h.mp hread
        refine ⟨gap, lead ++ blank, cs, hgap, hlead.append hblank, hcs, ?_⟩
        rw [← ofChars_append_append, ← List.append_assoc, List.append_assoc _ lead]
    · rintro ⟨gap, lead, text, hgap, hlead, htext, rfl⟩
      obtain ⟨c, cs, rfl, hc, hclose, -⟩ := (hvalue _ _ htext).exists_cons
      have hread : read (Utf8.ofChars (c :: cs) ++ rest) = .ok (x, rest) :=
        h.mpr ⟨[], c :: cs, List.forall_mem_nil _, htext, rfl⟩
      rw [itemStep_append hgap hlead hc hclose, hread]
      rfl
  nonempty htext := by
    obtain ⟨c, cs, rfl, -⟩ := (hvalue _ _ htext).exists_cons
    exact List.cons_ne_nil c cs

theorem colon_eq_ok_iff :
    colon s = .ok rest ↔ ∃ blank, Blank blank ∧ s = Utf8.ofChars blank ++ .char ':' :: rest := by
  rw [← skipBlank_eq_cons_iff (by decide)]
  unfold colon
  cases skipBlank s with
  | nil => simp
  | cons p t => by_cases hp : p = .char ':' <;> simp [hp]

/-- A member starts with the opening quote of its key. -/
theorem IsMember.exists_quote {cs : List Char} {m : String × α} (h : IsMember written cs m) :
    ∃ rest, cs = '"' :: rest := by
  obtain ⟨key, gap, lead, text, rfl, ⟨body, rfl, -⟩, -⟩ := h
  exact ⟨_, rfl⟩

/-- A member behind its opening quote, taken apart. -/
theorem ofChars_memberBody (body gap value : List Char) (rest : List Piece) :
    Utf8.ofChars (body ++ ['"'] ++ (gap ++ ':' :: value)) ++ rest =
      Utf8.ofChars (body ++ ['"']) ++
        (Utf8.ofChars gap ++ .char ':' :: (Utf8.ofChars value ++ rest)) := by
  rw [ofChars_append_append (body ++ _), ofChars_append_append gap, Utf8.ofChars_cons, List.cons_append]

/-- A member is read from behind its opening quote exactly as the grammar says. -/
theorem memberBody_eq_ok_iff (h : Reads read written) {m : String × α} :
    memberBody read s = .ok (m, rest) ↔
      ∃ cs, s = Utf8.ofChars cs ++ rest ∧ IsMember written ('"' :: cs) m := by
  constructor
  · intro hbody
    unfold memberBody at hbody
    split at hbody
    · cases hbody
    · rename_i key behind hkey
      split at hbody
      · cases hbody
      · rename_i after hcolon
        obtain ⟨⟨x, s'⟩, hread, heq⟩ := exists_of_map_eq_ok hbody
        obtain ⟨rfl, rfl⟩ := Prod.mk.inj heq
        obtain ⟨body, rfl, hstring⟩ := string_eq_ok_iff.mp hkey
        obtain ⟨gap, hgap, rfl⟩ := colon_eq_ok_iff.mp hcolon
        obtain ⟨lead, text, hlead, htext, rfl⟩ := h.mp hread
        exact ⟨body ++ ['"'] ++ (gap ++ ':' :: (lead ++ text)), (ofChars_memberBody _ _ _ _).symm,
          '"' :: (body ++ ['"']), gap, lead, text, rfl, ⟨body, rfl, hstring⟩, hgap, hlead, htext⟩
  · rintro ⟨cs, rfl, key, gap, lead, text, hcs, ⟨body, rfl, hstring⟩, hgap, hlead, htext⟩
    obtain rfl : cs = body ++ ['"'] ++ (gap ++ ':' :: (lead ++ text)) := List.tail_eq_of_cons_eq hcs
    rw [ofChars_memberBody, memberBody, string_eq_ok_iff.mpr ⟨body, rfl, hstring⟩]
    dsimp only
    rw [colon_eq_ok_iff.mpr ⟨gap, hgap, rfl⟩]
    dsimp only
    rw [h.mpr ⟨lead, text, hlead, htext, rfl⟩]
    rfl

/-- **Members are stepped over** by a reader that reads what is written for their values. -/
theorem stepsOver_members (h : Reads read written) :
    StepsOver (memberStep read) '\x7d' (IsMember written) where
  close_visible := by decide
  none_iff {first s} := by
    rw [← nextKey_eq_none_iff]
    unfold memberStep
    cases nextKey first s with
    | error problem => simp
    | ok next =>
      cases next with
      | none => simp
      | some s => cases hbody : memberBody read s <;> simp [hbody, Except.map]
  some_iff {first s rest m} := by
    constructor
    · intro hstep
      unfold memberStep at hstep
      split at hstep
      · cases hstep
      · cases hstep
      · rename_i s' hnext
        obtain ⟨result, hbody, hresult⟩ := exists_of_map_eq_ok hstep
        obtain rfl := Option.some.inj hresult
        obtain ⟨gap, lead, hgap, hlead, rfl⟩ := exists_of_nextKey hnext
        obtain ⟨cs, rfl, hmember⟩ := (memberBody_eq_ok_iff h).mp hbody
        refine ⟨gap, lead, '"' :: cs, hgap, hlead, hmember, ?_⟩
        rw [ofChars_append_append _ ('"' :: cs), Utf8.ofChars_cons, List.cons_append]
    · rintro ⟨gap, lead, text, hgap, hlead, hmember, rfl⟩
      obtain ⟨cs, rfl⟩ := hmember.exists_quote
      rw [memberStep_append hgap hlead, (memberBody_eq_ok_iff h).mpr ⟨cs, rfl, hmember⟩]
      rfl
  nonempty hmember := by
    obtain ⟨cs, rfl⟩ := hmember.exists_quote
    exact List.cons_ne_nil '"' cs

end Json
end QueryConsole
