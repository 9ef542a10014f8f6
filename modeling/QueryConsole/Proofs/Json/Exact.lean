/-
# Values of one type are read, and all others refused

Strings and arrays of them are read exactly where the grammar writes them (`reads_text`,
`reads_sequence`).  Any other value is refused (`Refuses`), whatever follows it: there is no value of which
a reader of strings, or of arrays of strings, takes a part (`text_decided`, `sequence_decided`).
-/

import QueryConsole.Proofs.Json.Elements

namespace QueryConsole
namespace Json

open Utf8 (Piece)

variable {α : Type} {s rest : List Piece} {x : α} {cs : List Char} {expected : Expected}
  {opening : Char} {inner : List Piece → Read α} {read : List Piece → Read α}
  {written : List Char → α → Prop}

/-- The reader fails on the text, whatever blank characters stand before it and whatever follows. -/
def Refuses (read : List Piece → Read α) (cs : List Char) : Prop :=
  ∀ ⦃blank⦄, Blank blank → ∀ rest,
    ∃ problem, read (Utf8.ofChars (blank ++ cs) ++ rest) = .error problem

/-- The reader reads the text of a value or refuses it. -/
def Decides (read : List Piece → Read α) (written : List Char → α → Prop) : Prop :=
  ∀ ⦃cs⦄, IsValue cs → (∃ x, written cs x) ∨ Refuses read cs

/-! ## Values that open with one character -/

/-- A value that has to open with one character. -/
theorem typed_eq_ok_iff (hopening : isBlankPiece (.char opening) = false) :
    typed expected (fun c rest => if c = opening then some (inner rest) else none) s = .ok (x, rest) ↔
      ∃ blank t, Blank blank ∧ s = Utf8.ofChars blank ++ .char opening :: t ∧ inner t = .ok (x, rest) := by
  constructor
  · intro h
    unfold typed at h
    split at h
    · cases h
    · cases h
    · rename_i c t hskip
      dsimp only at h
      by_cases hc : c = opening
      · subst hc
        rw [if_pos rfl] at h
        obtain ⟨blank, hblank, hs⟩ := (skipBlank_eq_cons_iff hopening).mp hskip
        exact ⟨blank, t, hblank, hs, h⟩
      · rw [if_neg hc] at h
        cases h
  · rintro ⟨blank, t, hblank, rfl, hinner⟩
    rw [typed, skipBlank_append hblank, skipBlank_cons hopening]
    dsimp only
    rw [if_pos rfl, Option.getD_some, hinner]

/-- A reader of such values reads what the grammar writes, if it does so behind the opening character. -/
theorem reads_typed (hopening : isBlankPiece (.char opening) = false)
    (hinner : ∀ s x rest, inner s = .ok (x, rest) ↔
      ∃ cs, s = Utf8.ofChars cs ++ rest ∧ written (opening :: cs) x)
    (hwritten : ∀ cs x, written cs x → ∃ rest, cs = opening :: rest) :
    Reads (typed expected fun c rest => if c = opening then some (inner rest) else none) written := by
  intro s x rest
  rw [typed_eq_ok_iff hopening]
  constructor
  · rintro ⟨blank, t, hblank, rfl, h⟩
    obtain ⟨cs, rfl, hcs⟩ := (hinner t x rest).mp h
    refine ⟨blank, opening :: cs, hblank, hcs, ?_⟩
    rw [ofChars_append_append, Utf8.ofChars_cons, List.cons_append]
  · rintro ⟨blank, cs, hblank, hcs, rfl⟩
    obtain ⟨cs, rfl⟩ := hwritten cs x hcs
    refine ⟨blank, Utf8.ofChars cs ++ rest, hblank, ?_, (hinner _ _ _).mpr ⟨cs, rfl, hcs⟩⟩
    rw [ofChars_append_append, Utf8.ofChars_cons, List.cons_append]

/-- It refuses what opens with another character. -/
theorem refuses_typed_of_ne {c : Char} (hblank : isBlankPiece (.char c) = false) (hc : c ≠ opening) :
    Refuses (typed expected fun c rest => if c = opening then some (inner rest) else none)
      (c :: cs) := by
  intro blank hblanks rest
  rw [ofChars_append_append, Utf8.ofChars_cons, List.cons_append, typed, skipBlank_append hblanks,
    skipBlank_cons hblank]
  dsimp only
  rw [if_neg hc]
  exact ⟨_, rfl⟩

/-- It refuses what is refused behind the opening character. -/
theorem refuses_typed_of_inner (hopening : isBlankPiece (.char opening) = false)
    (h : ∀ rest, ∃ problem, inner (Utf8.ofChars cs ++ rest) = .error problem) :
    Refuses (typed expected fun c rest => if c = opening then some (inner rest) else none)
      (opening :: cs) := by
  intro blank hblank rest
  rw [ofChars_append_append, Utf8.ofChars_cons, List.cons_append, typed, skipBlank_append hblank,
    skipBlank_cons hopening]
  dsimp only
  rw [if_pos rfl]
  exact h rest

/-! ## Strings -/

theorem reads_text : Reads text IsString := by
  refine reads_typed (by decide) (fun s str rest => ?_) ?_
  · rw [string_eq_ok_iff]
    constructor
    · rintro ⟨body, rfl, hbody⟩
      exact ⟨body ++ ['"'], rfl, body, rfl, hbody⟩
    · rintro ⟨cs, rfl, body, hcs, hbody⟩
      obtain rfl : cs = body ++ ['"'] := List.tail_eq_of_cons_eq hcs
      exact ⟨body, rfl, hbody⟩
  · rintro cs str ⟨body, rfl, -⟩
    exact ⟨body ++ ['"'], rfl⟩

theorem text_decided : Decides text IsString := by
  intro cs hcs
  obtain ⟨c, rest, rfl, hblank, -, hstring, -⟩ := hcs.exists_cons
  by_cases hc : c = '"'
  · exact .inl (hstring hc)
  · exact .inr (refuses_typed_of_ne hblank hc)

/-! ## Arrays -/

theorem IsString.isValue {str : String} (h : IsString cs str) : IsValue cs := .string h

/-- An array of values is a value. -/
theorem IsArray.isValue {xs : List α} (h : IsArray written cs xs)
    (hvalue : ∀ cs x, written cs x → IsValue cs) : IsValue cs := by
  obtain ⟨parts, rfl, hparts⟩ := h
  have htext : ∀ x ∈ xs, ∀ text, written text x → ∃ text', text = text' ∧ IsValue text' :=
    fun x _ text hx => ⟨text, rfl, hvalue text x hx⟩
  obtain ⟨texts, htexts, hall⟩ := hparts.exists_forall₂ htext
  refine .array ⟨parts, rfl, htexts⟩ fun text htext => ?_
  obtain ⟨x, -, hx⟩ := exists_mem_of_forall₂ hall htext
  exact hx

theorem reads_sequence (h : Reads read written) (hvalue : ∀ cs x, written cs x → IsValue cs) :
    Reads (sequence read) (IsArray written) := by
  refine reads_typed (by decide) (fun s xs rest => ?_) ?_
  · rw [array_eq, (stepsOver_items h hvalue).enclosed_eq_ok_iff]
    constructor
    · rintro ⟨body, rfl, hbody⟩
      exact ⟨body ++ [']'], rfl, body, rfl, hbody⟩
    · rintro ⟨cs, rfl, body, hcs, hbody⟩
      obtain rfl : cs = body ++ [']'] := List.tail_eq_of_cons_eq hcs
      exact ⟨body, rfl, hbody⟩
  · rintro cs xs ⟨body, rfl, -⟩
    exact ⟨body ++ [']'], rfl⟩

/-- What is refused is refused as an item of an array. -/
theorem Refuses.itemStep (h : Refuses read cs) (hcs : IsValue cs) : Refused (itemStep read) cs := by
  intro first gap lead rest hgap hlead
  obtain ⟨c, cs, rfl, hc, hclose, -⟩ := hcs.exists_cons
  obtain ⟨problem, hproblem⟩ := h (List.forall_mem_nil _) rest
  rw [List.nil_append] at hproblem
  refine ⟨problem, ?_⟩
  rw [itemStep_append hgap hlead hc hclose, hproblem]
  rfl

/-- **An array with one item that is refused** is refused as a whole. -/
theorem sequence_decided (h : Reads read written) (hvalue : ∀ cs x, written cs x → IsValue cs)
    (hdecided : Decides read written) : Decides (sequence read) (IsArray written) := by
  intro cs hcs
  obtain ⟨c, rest, rfl, hblank, -, -, harray⟩ := hcs.exists_cons
  by_cases hc : c = '['
  · obtain ⟨texts, ⟨parts, hparts, hseparated⟩, hitems⟩ := harray hc
    obtain ⟨rfl, rfl⟩ := List.cons.inj hparts
    by_cases hall : ∀ text ∈ texts, ∃ x, written text x
    · left
      have hwritten : ∀ text ∈ texts, ∀ cs, cs = text → ∃ x, written cs x ∧ True := by
        rintro text htext _ rfl
        obtain ⟨x, hx⟩ := hall _ htext
        exact ⟨x, hx, trivial⟩
      obtain ⟨xs, hxs, -⟩ := hseparated.exists_forall₂ hwritten
      exact ⟨xs, parts, rfl, hxs⟩
    · right
      push Not at hall
      obtain ⟨bad, hbad, hnone⟩ := hall
      have hrefused : ∀ text ∈ texts, ∀ cs, cs = text →
          (∃ x, written cs x) ∨ Refused (itemStep read) cs := by
        rintro text htext _ rfl
        exact (hdecided (hitems _ htext)).imp id fun hrefuse => hrefuse.itemStep (hitems _ htext)
      have hbad_refused : ∀ cs, cs = bad → Refused (itemStep read) cs := by
        rintro _ rfl
        exact (hrefused _ hbad _ rfl).resolve_left fun ⟨x, hx⟩ => hnone x hx
      refine refuses_typed_of_inner (by decide) fun rest => ?_
      rw [array_eq, enclosed, ofChars_concat]
      obtain ⟨problem, hproblem⟩ :=
        (stepsOver_items h hvalue).error_of_separated hseparated hrefused ⟨bad, hbad, hbad_refused⟩
      exact ⟨problem, by rw [hproblem]⟩
  · exact .inr (refuses_typed_of_ne hblank hc)

/-! ## Objects -/

/-- A value that is refused is refused behind a key. -/
theorem refused_member {m : String × List Char} (hmember : IsMember Eq cs m) (h : Refuses read m.2) :
    Refused (memberStep read) cs := by
  obtain ⟨key, gap', lead', text, rfl, ⟨body, rfl, hbody⟩, hgap', hlead', rfl⟩ := hmember
  intro first gap lead rest hgap hlead
  obtain ⟨problem, hproblem⟩ := h hlead' rest
  refine ⟨problem, ?_⟩
  rw [List.cons_append, memberStep_append hgap hlead, ofChars_memberBody, memberBody,
    string_eq_ok_iff.mpr ⟨body, rfl, hbody⟩]
  dsimp only
  rw [colon_eq_ok_iff.mpr ⟨gap', hgap', rfl⟩]
  dsimp only
  rw [hproblem]
  rfl

/-! ## Whole texts -/

theorem skipBlank_eq_nil_iff : skipBlank s = [] ↔ ∃ blank, Blank blank ∧ s = Utf8.ofChars blank := by
  constructor
  · intro h
    obtain ⟨blank, hblank, hs⟩ := exists_skipBlank s
    rw [h, List.append_nil] at hs
    exact ⟨blank, hblank, hs⟩
  · rintro ⟨blank, hblank, rfl⟩
    rw [← List.append_nil (Utf8.ofChars blank), skipBlank_append hblank]
    rfl

/-- Around a value that is read as a whole text there are blank characters only. -/
theorem Reads.whole_eq_ok_iff (h : Reads read written) :
    whole read s = .ok x ↔
      ∃ front cs back, s = Utf8.ofChars (front ++ (cs ++ back)) ∧ Blank front ∧ Blank back ∧
        written cs x := by
  constructor
  · intro hwhole
    unfold whole at hwhole
    split at hwhole
    · cases hwhole
    · rename_i y rest hread
      split at hwhole
      · rename_i hrest
        obtain rfl := Except.ok.inj hwhole
        obtain ⟨front, cs, hfront, hcs, rfl⟩ := h.mp hread
        obtain ⟨back, hback, rfl⟩ := skipBlank_eq_nil_iff.mp hrest
        refine ⟨front, cs, back, ?_, hfront, hback, hcs⟩
        rw [← Utf8.ofChars_append, List.append_assoc]
      · cases hwhole
  · rintro ⟨front, cs, back, rfl, hfront, hback, hcs⟩
    rw [← List.append_assoc, Utf8.ofChars_append, whole, h.mpr ⟨front, cs, hfront, hcs, rfl⟩]
    exact if_pos (skipBlank_eq_nil_iff.mpr ⟨back, hback, rfl⟩)

/-- What is refused is refused as a whole text. -/
theorem Refuses.whole (h : Refuses read cs) {front : List Char} (hfront : Blank front)
    (back : List Char) :
    ∃ problem, Json.whole read (Utf8.ofChars (front ++ (cs ++ back))) = .error problem := by
  obtain ⟨problem, hproblem⟩ := h hfront (Utf8.ofChars back)
  refine ⟨problem, ?_⟩
  rw [← List.append_assoc, Utf8.ofChars_append, Json.whole, hproblem]

end Json
end QueryConsole
