/-
# Strings are read as the grammar says

Reading a string succeeds exactly on the texts of strings, with the characters that they say, and leaves
what stands behind them (`string_eq_ok_iff`).  There is such a statement for each of its parts: four
digits, the second half of a pair, an escape, and all characters up to the closing quote.
-/

import QueryConsole.Proofs.Json.Grammar

namespace QueryConsole
namespace Json

open Utf8 (Piece)

variable {s rest : List Piece} {n : Nat} {c : Char} {text : List Char}

theorem ofChars_append_append (cs ds : List Char) (rest : List Piece) :
    Utf8.ofChars (cs ++ ds) ++ rest = Utf8.ofChars cs ++ (Utf8.ofChars ds ++ rest) := by
  rw [Utf8.ofChars_append, List.append_assoc]

theorem ofChars_concat (cs : List Char) (c : Char) (rest : List Piece) :
    Utf8.ofChars (cs ++ [c]) ++ rest = Utf8.ofChars cs ++ .char c :: rest :=
  ofChars_append_append cs [c] rest

/-! ## Escapes -/

/-- Four digits are read as their number. -/
theorem hex4_eq_some_iff {ps : List Piece} :
    hex4 ps = some n ↔ ∃ cs, ps = Utf8.ofChars cs ∧ IsCodeUnit cs n := by
  constructor
  · intro h
    unfold hex4 at h
    split at h
    · rename_i a b c d
      simp only [Option.bind_eq_bind, Option.bind_eq_some_iff] at h
      obtain ⟨w, hw, x, hx, y, hy, z, hz, h⟩ := h
      obtain rfl := Option.some.inj h
      exact ⟨[a, b, c, d], rfl, .digits hw hx hy hz⟩
    · cases h
  · rintro ⟨cs, rfl, hunit⟩
    cases hunit with
    | digits first second third fourth =>
      simp only [Utf8.ofChars, List.map_cons, List.map_nil, hex4, first, second, third, fourth]
      rfl

theorem IsCodeUnit.length_eq {cs : List Char} (h : IsCodeUnit cs n) : cs.length = 4 := by
  cases h
  rfl

theorem codeUnit_eq_ok_iff :
    codeUnit s = .ok (n, rest) ↔ ∃ cs, s = Utf8.ofChars cs ++ rest ∧ IsCodeUnit cs n := by
  constructor
  · intro h
    unfold codeUnit at h
    split at h
    · rename_i m hm
      obtain ⟨rfl, rfl⟩ := Prod.mk.inj (Except.ok.inj h)
      obtain ⟨cs, hcs, hunit⟩ := hex4_eq_some_iff.mp hm
      exact ⟨cs, by rw [← hcs, List.take_append_drop], hunit⟩
    · split at h <;> cases h
  · rintro ⟨cs, rfl, hunit⟩
    have hlength : (Utf8.ofChars cs).length = 4 := by
      rw [Utf8.length_ofChars, hunit.length_eq]
    have hdigits : hex4 (Utf8.ofChars cs) = some n := hex4_eq_some_iff.mpr ⟨cs, rfl, hunit⟩
    rw [codeUnit, ← hlength, List.take_left, List.drop_left, hdigits]

theorem lowSurrogate_eq_ok_iff :
    lowSurrogate s = .ok (n, rest) ↔
      ∃ cs, s = .char '\\' :: .char 'u' :: (Utf8.ofChars cs ++ rest) ∧ IsCodeUnit cs n ∧
        0xDC00 ≤ n ∧ n ≤ 0xDFFF := by
  constructor
  · intro h
    unfold lowSurrogate at h
    split at h
    · cases h
    · cases h
    · split at h
      · cases h
      · rename_i low after hunit
        split at h
        · rename_i hrange
          obtain ⟨rfl, rfl⟩ := Prod.mk.inj (Except.ok.inj h)
          obtain ⟨cs, rfl, hcs⟩ := codeUnit_eq_ok_iff.mp hunit
          exact ⟨cs, rfl, hcs, hrange⟩
        · cases h
    · cases h
  · rintro ⟨cs, rfl, hcs, hrange⟩
    rw [lowSurrogate, codeUnit_eq_ok_iff.mpr ⟨cs, rfl, hcs⟩]
    exact if_pos hrange

/-- **Behind a backslash** the text of an escape is read, and nothing else. -/
theorem escapeSequence_eq_ok_iff :
    escapeSequence s = .ok (c, rest) ↔ ∃ e, s = Utf8.ofChars e ++ rest ∧ IsEscape e c := by
  constructor
  · intro h
    unfold escapeSequence at h
    split at h
    · cases h
    · cases h
    · rename_i letter after
      split at h
      · rename_i hletter
        subst hletter
        unfold unicodeEscape at h
        split at h
        · cases h
        · rename_i high behind hunit
          obtain ⟨cs, rfl, hcs⟩ := codeUnit_eq_ok_iff.mp hunit
          split at h
          · cases h
          · rename_i hlow
            split at h
            · rename_i hhigh
              split at h
              · cases h
              · rename_i low behind' hpair
                obtain ⟨rfl, rfl⟩ := Prod.mk.inj (Except.ok.inj h)
                obtain ⟨cs', rfl, hcs', hrange⟩ := lowSurrogate_eq_ok_iff.mp hpair
                refine ⟨_, ?_, .pair hcs hhigh hcs' hrange⟩
                simp [Utf8.ofChars_append, Utf8.ofChars_cons]
            · rename_i hhigh
              obtain ⟨rfl, rfl⟩ := Prod.mk.inj (Except.ok.inj h)
              exact ⟨'u' :: cs, rfl, .unit hcs (by omega)⟩
      · split at h
        · rename_i e hsimple
          obtain ⟨rfl, rfl⟩ := Prod.mk.inj (Except.ok.inj h)
          refine ⟨[letter], rfl, .simple ?_⟩
          unfold simpleEscape? at hsimple
          unfold simpleEscapes
          grind
        · cases h
  · rintro ⟨e, rfl, he⟩
    cases he with
    | @simple letter _ hmem =>
      have hread : ∀ entry ∈ simpleEscapes, entry.1 ≠ 'u' ∧ simpleEscape? entry.1 = some entry.2 := by
        decide
      obtain ⟨hletter, hsimple⟩ := hread _ hmem
      change escapeSequence (.char letter :: rest) = _
      rw [escapeSequence, if_neg hletter, hsimple]
    | @unit digits n hunit range =>
      change escapeSequence (.char 'u' :: (Utf8.ofChars digits ++ rest)) = _
      rw [escapeSequence, if_pos rfl, unicodeEscape, codeUnit_eq_ok_iff.mpr ⟨digits, rfl, hunit⟩]
      dsimp only
      rw [if_neg (by omega), if_neg (by omega)]
    | @pair digits digits' high low hunit range hunit' range' =>
      have hlow := lowSurrogate_eq_ok_iff.mpr
        ⟨digits', rfl (a := .char '\\' :: .char 'u' :: (Utf8.ofChars digits' ++ rest)), hunit', range'⟩
      have hhigh := codeUnit_eq_ok_iff.mpr ⟨digits, rfl (a := Utf8.ofChars digits ++
        .char '\\' :: .char 'u' :: (Utf8.ofChars digits' ++ rest)), hunit⟩
      rw [Utf8.ofChars_cons, List.cons_append, ofChars_append_append, Utf8.ofChars_cons,
        List.cons_append, Utf8.ofChars_cons, List.cons_append, escapeSequence, if_pos rfl,
        unicodeEscape, hhigh]
      dsimp only
      rw [if_neg (by omega), if_pos range, hlow]

/-! ## Strings -/

/-- A string that is read has no stray bytes, and its characters stand in front of its quote. -/
theorem exists_of_stringBody {clean : Bool} (h : stringBody clean s = .ok (text, rest)) :
    clean = true ∧ ∃ cs, s = Utf8.ofChars cs ++ .char '"' :: rest ∧ IsStringBody cs text := by
  fun_induction stringBody clean s generalizing text with
  | case1 => cases h
  | case2 _ _ _ ih =>
    obtain ⟨hfalse, -⟩ := ih h
    cases hfalse
  | case3 after =>
    obtain ⟨rfl, rfl⟩ := Prod.mk.inj (Except.ok.inj h)
    exact ⟨rfl, [], rfl, .nil⟩
  | case4 => cases h
  | case5 => cases h
  | case6 clean after e behind hescape _ _ ih =>
    obtain ⟨⟨cs, rest'⟩, hbody, heq⟩ := exists_of_map_eq_ok h
    obtain ⟨rfl, rfl⟩ := Prod.mk.inj heq
    obtain ⟨hclean, written, rfl, hwritten⟩ := ih hbody
    obtain ⟨letters, rfl, hletters⟩ := escapeSequence_eq_ok_iff.mp hescape
    refine ⟨hclean, '\\' :: (letters ++ written), ?_, .escape hletters hwritten⟩
    rw [Utf8.ofChars_cons, List.cons_append, ofChars_append_append]
  | case7 => cases h
  | case8 clean c after hquote hbackslash hcontrol ih =>
    obtain ⟨⟨cs, rest'⟩, hbody, heq⟩ := exists_of_map_eq_ok h
    obtain ⟨rfl, rfl⟩ := Prod.mk.inj heq
    obtain ⟨hclean, written, rfl, hwritten⟩ := ih hbody
    exact ⟨hclean, c :: written, rfl, .plain (Nat.le_of_not_lt hcontrol) hquote hbackslash hwritten⟩

/-- What the grammar calls a string is read. -/
theorem stringBody_of_isStringBody {cs : List Char} (h : IsStringBody cs text) :
    stringBody true (Utf8.ofChars cs ++ .char '"' :: rest) = .ok (text, rest) := by
  induction h with
  | nil =>
    change stringBody true (.char '"' :: rest) = _
    rw [stringBody, if_pos rfl, if_pos rfl]
  | @plain c cs text control quote backslash _ ih =>
    rw [Utf8.ofChars_cons, List.cons_append, stringBody, if_neg quote, if_neg backslash,
      if_neg (Nat.not_lt.mpr control), ih]
    rfl
  | @escape e cs text c he _ ih =>
    have hescape := escapeSequence_eq_ok_iff.mpr
      ⟨e, rfl (a := Utf8.ofChars e ++ (Utf8.ofChars cs ++ .char '"' :: rest)), he⟩
    rw [Utf8.ofChars_cons, List.cons_append, ofChars_append_append,
      stringBody_escape_of_eq_ok hescape, ih]
    rfl

/-- **A string is read from behind its opening quote** exactly if it is one. -/
theorem string_eq_ok_iff {str : String} :
    string s = .ok (str, rest) ↔
      ∃ body, s = Utf8.ofChars (body ++ ['"']) ++ rest ∧ IsStringBody body str.toList := by
  constructor
  · intro h
    obtain ⟨⟨cs, rest'⟩, hbody, heq⟩ := exists_of_map_eq_ok h
    obtain ⟨rfl, rfl⟩ := Prod.mk.inj heq
    obtain ⟨-, body, rfl, hwritten⟩ := exists_of_stringBody hbody
    refine ⟨body, (ofChars_concat body '"' rest').symm, ?_⟩
    rwa [String.toList_ofList]
  · rintro ⟨body, rfl, hwritten⟩
    rw [ofChars_concat, string, stringBody_of_isStringBody hwritten]
    exact congrArg (fun str => Except.ok (str, rest)) String.ofList_toList

end Json
end QueryConsole
