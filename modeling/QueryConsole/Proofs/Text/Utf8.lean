/-
# Text is read back from its bytes

Each character is written as a first byte, which announces how many bytes follow, and these bytes with
six bits each.  Reading finds the character again (`pieces_utf8EncodeChar`), so the bytes of a text have
the characters of the text as their pieces (`pieces_encode`) and are the bytes of no other text
(`text?_encode`).

| code point | first byte | what the first of the following bytes excludes |
| --- | --- | --- |
| below `80` | itself | |
| `80 … 7FF` | `C2 … DF` | |
| `800 … FFFF` | `E0 … EF` | longer forms of smaller code points, surrogates |
| from `10000` | `F0 … F4` | longer forms of smaller code points, code points above `10FFFF` |
-/

import QueryConsole.Text.Utf8

namespace QueryConsole
namespace Utf8

theorem toNat_ofNat {n : Nat} (h : n < 256) : (UInt8.ofNat n).toNat = n := by
  rw [UInt8.toNat_ofNat']
  exact Nat.mod_eq_of_lt h

/-- A byte in range continues a character. -/
theorem continuation_cons {low high : UInt8} {x : Nat} (hlow : low.toNat ≤ x)
    (hhigh : x ≤ high.toNat) (n : Nat) (rest : List UInt8) :
    continuation (n + 1) low high (UInt8.ofNat x :: rest) =
      UInt8.ofNat x :: continuation n 0x80 0xBF rest := by
  have hx : (UInt8.ofNat x).toNat = x := toNat_ofNat (Nat.lt_of_le_of_lt hhigh high.toNat_lt)
  have hrange : low ≤ UInt8.ofNat x ∧ UInt8.ofNat x ≤ high := by
    rw [UInt8.le_iff_toNat_le, UInt8.le_iff_toNat_le, hx]
    exact ⟨hlow, hhigh⟩
  rw [continuation, if_pos hrange]

theorem continuation_zero (low high : UInt8) (bytes : List UInt8) :
    continuation 0 low high bytes = [] := by
  rw [continuation]
  nofun

/-! ## First bytes -/

theorem lead?_one {x : Nat} (h : x < 0x80) : lead? (UInt8.ofNat x) = some ⟨0, 0x80, 0xBF, x⟩ := by
  have hx : (UInt8.ofNat x).toNat = x := toNat_ofNat (by omega)
  simp only [lead?, UInt8.lt_iff_toNat_lt, hx, UInt8.reduceToNat]
  rw [if_pos h]

theorem lead?_two {x : Nat} (hlow : 0xC2 ≤ x) (hhigh : x < 0xE0) :
    lead? (UInt8.ofNat x) = some ⟨1, 0x80, 0xBF, x - 0xC0⟩ := by
  have hx : (UInt8.ofNat x).toNat = x := toNat_ofNat (by omega)
  simp only [lead?, UInt8.lt_iff_toNat_lt, hx, UInt8.reduceToNat]
  rw [if_neg (by omega), if_neg (by omega), if_pos hhigh]

theorem lead?_three {x : Nat} (hlow : 0xE0 ≤ x) (hhigh : x < 0xF0) :
    lead? (UInt8.ofNat x) =
      some ⟨2, if x = 0xE0 then 0xA0 else 0x80, if x = 0xED then 0x9F else 0xBF, x - 0xE0⟩ := by
  have hx : (UInt8.ofNat x).toNat = x := toNat_ofNat (by omega)
  simp only [lead?, UInt8.lt_iff_toNat_lt, ← UInt8.toNat_inj, hx, UInt8.reduceToNat]
  rw [if_neg (by omega), if_neg (by omega), if_neg (by omega), if_pos hhigh]

theorem lead?_four {x : Nat} (hlow : 0xF0 ≤ x) (hhigh : x < 0xF5) :
    lead? (UInt8.ofNat x) =
      some ⟨3, if x = 0xF0 then 0x90 else 0x80, if x = 0xF4 then 0x8F else 0xBF, x - 0xF0⟩ := by
  have hx : (UInt8.ofNat x).toNat = x := toNat_ofNat (by omega)
  simp only [lead?, UInt8.lt_iff_toNat_lt, ← UInt8.toNat_inj, hx, UInt8.reduceToNat]
  rw [if_neg (by omega), if_neg (by omega), if_neg (by omega), if_neg (by omega), if_pos hhigh]

/-! ## Characters -/

/-- A first byte and the bytes that it announces make a character. -/
theorem pieces_of_lead (tail : List UInt8) {b : UInt8} {lead : Lead} {rest : List UInt8} {c : Char}
    (hlead : lead? b = some lead)
    (htail : continuation lead.more lead.low lead.high (tail ++ rest) = tail)
    (hlength : tail.length = lead.more)
    (hcode : tail.foldl (fun n b => n * 64 + (b.toNat - 0x80)) lead.bits = c.toNat) :
    pieces (b :: tail ++ rest) = .char c :: pieces rest := by
  rw [List.cons_append, pieces, hlead]
  dsimp only
  rw [htail, if_pos hlength, List.drop_left, hcode, Char.ofNat_toNat]

/-- Six bits of a character, in a byte that continues it. -/
def sixBits (n : Nat) : UInt8 := UInt8.ofNat (n % 64 + 128)

theorem toNat_sixBits (n : Nat) : (sixBits n).toNat = n % 64 + 128 := toNat_ofNat (by omega)

/-- Six bits continue a character where any byte may. -/
theorem continuation_sixBits (n m : Nat) (rest : List UInt8) :
    continuation (n + 1) 0x80 0xBF (sixBits m :: rest) =
      sixBits m :: continuation n 0x80 0xBF rest := by
  have hlow : (0x80 : UInt8).toNat ≤ m % 64 + 128 := Nat.le_add_left _ _
  have hhigh : m % 64 + 128 ≤ (0xBF : UInt8).toNat := by
    have : (0xBF : UInt8).toNat = 191 := rfl
    omega
  exact continuation_cons hlow hhigh n rest

/-- **A character is read back from its bytes**, whatever follows them. -/
theorem pieces_utf8EncodeChar (c : Char) (rest : List UInt8) :
    pieces (String.utf8EncodeChar c ++ rest) = .char c :: pieces rest := by
  have hvalid : c.toNat < 0xD800 ∨ 0xDFFF < c.toNat ∧ c.toNat < 0x110000 := c.valid
  have hval : c.val.toNat = c.toNat := rfl
  unfold String.utf8EncodeChar
  simp only [hval]
  split
  · exact pieces_of_lead [] (lead?_one (by omega)) rfl rfl rfl
  split
  · refine pieces_of_lead [sixBits c.toNat] (lead?_two (by omega) (by omega)) ?_ rfl ?_
    · rw [List.cons_append, continuation_sixBits, continuation_zero]
    · simp only [List.foldl_cons, List.foldl_nil, toNat_sixBits]
      omega
  split
  · refine pieces_of_lead [sixBits (c.toNat / 64), sixBits c.toNat]
      (lead?_three (by omega) (by omega)) ?_ rfl ?_
    · -- after some first bytes fewer second ones are allowed: no overlong forms, no surrogates
      have hlow : (if c.toNat / 4096 % 16 + 224 = 0xE0 then 0xA0 else 0x80 : UInt8).toNat ≤
          c.toNat / 64 % 64 + 128 := by
        simp only [apply_ite UInt8.toNat, UInt8.reduceToNat]
        split <;> omega
      have hhigh : c.toNat / 64 % 64 + 128 ≤
          (if c.toNat / 4096 % 16 + 224 = 0xED then 0x9F else 0xBF : UInt8).toNat := by
        simp only [apply_ite UInt8.toNat, UInt8.reduceToNat]
        split <;> omega
      have hfirst := continuation_cons hlow hhigh 1 (sixBits c.toNat :: rest)
      rw [continuation_sixBits, continuation_zero] at hfirst
      exact hfirst
    · simp only [List.foldl_cons, List.foldl_nil, toNat_sixBits]
      omega
  · refine pieces_of_lead [sixBits (c.toNat / 4096), sixBits (c.toNat / 64), sixBits c.toNat]
      (lead?_four (by omega) (by omega)) ?_ rfl ?_
    · have hlow : (if c.toNat / 262144 % 8 + 240 = 0xF0 then 0x90 else 0x80 : UInt8).toNat ≤
          c.toNat / 4096 % 64 + 128 := by
        simp only [apply_ite UInt8.toNat, UInt8.reduceToNat]
        split <;> omega
      have hhigh : c.toNat / 4096 % 64 + 128 ≤
          (if c.toNat / 262144 % 8 + 240 = 0xF4 then 0x8F else 0xBF : UInt8).toNat := by
        simp only [apply_ite UInt8.toNat, UInt8.reduceToNat]
        split <;> omega
      have hfirst :=
        continuation_cons hlow hhigh 2 (sixBits (c.toNat / 64) :: sixBits c.toNat :: rest)
      rw [continuation_sixBits, continuation_sixBits, continuation_zero] at hfirst
      exact hfirst
    · simp only [List.foldl_cons, List.foldl_nil, toNat_sixBits]
      omega

/-! ## Texts -/

/-- **The pieces of a text's bytes are the characters of the text.** -/
theorem pieces_encode (cs : List Char) : pieces (encode cs) = ofChars cs := by
  induction cs with
  | nil =>
    rw [encode, List.flatMap_nil, pieces]
    rfl
  | cons c cs ih =>
    rw [encode, List.flatMap_cons, pieces_utf8EncodeChar]
    exact congrArg (.char c :: ·) ih

/-- A text is read back from its bytes. -/
theorem text?_encode (cs : List Char) : text? (encode cs) = some cs := by
  have hpure : Piece.char? ∘ Piece.char = fun c => pure (id c) := rfl
  rw [text?, pieces_encode, ofChars, List.mapM_map, hpure, List.mapM_pure, List.map_id]
  rfl

/-- Bytes write a text exactly if all their pieces are characters, those of the text. -/
theorem text?_eq_some_iff {bytes : List UInt8} {cs : List Char} :
    text? bytes = some cs ↔ pieces bytes = ofChars cs := by
  rw [text?]
  generalize pieces bytes = ps
  induction ps generalizing cs with
  | nil =>
    cases cs with
    | nil => exact iff_of_true rfl rfl
    | cons c cs => exact iff_of_false nofun nofun
  | cons p ps ih =>
    rw [List.mapM_cons]
    cases p with
    | stray size =>
      refine iff_of_false nofun fun h => ?_
      cases cs <;> cases h
    | char c =>
      change ((ps.mapM Piece.char?).bind fun ds => some (c :: ds)) = some cs ↔ _
      rw [Option.bind_eq_some_iff]
      constructor
      · rintro ⟨ds, hds, h⟩
        obtain rfl := Option.some.inj h
        exact congrArg (.char c :: ·) (ih.mp hds)
      · intro h
        cases cs with
        | nil => cases h
        | cons d ds =>
          obtain ⟨hc, hds⟩ := List.cons.inj h
          obtain rfl := Piece.char.inj hc
          exact ⟨ds, ih.mpr hds, rfl⟩

end Utf8
end QueryConsole
