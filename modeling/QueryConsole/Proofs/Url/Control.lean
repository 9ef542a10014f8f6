/-
# Control characters in hosts

A host is written percent-encoded, as bytes, with capital letters and with marks of their own.  None of
the steps that undo this loses a control character or a space, so no host ends in one
(`Host.ofSpecial?_eq_none`):

| step | what it keeps |
| --- | --- |
| decoding | `Percent.mem_decode` |
| text of bytes | `Utf8.mem_lossy` |
| spelling | `Domain.spell?_of_le` |
| composition | `Composition.mem_compose` |
-/

import QueryConsole.Proofs.Text.Ends
import QueryConsole.Proofs.Text.Utf8
import QueryConsole.Url.Host

namespace QueryConsole

variable {c : Char} {cs : List Char}

/-- A check of the first 33 characters holds of all control characters and the space. -/
theorem Text.forall_le_space {p : Char → Prop} (h : ∀ n < 33, p (Char.ofNat n)) (hc : c.toNat ≤ 0x20) :
    p c := by
  have hchar := h c.toNat (by omega)
  rwa [Char.ofNat_toNat] at hchar

/-! ## Bytes -/

/-- A character that is no part of an encoded byte is decoded to its bytes. -/
theorem Percent.mem_decode (hdigit : Text.hexDigit? c = none) (hpercent : c ≠ '%') {b : UInt8}
    (hb : b ∈ String.utf8EncodeChar c) (h : c ∈ cs) : b ∈ decode cs := by
  fun_induction decode cs with
  | case1 => cases h
  | case2 first second rest x y hsecond hfirst ih =>
    have hrest : c ∈ rest := by
      rcases List.mem_cons.mp h with hc | h
      · exact absurd hc hpercent
      · rcases List.mem_cons.mp h with rfl | h
        · rw [hdigit] at hfirst
          cases hfirst
        · rcases List.mem_cons.mp h with rfl | h
          · rw [hdigit] at hsecond
            cases hsecond
          · exact h
    exact List.mem_cons_of_mem _ (ih hrest)
  | case3 first second rest hnone ih =>
    rcases List.mem_cons.mp h with hc | hrest
    · exact absurd hc hpercent
    · exact List.mem_append_right _ (ih hrest)
  | case4 first rest hshape ih =>
    rcases List.mem_cons.mp h with rfl | hrest
    · exact List.mem_append_left _ hb
    · exact List.mem_append_right _ (ih hrest)

namespace Utf8

/-- What continues a character are bytes from `80` on. -/
theorem le_of_mem_continuation {n : Nat} {low high b : UInt8} {bytes : List UInt8} (hlow : 0x80 ≤ low)
    (h : b ∈ continuation n low high bytes) : 0x80 ≤ b := by
  fun_induction continuation n low high bytes with
  | case1 n low high first rest hrange ih =>
    rcases List.mem_cons.mp h with rfl | hrest
    · exact UInt8.le_trans hlow hrange.1
    · exact ih (UInt8.le_refl _) hrest
  | case2 => cases h
  | case3 => cases h

theorem continuation_isPrefix (n : Nat) (low high : UInt8) (bytes : List UInt8) :
    continuation n low high bytes <+: bytes := by
  fun_induction continuation n low high bytes with
  | case1 n low high first rest hrange ih => exact (List.prefix_cons_inj first).mpr ih
  | case2 => exact List.nil_prefix
  | case3 => exact List.nil_prefix

theorem le_low_of_lead? {b : UInt8} {lead : Lead} (h : lead? b = some lead) : 0x80 ≤ lead.low := by
  have hitem : ∀ low : UInt8, low = 0x80 ∨ low = 0x90 ∨ low = 0xA0 → 0x80 ≤ low := by
    rintro low (rfl | rfl | rfl) <;> decide
  apply hitem
  unfold lead? at h
  grind

/-- **A byte below `80` is a character**, whatever stands around it. -/
theorem mem_lossy {b : UInt8} {bytes : List UInt8} (hb : b < 0x80) (h : b ∈ bytes) :
    Char.ofNat b.toNat ∈ lossy bytes := by
  refine List.mem_map.mpr ⟨.char (Char.ofNat b.toNat), ?_, rfl⟩
  have hlead : lead? b = some ⟨0, 0x80, 0xBF, b.toNat⟩ := by
    rw [lead?, if_pos hb]
  fun_induction pieces bytes with
  | case1 => cases h
  | case2 first rest hnone ih =>
    rcases List.mem_cons.mp h with rfl | hrest
    · rw [hlead] at hnone
      cases hnone
    · exact List.mem_cons_of_mem _ (ih hrest)
  | case3 first rest lead hfirst tail piece ih =>
    rcases List.mem_cons.mp h with rfl | hrest
    · obtain rfl := Option.some.inj (hlead.symm.trans hfirst)
      have htail : tail = [] := continuation_zero 0x80 0xBF rest
      have hpiece : piece = .char (Char.ofNat b.toNat) := by
        simp [piece, htail]
      rw [hpiece]
      exact List.mem_cons_self
    · -- What belongs to the first piece is no byte below 80.
      have htail : tail <+: rest := continuation_isPrefix _ _ _ _
      rw [← List.prefix_iff_eq_append.mp htail] at hrest
      rcases List.mem_append.mp hrest with hmem | hmem
      · have hle := le_of_mem_continuation (le_low_of_lead? hfirst) hmem
        exact absurd hb (UInt8.not_lt.mpr hle)
      · exact List.mem_cons_of_mem _ (ih hmem)

end Utf8

/-! ## Composed text -/

namespace Composition

variable {letter d : Char} {marks : List Char}

theorem parts_of_le (hc : c.toNat ≤ 0x20) : parts 3 c = [c] := by
  change (if c.toNat < 0xC0 then [c] else _) = [c]
  exact if_pos (by omega)

/-- A control character or space is not taken up by a letter. -/
theorem pair?_of_second_le (hc : c.toNat ≤ 0x20) : pair? letter c = none := by
  have hsyllable : syllable? letter.toNat c.toNat = none := by
    rw [syllable?, if_neg (by omega), if_neg (by omega)]
  rw [pair?, hsyllable]
  exact if_pos (by omega)

theorem lt_of_mem_composites : (composites.toList.all fun entry => 0x20 < entry.1) = true := by
  decide +kernel

/-- A control character or space takes up no mark. -/
theorem pair?_of_first_le (hc : c.toNat ≤ 0x20) : pair? c d = none := by
  have hsyllable : syllable? c.toNat d.toNat = none := by
    rw [syllable?, if_neg (by omega), if_neg (by omega)]
  rw [pair?, hsyllable]
  dsimp only
  split
  · rfl
  · rw [Array.find?_eq_none.mpr]
    · rfl
    · intro entry hentry hmatch
      have hfirst : entry.1 = c.toNat := beq_iff_eq.mp (Bool.and_eq_true_iff.mp hmatch).1
      have hlt := List.all_eq_true.mp lt_of_mem_composites entry (Array.mem_toList_iff.mpr hentry)
      have hbound : 0x20 < entry.1 := of_decide_eq_true hlt
      omega

/-- **A control character or space stays** behind or between letters that take up marks. -/
theorem mem_take (hc : c.toNat ≤ 0x20) (h : c ∈ letter :: marks ++ cs) : c ∈ take letter marks cs := by
  induction cs generalizing letter marks with
  | nil => simpa [take] using h
  | cons d cs ih =>
    unfold take
    dsimp only
    split
    · rename_i composed hcomposed
      obtain ⟨-, hpair⟩ := Option.ite_none_right_eq_some.mp hcomposed
      have hletter : c ≠ letter := by
        rintro rfl
        rw [pair?_of_first_le hc] at hpair
        cases hpair
      have hd : c ≠ d := by
        rintro rfl
        rw [pair?_of_second_le hc] at hpair
        cases hpair
      refine ih ?_
      simp only [List.cons_append, List.mem_cons, List.mem_append, hletter, hd, false_or] at h ⊢
      exact .inr h
    · split
      · simp only [List.cons_append, List.mem_cons, List.mem_append, List.mem_reverse] at h ⊢
        rcases h with h | h | h
        · exact .inl h
        · exact .inr (.inl h)
        · exact .inr (.inr (ih (by simpa using h)))
      · refine ih ?_
        simp only [List.cons_append, List.mem_cons, List.mem_append] at h ⊢
        tauto

/-- **Composition loses no control character and no space.** -/
theorem mem_compose (hc : c.toNat ≤ 0x20) (h : c ∈ cs) : c ∈ compose cs := by
  rw [compose]
  split
  · exact h
  · have hparts : c ∈ cs.flatMap (parts 3) := by
      refine List.mem_flatMap.mpr ⟨c, h, ?_⟩
      rw [parts_of_le hc]
      exact List.mem_cons_self
    have hordered : c ∈ ordered (cs.flatMap (parts 3)) := (ordered_perm _).mem_iff.mpr hparts
    unfold joined
    rw [← List.takeWhile_append_dropWhile (p := fun c => decide (0 < markClass c))
      (l := ordered (cs.flatMap (parts 3)))] at hordered
    rcases List.mem_append.mp hordered with hmem | hmem
    · exact List.mem_append_left _ hmem
    · refine List.mem_append_right _ ?_
      cases hrest : (ordered (cs.flatMap (parts 3))).dropWhile fun c => decide (0 < markClass c) with
      | nil =>
        rw [hrest] at hmem
        cases hmem
      | cons letter rest =>
        rw [hrest] at hmem
        exact mem_take hc hmem

end Composition

/-! ## Hosts -/

namespace Domain

theorem spell?_of_le (hc : c.toNat ≤ 0x20) : spell? c = some [c] := by
  have hlower : c.toLower = c := Text.forall_le_space (p := fun c => c.toLower = c) (by decide) hc
  rw [spell?, if_pos (by omega), hlower]

theorem isForbidden_of_le (hc : c.toNat ≤ 0x20) : isForbidden c = true :=
  Text.forall_le_space (p := fun c => isForbidden c = true) (by decide) hc

theorem mem_spelled {spelled : List (List Char)} (hspelled : cs.mapM spell? = some spelled)
    (hc : c.toNat ≤ 0x20) (h : c ∈ cs) : [c] ∈ spelled := by
  induction cs generalizing spelled with
  | nil => cases h
  | cons d cs ih =>
    rw [List.mapM_cons, Option.bind_eq_bind, Option.bind_eq_some_iff] at hspelled
    obtain ⟨first, hfirst, hspelled⟩ := hspelled
    obtain ⟨rest, hrest, hspelled⟩ := Option.bind_eq_some_iff.mp hspelled
    obtain rfl := Option.some.inj hspelled
    rcases List.mem_cons.mp h with rfl | h
    · rw [spell?_of_le hc] at hfirst
      obtain rfl := Option.some.inj hfirst
      exact List.mem_cons_self
    · exact List.mem_cons_of_mem _ (ih hrest h)

/-- **No domain is named by a text with a control character or a space.** -/
theorem ofText?_eq_none (hc : c.toNat ≤ 0x20) (h : c ∈ cs) : ofText? cs = none := by
  rw [ofText?]
  cases hspelled : cs.mapM spell? with
  | none => rfl
  | some spelled =>
    have hflat : c ∈ spelled.flatten :=
      List.mem_flatten.mpr ⟨[c], mem_spelled hspelled hc h, List.mem_cons_self⟩
    have hforbidden : (Composition.compose spelled.flatten).any isForbidden = true :=
      List.any_eq_true.mpr ⟨c, Composition.mem_compose hc hflat, isForbidden_of_le hc⟩
    exact if_pos (.inl hforbidden)

end Domain

/-- A control character or a space in a text is one when the text is decoded. -/
theorem mem_lossy_decode (hc : c.toNat ≤ 0x20) (h : c ∈ cs) :
    c ∈ Utf8.lossy (Percent.decode cs) := by
  have hdigit : Text.hexDigit? c = none :=
    Text.forall_le_space (p := fun c => Text.hexDigit? c = none) (by decide) hc
  have hpercent : c ≠ '%' := Text.forall_le_space (p := fun c => c ≠ '%') (by decide) hc
  have hbyte : UInt8.ofNat c.toNat ∈ String.utf8EncodeChar c :=
    Text.forall_le_space (p := fun c => UInt8.ofNat c.toNat ∈ String.utf8EncodeChar c) (by decide) hc
  have hnat : (UInt8.ofNat c.toNat).toNat = c.toNat := Utf8.toNat_ofNat (by omega)
  have hlow : UInt8.ofNat c.toNat < 0x80 := by
    rw [UInt8.lt_iff_toNat_lt, hnat]
    exact Nat.lt_of_le_of_lt hc (by decide)
  have hmem := Utf8.mem_lossy hlow (Percent.mem_decode hdigit hpercent hbyte h)
  rwa [hnat, Char.ofNat_toNat] at hmem

/-- **No host ends in a control character or a space.** -/
theorem Host.ofSpecial?_eq_none (hlast : cs.getLast? = some c) (hc : c.toNat ≤ 0x20) :
    ofSpecial? cs = none := by
  unfold ofSpecial?
  split
  · rename_i rest
    refine if_neg ?_
    intro hbracket
    have hne : rest ≠ [] := by
      rintro rfl
      cases hbracket
    rw [← Text.getLast?_of_isSuffix (List.suffix_cons '[' rest) hne, hbracket] at hlast
    obtain rfl := Option.some.inj hlast
    revert hc
    decide
  · rw [Domain.ofText?_eq_none hc (mem_lossy_decode hc (List.mem_of_getLast? hlast))]
    rfl

end QueryConsole
