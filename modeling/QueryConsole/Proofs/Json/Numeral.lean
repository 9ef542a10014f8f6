/-
# Numbers that are read back

A number has no closing mark: it ends where the text does not go on with it (`Ends`).  What is read of
a number does not depend on what follows there (`readsOn_number`), so that a double that is read back
from its own text is read back inside any text (`scalar_doubleChars`).  Integers of 64 bits are read
back digit by digit (`scalar_intChars`).
-/

import QueryConsole.Json.Reader
import QueryConsole.Proofs.Json.WellFormed

namespace QueryConsole

theorem Utf8.ofChars_cons (c : Char) (cs : List Char) :
    Utf8.ofChars (c :: cs) = .char c :: Utf8.ofChars cs := rfl

theorem Utf8.ofChars_append (cs ds : List Char) :
    Utf8.ofChars (cs ++ ds) = Utf8.ofChars cs ++ Utf8.ofChars ds := List.map_append

theorem Utf8.length_ofChars (cs : List Char) : (Utf8.ofChars cs).length = cs.length :=
  List.length_map _

namespace Json

open Utf8 (Piece)

/-- What follows does not go on with a number. -/
def Ends (s : List Piece) : Prop :=
  ∀ p ∈ s.head?, digit? p = none ∧ p ≠ .char '.' ∧ p ≠ .char 'e' ∧ p ≠ .char 'E'

theorem ends_nil : Ends [] := nofun

/-- What a reader takes from the start of some pieces it takes from there whatever follows, as long
as that does not go on with a number. -/
structure ReadsOn {α : Type} (read : List Piece → Read α) (s r : List Piece) (x : α) : Prop where
  suffix : r <:+ s
  append : ∀ {rest}, Ends rest → read (s ++ rest) = .ok (x, r ++ rest)

variable {s r rest : List Piece} {atEnd : Problem}

/-! ## Digits -/

theorem digits_of_ends (h : Ends rest) : digits rest = ([], rest) := by
  cases rest with
  | nil => rfl
  | cons p rest => rw [digits, (h p rfl).1]

theorem digits_suffix (s : List Piece) : (digits s).2 <:+ s := by
  induction s with
  | nil => exact List.suffix_refl []
  | cons p s ih =>
    rw [digits]
    split
    · exact ih.trans (List.suffix_cons p s)
    · exact List.suffix_refl _

theorem digits_append (s : List Piece) (h : Ends rest) :
    digits (s ++ rest) = ((digits s).1, (digits s).2 ++ rest) := by
  induction s with
  | nil => exact digits_of_ends h
  | cons p s ih =>
    rw [List.cons_append, digits, digits, ih]
    split <;> rfl

/-! ## The parts of a number -/

/-- The exponent behind the digits and the fraction of a number, if there is one. -/
def exponentEnd (atEnd : Problem) (whole : List Nat) (fraction : Option (List Nat))
    (s : List Piece) : Read Numeral :=
  match s with
  | .char c :: rest =>
    if c = 'e' ∨ c = 'E' then
      (exponentPart atEnd rest).map fun (e, rest) => (⟨whole, fraction, some e⟩, rest)
    else .ok (⟨whole, fraction, none⟩, s)
  | _ => .ok (⟨whole, fraction, none⟩, s)

/-- The fraction and the exponent behind the digits of a number. -/
def fractionEnd (atEnd : Problem) (whole : List Nat) (s : List Piece) : Read Numeral :=
  match s with
  | .char '.' :: rest =>
    match digits rest with
    | ([], []) => .error atEnd
    | ([], _) => .error .malformed
    | (ds, rest) => exponentEnd atEnd whole (some ds) rest
  | _ => exponentEnd atEnd whole none s

/-- Digits that may stand before the point: at least one, and no zero before others. -/
def IsWhole (ds : List Nat) : Prop := ds ≠ [] ∧ ∀ d rest, ds ≠ 0 :: d :: rest

/-- A number is its whole digits and what stands behind them. -/
theorem numeral_eq {s : List Piece} (h : IsWhole (digits s).1) :
    numeral atEnd s = fractionEnd atEnd (digits s).1 (digits s).2 := by
  unfold numeral
  generalize digits s = parts at h ⊢
  obtain ⟨whole, s⟩ := parts
  dsimp only at h ⊢
  split
  · exact absurd rfl h.1
  · exact absurd rfl h.1
  · exact absurd rfl (h.2 _ _)
  · rfl

/-- A number that is read has digits before the point. -/
theorem isWhole_of_numeral {n : Numeral} (h : numeral atEnd s = .ok (n, r)) :
    IsWhole (digits s).1 := by
  unfold numeral at h
  generalize digits s = parts at h ⊢
  obtain ⟨whole, s⟩ := parts
  dsimp only at h ⊢
  split at h
  · cases h
  · cases h
  · cases h
  · next hnil hzero _ => exact ⟨hnil, fun d rest h => hzero d rest h⟩

/-- Whether an exponent is negative, and what follows its sign. -/
def exponentSign : List Piece → Bool × List Piece
  | .char '+' :: rest => (false, rest)
  | .char '-' :: rest => (true, rest)
  | s => (false, s)

/-- The digits of an exponent behind its sign. -/
def exponentDigits (atEnd : Problem) (negative : Bool) (s : List Piece) :
    Read (Bool × List Nat) :=
  match digits s with
  | ([], []) => .error atEnd
  | ([], _) => .error .malformed
  | (ds, rest) => .ok ((negative, ds), rest)

theorem exponentPart_eq (atEnd : Problem) (s : List Piece) :
    exponentPart atEnd s = exponentDigits atEnd (exponentSign s).1 (exponentSign s).2 := by
  match s with
  | [] | .stray _ :: _ => rfl
  | .char c :: s =>
    by_cases hplus : c = '+'
    · rw [hplus]
      rfl
    · by_cases hminus : c = '-'
      · rw [hminus]
        rfl
      · simp only [exponentPart, exponentSign, List.cons.injEq, Piece.char.injEq, hplus, hminus,
          false_and, false_implies, implies_true]
        rfl

theorem exponentSign_suffix (s : List Piece) : (exponentSign s).2 <:+ s := by
  unfold exponentSign
  split
  · exact List.suffix_cons _ _
  · exact List.suffix_cons _ _
  · exact List.suffix_refl _

theorem exponentSign_append (h : s ≠ []) (rest : List Piece) :
    exponentSign (s ++ rest) = ((exponentSign s).1, (exponentSign s).2 ++ rest) := by
  cases s with
  | nil => exact absurd rfl h
  | cons p s =>
    by_cases hplus : p = .char '+'
    · rw [hplus]
      rfl
    · by_cases hminus : p = .char '-'
      · rw [hminus]
        rfl
      · simp [exponentSign, hplus, hminus]

theorem exponentDigits_eq_ok_iff {negative : Bool} {x : Bool × List Nat} :
    exponentDigits atEnd negative s = .ok (x, r) ↔
      (digits s).1 ≠ [] ∧ x = (negative, (digits s).1) ∧ r = (digits s).2 := by
  unfold exponentDigits
  rcases digits s with ⟨_ | ⟨d, ds⟩, rest⟩
  · refine iff_of_false ?_ fun h => h.1 rfl
    cases rest <;> nofun
  · constructor
    · intro h
      obtain ⟨rfl, rfl⟩ := Prod.mk.inj (Except.ok.inj h)
      exact ⟨List.cons_ne_nil _ _, rfl, rfl⟩
    · rintro ⟨-, rfl, rfl⟩
      rfl

theorem readsOn_exponentPart {x : Bool × List Nat} (h : exponentPart atEnd s = .ok (x, r)) :
    ReadsOn (exponentPart atEnd) s r x := by
  rw [exponentPart_eq] at h
  obtain ⟨hne, rfl, rfl⟩ := exponentDigits_eq_ok_iff.mp h
  have hs : s ≠ [] := by
    rintro rfl
    exact hne rfl
  refine ⟨(digits_suffix _).trans (exponentSign_suffix s), fun {rest} hrest => ?_⟩
  rw [exponentPart_eq, exponentSign_append hs rest, exponentDigits_eq_ok_iff,
    digits_append _ hrest]
  exact ⟨hne, rfl, rfl⟩

theorem exponentEnd_of_ends (whole : List Nat) (fraction : Option (List Nat)) (h : Ends rest) :
    exponentEnd atEnd whole fraction rest = .ok (⟨whole, fraction, none⟩, rest) := by
  unfold exponentEnd
  split
  · next c rest =>
    obtain ⟨-, -, he, hE⟩ := h _ rfl
    exact if_neg fun hc => hc.elim (fun hc => he (congrArg _ hc)) fun hc => hE (congrArg _ hc)
  · rfl

theorem readsOn_exponentEnd {whole : List Nat} {fraction : Option (List Nat)} {n : Numeral}
    (h : exponentEnd atEnd whole fraction s = .ok (n, r)) :
    ReadsOn (exponentEnd atEnd whole fraction) s r n := by
  unfold exponentEnd at h
  split at h
  · next c s =>
    split at h
    · next hc =>
      obtain ⟨⟨_, _⟩, hx, heq⟩ := exists_of_map_eq_ok h
      obtain ⟨rfl, rfl⟩ := Prod.mk.inj heq
      have hpart := readsOn_exponentPart hx
      refine ⟨hpart.suffix.trans (List.suffix_cons _ _), fun hrest => ?_⟩
      rw [List.cons_append, exponentEnd, if_pos hc, hpart.append hrest]
      rfl
    · next hc =>
      obtain ⟨rfl, rfl⟩ := Prod.mk.inj (Except.ok.inj h)
      refine ⟨List.suffix_refl _, fun hrest => ?_⟩
      rw [List.cons_append, exponentEnd, if_neg hc]
  · next hchar =>
    obtain ⟨rfl, rfl⟩ := Prod.mk.inj (Except.ok.inj h)
    refine ⟨List.suffix_refl _, fun hrest => ?_⟩
    match s with
    | [] => exact exponentEnd_of_ends whole fraction hrest
    | .char c :: s => exact absurd rfl (hchar c s)
    | .stray n :: s => rfl

theorem fractionEnd_of_ends (whole : List Nat) (h : Ends rest) :
    fractionEnd atEnd whole rest = .ok (⟨whole, none, none⟩, rest) := by
  unfold fractionEnd
  split
  · exact absurd rfl (h _ rfl).2.1
  · exact exponentEnd_of_ends whole none h

/-- Behind a point at least one digit has to follow. -/
theorem fractionEnd_point (whole : List Nat) (h : (digits s).1 ≠ []) :
    fractionEnd atEnd whole (.char '.' :: s) =
      exponentEnd atEnd whole (some (digits s).1) (digits s).2 := by
  rw [fractionEnd]
  rcases hdigits : digits s with ⟨_ | ⟨d, ds⟩, rest⟩
  · exact absurd (congrArg Prod.fst hdigits) h
  · rfl

theorem digits_ne_nil_of_fractionEnd {whole : List Nat} {n : Numeral}
    (h : fractionEnd atEnd whole (.char '.' :: s) = .ok (n, r)) : (digits s).1 ≠ [] := by
  rw [fractionEnd] at h
  rcases hdigits : digits s with ⟨_ | ⟨d, ds⟩, rest⟩
  · rw [hdigits] at h
    cases rest <;> cases h
  · exact List.cons_ne_nil d ds

theorem fractionEnd_of_ne {p : Piece} (hp : p ≠ .char '.') (whole : List Nat) (s : List Piece) :
    fractionEnd atEnd whole (p :: s) = exponentEnd atEnd whole none (p :: s) := by
  unfold fractionEnd
  split
  · next heq => exact absurd (List.cons.inj heq).1 hp
  · rfl

theorem readsOn_fractionEnd {whole : List Nat} {n : Numeral}
    (h : fractionEnd atEnd whole s = .ok (n, r)) : ReadsOn (fractionEnd atEnd whole) s r n := by
  cases s with
  | nil =>
    rw [fractionEnd_of_ends whole ends_nil] at h
    obtain ⟨rfl, rfl⟩ := Prod.mk.inj (Except.ok.inj h)
    exact ⟨List.suffix_refl _, fun hrest => fractionEnd_of_ends whole hrest⟩
  | cons p s =>
    by_cases hp : p = .char '.'
    · subst hp
      have hne := digits_ne_nil_of_fractionEnd h
      rw [fractionEnd_point whole hne] at h
      have hend := readsOn_exponentEnd h
      refine ⟨(hend.suffix.trans (digits_suffix s)).trans (List.suffix_cons _ _),
        fun {rest} hrest => ?_⟩
      have happend := digits_append s hrest
      have hne' : (digits (s ++ rest)).1 ≠ [] := by rwa [happend]
      rw [List.cons_append, fractionEnd_point whole hne', happend]
      exact hend.append hrest
    · rw [fractionEnd_of_ne hp] at h
      have hend := readsOn_exponentEnd h
      refine ⟨hend.suffix, fun hrest => ?_⟩
      rw [List.cons_append, fractionEnd_of_ne hp]
      exact hend.append hrest

theorem readsOn_numeral {n : Numeral} (h : numeral atEnd s = .ok (n, r)) :
    ReadsOn (numeral atEnd) s r n := by
  have hwhole := isWhole_of_numeral h
  rw [numeral_eq hwhole] at h
  have hend := readsOn_fractionEnd h
  refine ⟨hend.suffix.trans (digits_suffix s), fun {rest} hrest => ?_⟩
  have happend := digits_append s hrest
  have hwhole' : IsWhole (digits (s ++ rest)).1 := by rwa [happend]
  rw [numeral_eq hwhole', happend]
  exact hend.append hrest

/-- **What is read of a number does not depend on what follows it.** -/
theorem readsOn_number {negative : Bool} {v : Json} (h : number negative s = .ok (v, r)) :
    ReadsOn (number negative) s r v := by
  unfold number at h
  split at h
  · cases h
  · next hn =>
    split at h
    · next hv =>
      obtain ⟨rfl, rfl⟩ := Prod.mk.inj (Except.ok.inj h)
      have hnumeral := readsOn_numeral hn
      refine ⟨hnumeral.suffix, fun hrest => ?_⟩
      rw [number, hnumeral.append hrest]
      dsimp only
      rw [hv]
    · cases h

/-! ## Integers -/

/-- The value of a decimal digit. -/
def digitValue (c : Char) : Nat := c.toNat - '0'.toNat

theorem isDigit_iff {c : Char} : c.isDigit = true ↔ '0' ≤ c ∧ c ≤ '9' := by
  rw [Char.isDigit, Bool.and_eq_true, decide_eq_true_iff, decide_eq_true_iff]
  exact Iff.rfl

theorem digit?_of_isDigit {c : Char} (h : c.isDigit = true) :
    digit? (.char c) = some (digitValue c) := if_pos (isDigit_iff.mp h)

theorem digits_ofChars {cs : List Char} (h : ∀ c ∈ cs, c.isDigit = true) (hrest : Ends rest) :
    digits (Utf8.ofChars cs ++ rest) = (cs.map digitValue, rest) := by
  induction cs with
  | nil => exact digits_of_ends hrest
  | cons c cs ih =>
    obtain ⟨hc, hcs⟩ := List.forall_mem_cons.mp h
    rw [Utf8.ofChars_cons, List.cons_append, digits, digit?_of_isDigit hc, ih hcs, List.map_cons]

theorem isDigit_of_mem_digitsOf {n : Nat} {c : Char} (h : c ∈ Decimal.digitsOf n) :
    c.isDigit = true :=
  Nat.isDigit_of_mem_toDigits (by decide) (by decide) h

/-- The digits of a positive number do not start with zero. -/
theorem head?_digitsOf_ne_zero {n : Nat} (h : 0 < n) : (Decimal.digitsOf n).head? ≠ some '0' := by
  induction n using Nat.strong_induction_on with
  | _ n ih =>
    unfold Decimal.digitsOf at ih ⊢
    by_cases hlt : n < 10
    · rw [Nat.toDigits_of_lt_base hlt, List.head?_cons, ne_eq, Option.some_inj,
        Nat.digitChar_eq_zero]
      omega
    · rw [Nat.toDigits_of_base_le (by decide) (by omega), List.head?_append_of_ne_nil _
        Nat.toDigits_ne_nil]
      exact ih (n / 10) (by omega) (by omega)

theorem isWhole_digitsOf (n : Nat) : IsWhole ((Decimal.digitsOf n).map digitValue) := by
  refine ⟨fun h => Nat.toDigits_ne_nil (List.map_eq_nil_iff.mp h), fun d rest h => ?_⟩
  obtain ⟨c, cs, hcs, hc, hrest⟩ := List.map_eq_cons_iff.mp h
  have hzero : c = '0' := by
    have hdigit := isDigit_of_mem_digitsOf (n := n) (c := c) (hcs ▸ List.mem_cons_self)
    have hle : '0'.toNat ≤ c.toNat := (isDigit_iff.mp hdigit).1
    exact Char.toNat_inj.mp (by unfold digitValue at hc; omega)
  rcases n.eq_zero_or_pos with rfl | hpos
  · obtain rfl : cs = [] := (List.cons.inj hcs).2.symm
    cases hrest
  · exact head?_digitsOf_ne_zero hpos (by rw [hcs, hzero]; rfl)

/-- Digits whose number fits are all taken. -/
theorem significand_map_digitValue (start : Nat) {cs : List Char}
    (h : Nat.ofDigitChars 10 cs start ≤ maxUnsigned) :
    significand start (cs.map digitValue) = (Nat.ofDigitChars 10 cs start, 0) := by
  induction cs generalizing start with
  | nil => rw [List.map_nil, significand, Nat.ofDigitChars_nil]
  | cons c cs ih =>
    rw [Nat.ofDigitChars_cons] at h ⊢
    have hstep : start * 10 + digitValue c = 10 * start + (c.toNat - '0'.toNat) := by
      unfold digitValue
      omega
    have hle : start * 10 + digitValue c ≤ maxUnsigned := by
      rw [Nat.ofDigitChars_eq_ofDigitChars_zero, ← hstep] at h
      have hpos : 1 * (start * 10 + digitValue c) ≤ 10 ^ cs.length * (start * 10 + digitValue c) :=
        Nat.mul_le_mul_right _ (Nat.pow_pos (by decide))
      omega
    rw [List.map_cons, significand, if_pos hle, hstep, ih _ h]

theorem significand_digitsOf {n : Nat} (h : n ≤ maxUnsigned) :
    significand 0 ((Decimal.digitsOf n).map digitValue) = (n, 0) := by
  have hn : Nat.ofDigitChars 10 (Decimal.digitsOf n) 0 = n := Nat.ofDigitChars_ten_toDigits
  rw [significand_map_digitValue 0 (by rwa [hn]), hn]

theorem numeral_digitsOf (n : Nat) (hrest : Ends rest) :
    numeral atEnd (Utf8.ofChars (Decimal.digitsOf n) ++ rest) =
      .ok (⟨(Decimal.digitsOf n).map digitValue, none, none⟩, rest) := by
  have hdigits := digits_ofChars (fun _ => isDigit_of_mem_digitsOf (n := n)) hrest
  have hwhole := isWhole_digitsOf n
  rw [numeral_eq (by rwa [hdigits]), hdigits]
  exact fractionEnd_of_ends _ hrest

theorem number_digitsOf {n : Nat} (h : n ≤ maxUnsigned) (hrest : Ends rest) :
    number false (Utf8.ofChars (Decimal.digitsOf n) ++ rest) = .ok (.int n, rest) := by
  rw [number, numeral_digitsOf n hrest]
  simp only [Numeral.value?, significand_digitsOf h]
  rfl

theorem number_negative_digitsOf {n : Nat} (hpos : 0 < n) (h : n ≤ signedLimit)
    (hrest : Ends rest) :
    number true (Utf8.ofChars (Decimal.digitsOf n) ++ rest) = .ok (.int (-n), rest) := by
  have hle : n ≤ maxUnsigned := Nat.le_trans h (by decide)
  rw [number, numeral_digitsOf n hrest]
  simp only [Numeral.value?, significand_digitsOf hle, Bool.not_true, Bool.false_eq_true, if_false,
    if_pos (And.intro hpos h)]

/-! ## Values -/

/-- A value that starts with none of the brackets is a scalar. -/
theorem value_eq_scalar (depth : Nat) {c : Char} (hblank : isBlankPiece (.char c) = false)
    (hsquare : c ≠ '[') (hcurly : c ≠ '\x7b') (s : List Piece) :
    value depth (.char c :: s) = scalar c s := by
  unfold value skipBlank
  rw [List.dropWhile_cons_of_neg (by rw [hblank]; decide)]
  dsimp only
  rw [if_neg hsquare, if_neg hcurly]

theorem ne_of_isDigit {c c' : Char} (h : c.isDigit = true) (h' : c'.isDigit = false) : c ≠ c' := by
  rintro rfl
  rw [h] at h'
  cases h'

theorem isBlankPiece_of_isDigit {c : Char} (h : c.isDigit = true) :
    isBlankPiece (.char c) = false := by
  simp [isBlankPiece, ne_of_isDigit h]

theorem scalar_of_isDigit {c : Char} (h : c.isDigit = true) (s : List Piece) :
    scalar c s = number false (.char c :: s) := by
  rw [scalar, if_neg (ne_of_isDigit h rfl), if_neg (ne_of_isDigit h rfl),
    if_neg (ne_of_isDigit h rfl), if_neg (ne_of_isDigit h rfl), if_neg (ne_of_isDigit h rfl),
    if_pos (isDigit_iff.mp h)]

/-- **An integer of 64 bits is read back** from its digits. -/
theorem value_intChars (depth : Nat) {n : Int} (lower : -2 ^ 63 ≤ n) (upper : n < 2 ^ 64)
    (hrest : Ends rest) :
    value depth (Utf8.ofChars (intChars n) ++ rest) = .ok (.int n, rest) := by
  rw [intChars]
  split
  · next hneg =>
    have hlimit : n.natAbs ≤ signedLimit := by
      simp only [signedLimit, Nat.pow_eq]
      omega
    rw [Utf8.ofChars_cons, List.cons_append,
      value_eq_scalar depth (by decide) (by decide) (by decide)]
    change number true _ = _
    rw [number_negative_digitsOf (by omega) hlimit hrest]
    have habs : -(n.natAbs : Int) = n := by omega
    rw [habs]
  · next hneg =>
    have hlimit : n.natAbs ≤ maxUnsigned := by
      simp only [maxUnsigned, Nat.pow_eq]
      omega
    have hnumber := number_digitsOf hlimit hrest
    have hfirst := @isDigit_of_mem_digitsOf n.natAbs
    rcases hdigits : Decimal.digitsOf n.natAbs with _ | ⟨c, cs⟩
    · exact absurd hdigits Nat.toDigits_ne_nil
    · have hc : c.isDigit = true := hfirst (hdigits ▸ List.mem_cons_self)
      have habs : (n.natAbs : Int) = n := by omega
      rw [hdigits, Utf8.ofChars_cons, List.cons_append] at hnumber
      rw [Utf8.ofChars_cons, List.cons_append,
        value_eq_scalar depth (isBlankPiece_of_isDigit hc) (ne_of_isDigit hc rfl)
          (ne_of_isDigit hc rfl), scalar_of_isDigit hc, hnumber, habs]

/-! ## Doubles -/

/-- The characters that doubles are written with. -/
def IsNumberChar (c : Char) : Prop := c.isDigit = true ∨ c ∈ ['-', '+', '.', 'e']

theorem isBlankPiece_of_isNumberChar {c : Char} (h : IsNumberChar c) :
    isBlankPiece (.char c) = false := by
  rcases h with h | h
  · exact isBlankPiece_of_isDigit h
  · simp only [List.mem_cons, List.not_mem_nil, or_false] at h
    obtain rfl | rfl | rfl | rfl := h <;> rfl

theorem forall_isNumberChar_digitsOf (n : Nat) : ∀ c ∈ Decimal.digitsOf n, IsNumberChar c :=
  fun _ h => .inl (isDigit_of_mem_digitsOf h)

theorem forall_isNumberChar_zeros (n : Nat) : ∀ c ∈ Decimal.zeros n, IsNumberChar c :=
  fun c h => .inl (by rw [List.eq_of_mem_replicate h]; rfl)

theorem forall_isNumberChar_plain (d : Decimal) : ∀ c ∈ d.plain, IsNumberChar c := by
  have hdigits := forall_isNumberChar_digitsOf d.digits
  have hpoint : IsNumberChar '.' := .inr (by decide)
  simp only [Decimal.plain]
  split
  · exact List.forall_mem_append.mpr ⟨hdigits, forall_isNumberChar_zeros _⟩
  · split
    · exact List.forall_mem_append.mpr ⟨fun c hc => hdigits c (List.mem_of_mem_take hc),
        List.forall_mem_cons.mpr ⟨hpoint, fun c hc => hdigits c (List.mem_of_mem_drop hc)⟩⟩
    · exact List.forall_mem_append.mpr ⟨List.forall_mem_cons.mpr ⟨.inl rfl,
        List.forall_mem_cons.mpr ⟨hpoint, forall_isNumberChar_zeros _⟩⟩, hdigits⟩

theorem forall_isNumberChar_scientific (d : Decimal) : ∀ c ∈ d.scientific, IsNumberChar c := by
  have hdigits := forall_isNumberChar_digitsOf d.digits
  simp only [Decimal.scientific]
  refine List.forall_mem_append.mpr ⟨List.forall_mem_append.mpr
    ⟨fun c hc => hdigits c (List.mem_of_mem_take hc), ?_⟩,
    List.forall_mem_cons.mpr ⟨.inr (by decide), List.forall_mem_cons.mpr
      ⟨?_, forall_isNumberChar_digitsOf _⟩⟩⟩
  · split
    · exact List.forall_mem_nil _
    · exact List.forall_mem_cons.mpr
        ⟨.inr (by decide), fun c hc => hdigits c (List.mem_of_mem_drop hc)⟩
  · split <;> exact .inr (by decide)

theorem forall_isNumberChar_marked (d : Double) : ∀ c ∈ d.marked, IsNumberChar c := by
  refine List.forall_mem_append.mpr ⟨?_, ?_⟩
  · unfold Double.signChars
    split
    · exact List.forall_mem_singleton.mpr (.inr (by decide))
    · exact List.forall_mem_nil _
  · have hzero : IsNumberChar '0' := .inl rfl
    have hfraction : ∀ c ∈ ['.', '0'], IsNumberChar c :=
      List.forall_mem_cons.mpr ⟨.inr (by decide), List.forall_mem_singleton.mpr hzero⟩
    simp only [Decimal.marked]
    split
    · exact List.forall_mem_cons.mpr ⟨hzero, hfraction⟩
    · split
      · split
        · exact List.forall_mem_append.mpr ⟨forall_isNumberChar_plain _, hfraction⟩
        · exact forall_isNumberChar_plain _
      · exact forall_isNumberChar_scientific _

/-- Only a number is read as a double. -/
theorem readsOn_scalar_double {c : Char} {d : Double} (h : scalar c s = .ok (.double d, r)) :
    ReadsOn (fun s => scalar c s.tail) (.char c :: s) r (.double d) := by
  obtain h | ⟨_, h⟩ | ⟨_, h⟩ | ⟨rfl, h⟩ | ⟨hdigit, h⟩ := scalar_cases h
  · cases h
  · cases h
  · cases h
  · have hnumber := readsOn_number h
    exact ⟨hnumber.suffix.trans (List.suffix_cons _ _), hnumber.append⟩
  · have hnumber := readsOn_number h
    refine ⟨hnumber.suffix, fun hrest => ?_⟩
    rw [List.cons_append, List.tail_cons, scalar_of_isDigit (isDigit_iff.mpr hdigit),
      ← List.cons_append]
    exact hnumber.append hrest

/-- A double without blank characters around it is read however much may be opened, and whatever
follows. -/
theorem readsOn_value_double {depth : Nat} {d : Double}
    (hblank : ∀ p ∈ s, isBlankPiece p = false) (h : value depth s = .ok (.double d, r))
    (depth' : Nat) : ReadsOn (value depth') s r (.double d) := by
  obtain ⟨c, t, hskip, hcases⟩ := value_cases h
  obtain ⟨_, _, -, -, hv⟩ | ⟨_, _, -, -, hv⟩ | ⟨hsquare, hcurly, hscalar⟩ := hcases
  · cases hv
  · cases hv
  · have hs : skipBlank s = s := by
      cases s with
      | nil => rfl
      | cons p s => exact List.dropWhile_cons_of_neg (by rw [hblank p List.mem_cons_self]; decide)
    obtain rfl : s = .char c :: t := hs.symm.trans hskip
    have hc := hblank _ List.mem_cons_self
    have hread := readsOn_scalar_double hscalar
    refine ⟨hread.suffix, fun hrest => ?_⟩
    rw [List.cons_append, value_eq_scalar depth' hc hsquare hcurly]
    exact hread.append hrest

/-- **A double that is read back from its text is read back wherever that text stands.** -/
theorem value_doubleChars (depth : Nat) {d : Double} (finite : d.isFinite)
    (h : parse (Json.double d).compact = .ok (.double d)) (hrest : Ends rest) :
    value depth (Utf8.ofChars (doubleChars d) ++ rest) = .ok (.double d, rest) := by
  have hblank : ∀ p ∈ Utf8.ofChars (doubleChars d), isBlankPiece p = false := by
    rw [doubleChars, if_pos finite]
    intro p hp
    obtain ⟨c, hc, rfl⟩ := List.mem_map.mp hp
    exact isBlankPiece_of_isNumberChar (forall_isNumberChar_marked d c hc)
  have hparse : whole (value maxDepth) (Utf8.ofChars (doubleChars d)) = .ok (.double d) := by
    rwa [parse, compact, String.toList_ofList] at h
  unfold whole at hparse
  split at hparse
  · cases hparse
  · next r hr =>
    split at hparse
    · next hskip =>
      obtain rfl := Except.ok.inj hparse
      have hread := readsOn_value_double hblank hr depth
      -- what is left is blank, and no blank was there
      have hnil : r = [] := by
        cases r with
        | nil => rfl
        | cons p r =>
          have hp := hblank p (hread.suffix.subset List.mem_cons_self)
          rw [skipBlank, List.dropWhile_cons_of_neg (by rw [hp]; decide)] at hskip
          cases hskip
      have happend := hread.append hrest
      rwa [hnil, List.nil_append] at happend
    · cases hparse

end Json
end QueryConsole
