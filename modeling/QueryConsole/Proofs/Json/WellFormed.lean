/-
# Well-formed values

A JSON value is well-formed if its integers are those of 64 bits, signed or unsigned, its doubles are
finite and the keys of its objects differ.  Every value that is read is well-formed
(`wellFormed_of_value`, `wellFormed_of_parseBytes`): what is proved of well-formed values holds of all
that the service may send.
-/

import QueryConsole.Json.Reader
import QueryConsole.Proofs.Json.Members
import QueryConsole.Proofs.Number.Finite

namespace QueryConsole
namespace Json

open Utf8 (Piece)

/-- The values that a text may write. -/
inductive WellFormed : Json → Prop where
  | null : WellFormed .null
  | bool (b : Bool) : WellFormed (.bool b)
  | int {n : Int} (lower : -2 ^ 63 ≤ n) (upper : n < 2 ^ 64) : WellFormed (.int n)
  | double {d : Double} (finite : d.isFinite) : WellFormed (.double d)
  | str (s : String) : WellFormed (.str s)
  | arr {items : List Json} (items_wf : ∀ v ∈ items, WellFormed v) : WellFormed (.arr items)
  | obj {members : List (String × Json)} (keys : (members.map Prod.fst).Nodup)
      (values : ∀ m ∈ members, WellFormed m.2) : WellFormed (.obj members)

/-- A number of a well-formed value is finite. -/
theorem WellFormed.isFinite {v : Json} {d : Double} (h : v.WellFormed) (hd : v.number? = some d) :
    d.isFinite := by
  cases h with
  | int lower upper => exact Option.some.inj hd ▸ Double.isFinite_ofInt lower upper
  | double finite => exact Option.some.inj hd ▸ finite
  | _ => cases hd

/-- A member of a well-formed object is well-formed. -/
theorem WellFormed.of_lookup? {members : List (String × Json)} {key : String} {v : Json}
    (h : (Json.obj members).WellFormed) (hv : lookup? members key = some v) : v.WellFormed := by
  cases h with
  | obj _ values => exact values _ (mem_of_lookup? hv)

/-! ## Numbers -/

theorem significand_le {start : Nat} (h : start ≤ maxUnsigned) (ds : List Nat) :
    (significand start ds).1 ≤ maxUnsigned := by
  induction ds generalizing start with
  | nil => exact h
  | cons d ds ih =>
    rw [significand]
    split
    · next hd => exact ih hd
    · exact h

theorem lt_of_le_maxUnsigned {n : Nat} (h : n ≤ maxUnsigned) : n < 2 ^ 64 := by
  simp only [maxUnsigned, Nat.pow_eq] at h
  omega

theorem wellFormed_of_numeral {negative : Bool} {n : Numeral} {v : Json}
    (h : n.value? negative = some v) : v.WellFormed := by
  have hwhole := significand_le (Nat.zero_le _) n.whole
  simp only [Numeral.value?] at h
  split at h
  · have hlt := lt_of_le_maxUnsigned hwhole
    split at h
    · obtain rfl := Option.some.inj h
      exact .int (by omega) (by omega)
    · split at h
      · next hrange =>
        have hle : _ ≤ 2 ^ 63 := hrange.2
        obtain rfl := Option.some.inj h
        exact .int (by omega) (by omega)
      · obtain rfl := Option.some.inj h
        exact .double (Double.isFinite_ofMagnitude (Double.nearest_natural_lt_infinityBits hlt) _)
  · obtain ⟨m, hm, rfl⟩ := Option.map_eq_some_iff.mp h
    exact .double (Double.isFinite_ofMagnitude (Double.lt_infinityBits_of_scaleDecimal?
      (lt_of_le_maxUnsigned (significand_le hwhole _)) hm) _)

theorem wellFormed_of_number {negative : Bool} {s rest : List Piece} {v : Json}
    (h : number negative s = .ok (v, rest)) : v.WellFormed := by
  unfold number at h
  split at h
  · cases h
  · split at h
    · next hv =>
      obtain ⟨rfl, -⟩ := Prod.mk.inj (Except.ok.inj h)
      exact wellFormed_of_numeral hv
    · cases h

/-! ## Arrays and objects -/

/-- A result that is changed comes from a result. -/
theorem exists_of_map_eq_ok {ε α β : Type} {x : Except ε α} {f : α → β} {b : β}
    (h : x.map f = .ok b) : ∃ a, x = .ok a ∧ f a = b := by
  cases x with
  | error => cases h
  | ok a => exact ⟨a, rfl, Except.ok.inj h⟩

section
variable {α : Type} {item : List Piece → Read α} {P : α → Prop} {s rest : List Piece}

/-- What holds of all that is read for an element holds of every element of an array. -/
theorem forall_mem_of_items (hitem : ∀ s x rest, item s = .ok (x, rest) → P x) {n : Nat}
    {first : Bool} {xs : List α} (h : items item n first s = .ok (xs, rest)) : ∀ x ∈ xs, P x := by
  induction n generalizing first s xs with
  | zero => cases h
  | succ n ih =>
    rw [items] at h
    split at h
    · cases h
    · obtain ⟨rfl, -⟩ := Prod.mk.inj (Except.ok.inj h)
      exact List.forall_mem_nil _
    · split at h
      · cases h
      · next hx =>
        obtain ⟨⟨_, _⟩, hxs, heq⟩ := exists_of_map_eq_ok h
        obtain ⟨rfl, rfl⟩ := Prod.mk.inj heq
        exact List.forall_mem_cons.mpr ⟨hitem _ _ _ hx, ih hxs⟩

/-- What holds of all that is read for a value holds of the value of every member of an object. -/
theorem forall_mem_of_members (hitem : ∀ s x rest, item s = .ok (x, rest) → P x) {n : Nat}
    {first : Bool} {ms : List (String × α)} (h : members item n first s = .ok (ms, rest)) :
    ∀ m ∈ ms, P m.2 := by
  induction n generalizing first s ms with
  | zero => cases h
  | succ n ih =>
    rw [members] at h
    split at h
    · cases h
    · obtain ⟨rfl, -⟩ := Prod.mk.inj (Except.ok.inj h)
      exact List.forall_mem_nil _
    · split at h
      · cases h
      · split at h
        · cases h
        · split at h
          · cases h
          · next hx =>
            obtain ⟨⟨_, _⟩, hms, heq⟩ := exists_of_map_eq_ok h
            obtain ⟨rfl, rfl⟩ := Prod.mk.inj heq
            exact List.forall_mem_cons.mpr ⟨hitem _ _ _ hx, ih hms⟩

theorem forall_mem_of_array (hitem : ∀ s x rest, item s = .ok (x, rest) → P x) {xs : List α}
    (h : array item s = .ok (xs, rest)) : ∀ x ∈ xs, P x := by
  unfold array at h
  split at h
  · cases h
  · next hxs =>
    obtain ⟨_, -, heq⟩ := exists_of_map_eq_ok h
    obtain ⟨rfl, -⟩ := Prod.mk.inj heq
    exact forall_mem_of_items hitem hxs

theorem forall_mem_of_object (hitem : ∀ s x rest, item s = .ok (x, rest) → P x)
    {ms : List (String × α)} (h : object item s = .ok (ms, rest)) : ∀ m ∈ ms, P m.2 := by
  unfold object at h
  split at h
  · cases h
  · next hms =>
    obtain ⟨_, -, heq⟩ := exists_of_map_eq_ok h
    obtain ⟨rfl, -⟩ := Prod.mk.inj heq
    exact forall_mem_of_members hitem hms

end

/-- Putting members one after the other keeps an object well-formed. -/
theorem WellFormed.foldl_put {ms before : List (String × Json)} (hbefore : (Json.obj before).WellFormed)
    (hms : ∀ m ∈ ms, m.2.WellFormed) :
    (Json.obj (ms.foldl (fun ms (k, v) => put ms k v) before)).WellFormed := by
  induction ms generalizing before with
  | nil => exact hbefore
  | cons m ms ih =>
    obtain ⟨hm, hms⟩ := List.forall_mem_cons.mp hms
    cases hbefore with
    | obj keys values =>
      refine ih (.obj (nodup_keys_put keys _ _) fun m' hm' => ?_) hms
      obtain hm' | rfl := mem_put hm'
      · exact values m' hm'
      · exact hm

theorem wellFormed_ofMembers {ms : List (String × Json)} (hms : ∀ m ∈ ms, m.2.WellFormed) :
    (ofMembers ms).WellFormed :=
  WellFormed.foldl_put (.obj List.nodup_nil (List.forall_mem_nil _)) hms

/-! ## Values -/

section
variable {s rest : List Piece} {v : Json}

/-- A scalar is read as a word, a string or a number. -/
theorem scalar_cases {c : Char} (h : scalar c s = .ok (v, rest)) :
    v = .null ∨ (∃ b, v = .bool b) ∨ (∃ text, v = .str text) ∨
      (c = '-' ∧ number true s = .ok (v, rest)) ∨
      ('0' ≤ c ∧ c ≤ '9') ∧ number false (.char c :: s) = .ok (v, rest) := by
  unfold scalar at h
  split at h
  · obtain ⟨_, -, heq⟩ := exists_of_map_eq_ok h
    exact .inl (Prod.mk.inj heq).1.symm
  split at h
  · obtain ⟨_, -, heq⟩ := exists_of_map_eq_ok h
    exact .inr (.inl ⟨true, (Prod.mk.inj heq).1.symm⟩)
  split at h
  · obtain ⟨_, -, heq⟩ := exists_of_map_eq_ok h
    exact .inr (.inl ⟨false, (Prod.mk.inj heq).1.symm⟩)
  split at h
  · obtain ⟨_, -, heq⟩ := exists_of_map_eq_ok h
    exact .inr (.inr (.inl ⟨_, (Prod.mk.inj heq).1.symm⟩))
  split at h
  · next hc => exact .inr (.inr (.inr (.inl ⟨hc, h⟩)))
  split at h
  · next hc => exact .inr (.inr (.inr (.inr ⟨hc, h⟩)))
  · cases h

/-- A value is read as an array or an object, where one may still be opened, or as a scalar. -/
theorem value_cases {depth : Nat} (h : value depth s = .ok (v, rest)) :
    ∃ c t, skipBlank s = .char c :: t ∧
      ((∃ n vs, depth = n + 1 ∧ array (value n) t = .ok (vs, rest) ∧ v = .arr vs) ∨
        (∃ n ms, depth = n + 1 ∧ object (value n) t = .ok (ms, rest) ∧ v = ofMembers ms) ∨
        (c ≠ '[' ∧ c ≠ '\x7b' ∧ scalar c t = .ok (v, rest))) := by
  unfold value at h
  split at h
  · cases h
  · cases h
  · next c t hskip =>
    refine ⟨c, t, hskip, ?_⟩
    split at h
    · cases depth with
      | zero => cases h
      | succ n =>
        obtain ⟨⟨vs, _⟩, hvs, heq⟩ := exists_of_map_eq_ok h
        obtain ⟨rfl, rfl⟩ := Prod.mk.inj heq
        exact .inl ⟨n, vs, rfl, hvs, rfl⟩
    · next hsquare =>
      split at h
      · cases depth with
        | zero => cases h
        | succ n =>
          obtain ⟨⟨ms, _⟩, hms, heq⟩ := exists_of_map_eq_ok h
          obtain ⟨rfl, rfl⟩ := Prod.mk.inj heq
          exact .inr (.inl ⟨n, ms, rfl, hms, rfl⟩)
      · next hcurly => exact .inr (.inr ⟨hsquare, hcurly, h⟩)

theorem wellFormed_of_scalar {c : Char} (h : scalar c s = .ok (v, rest)) : v.WellFormed := by
  obtain rfl | ⟨b, rfl⟩ | ⟨text, rfl⟩ | ⟨-, h⟩ | ⟨-, h⟩ := scalar_cases h
  · exact .null
  · exact .bool b
  · exact .str text
  · exact wellFormed_of_number h
  · exact wellFormed_of_number h

end

/-- **Every value that is read is well-formed.** -/
theorem wellFormed_of_value {depth : Nat} {s rest : List Piece} {v : Json}
    (h : value depth s = .ok (v, rest)) : v.WellFormed := by
  induction depth using Nat.strong_induction_on generalizing s rest v with
  | _ depth ih =>
    obtain ⟨c, t, -, hcases⟩ := value_cases h
    obtain ⟨n, vs, rfl, hvs, rfl⟩ | ⟨n, ms, rfl, hms, rfl⟩ | ⟨-, -, hscalar⟩ := hcases
    · exact .arr (forall_mem_of_array (fun _ _ _ => ih n (Nat.lt_succ_self n)) hvs)
    · exact wellFormed_ofMembers
        (forall_mem_of_object (fun _ _ _ => ih n (Nat.lt_succ_self n)) hms)
    · exact wellFormed_of_scalar hscalar

theorem wellFormed_of_parsePieces {s : List Piece} {v : Json} (h : parsePieces s = .ok v) :
    v.WellFormed := by
  unfold parsePieces whole at h
  split at h
  · cases h
  · next hv =>
    split at h
    · exact Except.ok.inj h ▸ wellFormed_of_value hv
    · cases h

/-- The value that bytes write is well-formed. -/
theorem wellFormed_of_parseBytes {bytes : List UInt8} {v : Json} (h : parseBytes bytes = .ok v) :
    v.WellFormed :=
  wellFormed_of_parsePieces h

end Json
end QueryConsole
