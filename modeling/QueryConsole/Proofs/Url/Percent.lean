/-
# Encoded texts

Percent-encoding writes a byte with `%` and two digits, so it brings in no character but these
(`forall_mem_byte`), and decoding finds the byte again (`decode_byte`).

A form field is encoded so that no character of it separates fields or ends the query
(`isFormChar_of_mem_form`).  Whatever the field says, it is read back from its text alone
(`unform_form`), and with its name in front it is the only field of the form (`formFields_field`).
-/

import QueryConsole.Proofs.Text.Ends
import QueryConsole.Proofs.Text.Utf8
import QueryConsole.Url.Percent

namespace QueryConsole
namespace Percent

variable {c : Char} {cs : List Char} {p : Char → Bool} {q : Char → Prop}

/-! ## Encoded characters -/

/-- An encoded byte consists of `%` and digits. -/
theorem forall_mem_byte (hpercent : q '%') (hdigit : ∀ n < 16, q (Text.hexChar n)) (b : UInt8) :
    ∀ c ∈ byte b, q c := by
  have hhigh : b.toNat / 16 < 16 := Nat.div_lt_of_lt_mul b.toNat_lt
  have hlow : b.toNat % 16 < 16 := Nat.mod_lt _ (by omega)
  intro c hc
  simp only [byte, List.mem_cons, List.not_mem_nil, or_false] at hc
  rcases hc with rfl | rfl | rfl
  · exact hpercent
  · exact hdigit _ hhigh
  · exact hdigit _ hlow

theorem forall_mem_char (hpercent : q '%') (hdigit : ∀ n < 16, q (Text.hexChar n)) (c : Char) :
    ∀ d ∈ char c, q d := by
  intro d hd
  obtain ⟨b, -, hb⟩ := List.mem_flatMap.mp hd
  exact forall_mem_byte hpercent hdigit b d hb

/-- **What stands in an encoded text:** characters that are not encoded, `%` and digits. -/
theorem forall_mem_encode (hpercent : q '%') (hdigit : ∀ n < 16, q (Text.hexChar n))
    (hkept : ∀ c ∈ cs, p c = false → q c) : ∀ c ∈ encode p cs, q c := by
  intro d hd
  obtain ⟨c, hc, hd⟩ := List.mem_flatMap.mp hd
  cases hp : p c with
  | true =>
    rw [hp, if_pos rfl] at hd
    exact forall_mem_char hpercent hdigit c d hd
  | false =>
    rw [hp, if_neg Bool.false_ne_true] at hd
    rw [List.mem_singleton.mp hd]
    exact hkept c hc hp

/-! ## Decoding -/

theorem decode_cons (h : c ≠ '%') (rest : List Char) :
    decode (c :: rest) = String.utf8EncodeChar c ++ decode rest := by
  rw [decode]
  rintro a b tail hpercent -
  exact h hpercent

/-- **A byte is read back** from its digits. -/
theorem decode_byte (b : UInt8) (rest : List Char) : decode (byte b ++ rest) = b :: decode rest := by
  have hhigh : Text.hexDigit? (Text.hexChar (b.toNat / 16)) = some (b.toNat / 16) :=
    Text.hexDigit?_hexChar (Nat.div_lt_of_lt_mul b.toNat_lt)
  have hlow : Text.hexDigit? (Text.hexChar (b.toNat % 16)) = some (b.toNat % 16) :=
    Text.hexDigit?_hexChar (Nat.mod_lt _ (by omega))
  have hvalue : b.toNat / 16 * 16 + b.toNat % 16 = b.toNat := by omega
  rw [byte, List.cons_append, List.cons_append, List.cons_append, List.nil_append, decode, hhigh, hlow]
  dsimp only
  rw [hvalue, UInt8.ofNat_toNat]

theorem decode_char (c : Char) (rest : List Char) :
    decode (char c ++ rest) = String.utf8EncodeChar c ++ decode rest := by
  rw [char]
  induction String.utf8EncodeChar c with
  | nil => rfl
  | cons b bytes ih => rw [List.flatMap_cons, List.append_assoc, decode_byte, ih, List.cons_append]

/-! ## Form fields -/

/-- A character that may stand in the text of a form field. -/
def isFormChar (c : Char) : Bool := isFormPlain c || c = '+' || c = '%'

theorem isFormChar_of_mem_formChar : ∀ d ∈ formChar c, isFormChar d = true := by
  intro d hd
  rw [formChar] at hd
  split at hd
  · rw [List.mem_singleton.mp hd]
    rfl
  · split at hd
    · rename_i hplain
      rw [List.mem_singleton.mp hd, isFormChar, hplain]
      rfl
    · exact forall_mem_char (q := fun d => isFormChar d = true) rfl (by decide) c d hd

/-- **No character of a form field separates:** all are letters, digits, `*-._`, `+` and `%`. -/
theorem isFormChar_of_mem_form : ∀ d ∈ form cs, isFormChar d = true := by
  intro d hd
  obtain ⟨c, -, hd⟩ := List.mem_flatMap.mp hd
  exact isFormChar_of_mem_formChar d hd

theorem not_mem_form (h : isFormChar c = false) (cs : List Char) : c ∉ form cs := by
  intro hmem
  rw [isFormChar_of_mem_form c hmem] at h
  cases h

/-- A character of a form field is read back as its bytes, whatever follows. -/
theorem unform_formChar (c : Char) (rest : List Char) :
    unform (formChar c ++ rest) = String.utf8EncodeChar c ++ unform rest := by
  rw [unform, unform, List.map_append, formChar]
  split
  · rename_i hspace
    rw [hspace]
    exact decode_cons (by decide) _
  · split
    · rename_i hplain
      have hplus : c ≠ '+' := by
        rintro rfl
        cases hplain
      have hpercent : c ≠ '%' := by
        rintro rfl
        cases hplain
      rw [List.map_singleton, if_neg hplus]
      exact decode_cons hpercent _
    · have hkept : (char c).map (fun d => if d = '+' then ' ' else d) = char c := by
        have hother := forall_mem_char (q := fun d => d ≠ '+') (by decide) (by decide) c
        calc (char c).map (fun d => if d = '+' then ' ' else d)
          _ = (char c).map id := List.map_congr_left fun d hd => if_neg (hother d hd)
          _ = char c := List.map_id _
      rw [hkept, decode_char]

/-- **A form field is read back** from its text. -/
theorem unform_form (cs : List Char) : unform (form cs) = Utf8.encode cs := by
  induction cs with
  | nil => rfl
  | cons c cs ih =>
    have hform : form (c :: cs) = formChar c ++ form cs := List.flatMap_cons
    have hencode : Utf8.encode (c :: cs) = String.utf8EncodeChar c ++ Utf8.encode cs :=
      List.flatMap_cons
    rw [hform, unform_formChar, ih, hencode]

/-- **A name and a value are the only field** of the form that their texts make. -/
theorem formFields_field (name value : List Char) :
    formFields (form name ++ '=' :: form value) = [(Utf8.encode name, Utf8.encode value)] := by
  have hsplit : (form name ++ '=' :: form value).splitOn '&' = [form name ++ '=' :: form value] := by
    refine List.splitOnP_eq_singleton fun c hc => ?_
    have hother : c ≠ '&' := by
      rintro rfl
      rcases List.mem_append.mp hc with hname | hvalue
      · exact not_mem_form rfl name hname
      · rcases List.mem_cons.mp hvalue with hequals | hvalue
        · cases hequals
        · exact not_mem_form rfl value hvalue
    exact beq_false_of_ne hother
  have hname : ∀ c ∈ form name, decide (c ≠ '=') = true := by
    intro c hc
    refine decide_eq_true ?_
    rintro rfl
    exact not_mem_form rfl name hc
  have hstop : decide ('=' ≠ '=') = false := by decide
  have hkept : [form name ++ '=' :: form value].filter (· ≠ []) = [form name ++ '=' :: form value] := by
    simp
  rw [formFields, hsplit, hkept, List.map_singleton,
    Text.takeWhile_append_cons hstop, Text.dropWhile_append_cons hstop,
    List.takeWhile_eq_self_iff.mpr hname, List.dropWhile_eq_nil_iff.mpr hname, List.nil_append,
    List.drop_succ_cons, List.drop_zero, unform_form, unform_form]

end Percent
end QueryConsole
