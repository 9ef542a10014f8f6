/-
# The grammar of JSON texts

What a text says is defined here without reading it.  Strings say characters, escaped or not
(`IsString`).  Arrays and objects enclose parts, each but the first behind a comma, with blank characters
anywhere between them (`Separated`): the parts of an array are its items (`IsArray`), and those of an
object its members (`IsObject`).

What the parts have to be is left open.  Where they are just texts (`Eq`) the members of an object are its
keys with the texts of their values, in the order of the text and each as often as it stands there;
values that are arrays or objects are taken apart in the same way (`IsValue`).
-/

import QueryConsole.Proofs.Json.ReadBack

namespace QueryConsole
namespace Json

/-! ## Strings -/

/-- The characters of the one-letter escapes, by their letters. -/
def simpleEscapes : List (Char × Char) :=
  [('"', '"'), ('\\', '\\'), ('/', '/'), ('b', '\x08'), ('f', '\x0c'), ('n', '\n'), ('r', '\r'),
    ('t', '\t')]

/-- Four hexadecimal digits and the number that they write. -/
inductive IsCodeUnit : List Char → Nat → Prop where
  | digits {a b c d : Char} {w x y z : Nat} (first : Text.hexDigit? a = some w)
      (second : Text.hexDigit? b = some x) (third : Text.hexDigit? c = some y)
      (fourth : Text.hexDigit? d = some z) :
    IsCodeUnit [a, b, c, d] (((w * 16 + x) * 16 + y) * 16 + z)

/-- What stands behind the backslash of an escape, and the character that it says.  Characters above
`FFFF` are escaped as two code units, which say no character on their own. -/
inductive IsEscape : List Char → Char → Prop where
  | simple {letter c : Char} (h : (letter, c) ∈ simpleEscapes) : IsEscape [letter] c
  | unit {digits : List Char} {n : Nat} (h : IsCodeUnit digits n)
      (range : n < 0xD800 ∨ 0xDFFF < n) : IsEscape ('u' :: digits) (Char.ofNat n)
  | pair {digits digits' : List Char} {high low : Nat} (h : IsCodeUnit digits high)
      (range : 0xD800 ≤ high ∧ high ≤ 0xDBFF) (h' : IsCodeUnit digits' low)
      (range' : 0xDC00 ≤ low ∧ low ≤ 0xDFFF) :
    IsEscape ('u' :: (digits ++ '\\' :: 'u' :: digits'))
      (Char.ofNat (0x10000 + (high - 0xD800) * 0x400 + (low - 0xDC00)))

/-- What stands between the quotes of a string, and the characters that it says. -/
inductive IsStringBody : List Char → List Char → Prop where
  | nil : IsStringBody [] []
  | plain {c : Char} {cs text : List Char} (control : 0x20 ≤ c.toNat) (quote : c ≠ '"')
      (backslash : c ≠ '\\') (rest : IsStringBody cs text) : IsStringBody (c :: cs) (c :: text)
  | escape {e cs text : List Char} {c : Char} (h : IsEscape e c) (rest : IsStringBody cs text) :
    IsStringBody ('\\' :: (e ++ cs)) (c :: text)

/-- The text of a string. -/
def IsString (cs : List Char) (s : String) : Prop :=
  ∃ body, cs = '"' :: (body ++ ['"']) ∧ IsStringBody body s.toList

/-- Characters that need no escape say themselves. -/
theorem isString_of_plain (cs : List Char)
    (h : ∀ c ∈ cs, 0x20 ≤ c.toNat ∧ c ≠ '"' ∧ c ≠ '\\') :
    IsString ('"' :: (cs ++ ['"'])) (String.ofList cs) := by
  refine ⟨cs, rfl, ?_⟩
  rw [String.toList_ofList]
  induction cs with
  | nil => exact .nil
  | cons c cs ih =>
    obtain ⟨⟨hcontrol, hquote, hbackslash⟩, hcs⟩ := List.forall_mem_cons.mp h
    exact .plain hcontrol hquote hbackslash (ih hcs)

/-! ## Parts -/

section
variable {α β : Type}

/-- The texts of parts, one behind the other: each but the first of all stands behind a comma, and blank
characters may stand anywhere between. -/
inductive Separated (part : List Char → α → Prop) : Bool → List Char → List α → Prop where
  | done {first : Bool} {blank : List Char} (h : Blank blank) : Separated part first blank []
  | part {first : Bool} {gap lead text rest : List Char} {x : α} {xs : List α} (gap_blank : Blank gap)
      (lead_blank : Blank lead) (h : part text x) (further : Separated part false rest xs) :
    Separated part first (gap ++ comma first ++ lead ++ text ++ rest) (x :: xs)

/-- The text of an array, whose items are parts. -/
def IsArray (item : List Char → α → Prop) (cs : List Char) (xs : List α) : Prop :=
  ∃ parts, cs = '[' :: (parts ++ [']']) ∧ Separated item true parts xs

/-- The text of a member: a key, a colon and a value. -/
def IsMember (value : List Char → α → Prop) (cs : List Char) (m : String × α) : Prop :=
  ∃ key gap lead text, cs = key ++ (gap ++ ':' :: (lead ++ text)) ∧ IsString key m.1 ∧ Blank gap ∧
    Blank lead ∧ value text m.2

/-- The text of an object, whose members are parts. -/
def IsObject (value : List Char → α → Prop) (cs : List Char) (ms : List (String × α)) : Prop :=
  ∃ parts, cs = '\x7b' :: (parts ++ ['\x7d']) ∧ Separated (IsMember value) true parts ms

/-- **Parts that are parts of another kind too** make a text of that kind. -/
theorem Separated.exists_forall₂ {part : List Char → α → Prop} {part' : List Char → β → Prop}
    {R : α → β → Prop} {first : Bool} {cs : List Char} {xs : List α} (h : Separated part first cs xs)
    (hparts : ∀ x ∈ xs, ∀ text, part text x → ∃ y, part' text y ∧ R x y) :
    ∃ ys, Separated part' first cs ys ∧ List.Forall₂ R xs ys := by
  induction h with
  | done hblank => exact ⟨[], .done hblank, .nil⟩
  | part gap_blank lead_blank hpart _ ih =>
    obtain ⟨hx, hxs⟩ := List.forall_mem_cons.mp hparts
    obtain ⟨y, hy, hxy⟩ := hx _ hpart
    obtain ⟨ys, hys, hall⟩ := ih hxs
    exact ⟨y :: ys, .part gap_blank lead_blank hy hys, .cons hxy hall⟩

/-- Every element on the right has its partner on the left. -/
theorem exists_mem_of_forall₂ {R : α → β → Prop} {xs : List α} {ys : List β} (h : List.Forall₂ R xs ys)
    {y : β} (hy : y ∈ ys) : ∃ x ∈ xs, R x y := by
  induction h with
  | nil => cases hy
  | @cons x _ xs _ hxy _ ih =>
    rcases List.mem_cons.mp hy with rfl | hy
    · exact ⟨x, List.mem_cons_self, hxy⟩
    · obtain ⟨x', hx', hR⟩ := ih hy
      exact ⟨x', List.mem_cons_of_mem x hx', hR⟩

end

/-! ## Values -/

/-- One decimal digit or more. -/
def IsDigits (cs : List Char) : Prop := cs ≠ [] ∧ ∀ c ∈ cs, c.isDigit = true

/-- The text of a number: digits without a zero in front of others, which may have a minus sign, a
fraction and an exponent. -/
inductive IsNumber : List Char → Prop where
  | parts {sign whole fraction exponent : List Char} (sign_eq : sign = [] ∨ sign = ['-'])
      (digits : IsDigits whole) (zero : whole.head? = some '0' → whole = ['0'])
      (fraction_eq : fraction = [] ∨ ∃ ds, fraction = '.' :: ds ∧ IsDigits ds)
      (exponent_eq : exponent = [] ∨ ∃ e sign ds, exponent = e :: (sign ++ ds) ∧ e ∈ ['e', 'E'] ∧
        sign ∈ [[], ['+'], ['-']] ∧ IsDigits ds) :
    IsNumber (sign ++ whole ++ fraction ++ exponent)

/-- The text of a value. -/
inductive IsValue : List Char → Prop where
  | word {cs : List Char} (h : cs ∈ ["null".toList, "true".toList, "false".toList]) : IsValue cs
  | number {cs : List Char} (h : IsNumber cs) : IsValue cs
  | string {cs : List Char} {s : String} (h : IsString cs s) : IsValue cs
  | array {cs : List Char} {texts : List (List Char)} (h : IsArray Eq cs texts)
      (items : ∀ text ∈ texts, IsValue text) : IsValue cs
  | object {cs : List Char} {ms : List (String × List Char)} (h : IsObject Eq cs ms)
      (values : ∀ m ∈ ms, IsValue m.2) : IsValue cs

/-- A whole text that is an object, with its keys and the texts of their values. -/
def IsObjectText (cs : List Char) (ms : List (String × List Char)) : Prop :=
  ∃ front object back, cs = front ++ (object ++ back) ∧ Blank front ∧ Blank back ∧
    IsObject Eq object ms ∧ ∀ m ∈ ms, IsValue m.2

/-- A number starts with a digit or a minus sign. -/
theorem IsNumber.exists_cons {cs : List Char} (h : IsNumber cs) :
    ∃ c rest, cs = c :: rest ∧ (c = '-' ∨ c.isDigit = true) := by
  obtain ⟨sign_eq, ⟨hne, hdigits⟩, -, -, -⟩ := h
  rcases sign_eq with rfl | rfl
  · obtain ⟨c, rest, rfl⟩ := List.exists_cons_of_ne_nil hne
    exact ⟨c, _, rfl, .inr (hdigits c List.mem_cons_self)⟩
  · exact ⟨'-', _, rfl, .inl rfl⟩

/-- **How values start:** the first character tells strings, arrays and objects from each other and from
all else, and it is neither blank nor closes anything. -/
theorem IsValue.exists_cons {cs : List Char} (h : IsValue cs) :
    ∃ c rest, cs = c :: rest ∧ isBlankPiece (.char c) = false ∧ c ≠ ']' ∧
      (c = '"' → ∃ s, IsString cs s) ∧
      (c = '[' → ∃ texts, IsArray Eq cs texts ∧ ∀ text ∈ texts, IsValue text) := by
  have hother {c : Char} {p q : Prop} (hquote : c ≠ '"') (hbracket : c ≠ '[') :
      (c = '"' → p) ∧ (c = '[' → q) :=
    ⟨fun h => absurd h hquote, fun h => absurd h hbracket⟩
  cases h with
  | word hword =>
    simp only [List.mem_cons, List.not_mem_nil, or_false] at hword
    rcases hword with rfl | rfl | rfl
    · exact ⟨'n', "ull".toList, rfl, rfl, by decide, hother (by decide) (by decide)⟩
    · exact ⟨'t', "rue".toList, rfl, rfl, by decide, hother (by decide) (by decide)⟩
    · exact ⟨'f', "alse".toList, rfl, rfl, by decide, hother (by decide) (by decide)⟩
  | number hnumber =>
    obtain ⟨c, rest, rfl, hc⟩ := hnumber.exists_cons
    have hne (d : Char) (hd : d ≠ '-' ∧ d.isDigit = false) : c ≠ d := by
      rintro rfl
      rcases hc with hsign | hdigit
      · exact hd.1 hsign
      · rw [hd.2] at hdigit
        cases hdigit
    refine ⟨c, rest, rfl, ?_, hne ']' (by decide), hother (hne '"' (by decide)) (hne '[' (by decide))⟩
    simp only [isBlankPiece, hne ' ' (by decide), hne '\n' (by decide), hne '\t' (by decide),
      hne '\r' (by decide), decide_false, Bool.or_false]
  | @string _ s hstring =>
    obtain ⟨body, rfl, hbody⟩ := hstring
    have hbracket : '"' ≠ '[' := by decide
    exact ⟨'"', body ++ ['"'], rfl, rfl, by decide, fun _ => ⟨s, body, rfl, hbody⟩,
      fun h => absurd h hbracket⟩
  | @array _ texts harray hitems =>
    obtain ⟨parts, rfl, hparts⟩ := harray
    have hquote : '[' ≠ '"' := by decide
    exact ⟨'[', parts ++ [']'], rfl, rfl, by decide, fun h => absurd h hquote,
      fun _ => ⟨texts, ⟨parts, rfl, hparts⟩, hitems⟩⟩
  | object hobject _ =>
    obtain ⟨parts, rfl, -⟩ := hobject
    exact ⟨'\x7b', parts ++ ['\x7d'], rfl, rfl, by decide, hother (by decide) (by decide)⟩

end Json
end QueryConsole
