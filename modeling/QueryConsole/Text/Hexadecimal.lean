/-
# Hexadecimal digits

The digits `0` to `9`, then the letters `a` to `f`, which are read in both cases and written in
upper case.
-/

namespace QueryConsole
namespace Text

/-- The value of a hexadecimal digit. -/
def hexDigit? (c : Char) : Option Nat :=
  if '0' ≤ c ∧ c ≤ '9' then some (c.toNat - 0x30)
  else if 'a' ≤ c ∧ c ≤ 'f' then some (c.toNat - 0x57)
  else if 'A' ≤ c ∧ c ≤ 'F' then some (c.toNat - 0x37)
  else none

/-- The digit of a number below 16. -/
def hexChar (n : Nat) : Char :=
  if n < 10 then Char.ofNat (0x30 + n) else Char.ofNat (0x37 + n)

/-- **Every digit that is written reads back.** -/
theorem hexDigit?_hexChar {n : Nat} (h : n < 16) : hexDigit? (hexChar n) = some n := by
  have all : ∀ m ∈ List.range 16, hexDigit? (hexChar m) = some m := by decide
  exact all n (List.mem_range.2 h)

end Text
end QueryConsole
