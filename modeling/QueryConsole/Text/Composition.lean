/-
# Composition

A character with a mark, such as `é`, is written as one character or as a letter and a mark.  In a
composed text the marks of a letter stand in the order of their classes, and what can be one
character is one.  To compose a text, every character is taken apart, the marks are put in order,
and each letter takes up the marks behind it; a mark that is not taken up blocks the marks behind it
whose class is not higher.
-/

import QueryConsole.Text.Composition.Table

namespace QueryConsole
namespace Composition

/-- The combining class of a character: 0 for all that are no marks. -/
def markClass (c : Char) : Nat :=
  if c.toNat < 0x300 then 0
  else
    match markClasses.find? fun (first, last, _) => first ≤ c.toNat && c.toNat ≤ last with
    | some (_, _, value) => value
    | none => 0

/-- The Korean syllable of two code points: a consonant and a vowel, or an open syllable and a
consonant. -/
def syllable? (a b : Nat) : Option Nat :=
  if 0x1100 ≤ a ∧ a < 0x1113 ∧ 0x1161 ≤ b ∧ b < 0x1176 then
    some (0xAC00 + ((a - 0x1100) * 21 + (b - 0x1161)) * 28)
  else if 0xAC00 ≤ a ∧ a < 0xD7A4 ∧ (a - 0xAC00) % 28 = 0 ∧ 0x11A7 < b ∧ b < 0x11C3 then
    some (a + (b - 0x11A7))
  else none

/-- The character that is composed of two. -/
def pair? (a b : Char) : Option Char :=
  match syllable? a.toNat b.toNat with
  | some n => some (Char.ofNat n)
  | none =>
    if b.toNat < 0x300 then none
    else
      (composites.find? fun (first, second, _) => first == a.toNat && second == b.toNat).map
        fun (_, _, n) => Char.ofNat n

/-- The parts of a Korean syllable. -/
def letters (n : Nat) : List Char :=
  let index := n - 0xAC00
  let front := [Char.ofNat (0x1100 + index / 588), Char.ofNat (0x1161 + index % 588 / 28)]
  if index % 28 = 0 then front else front ++ [Char.ofNat (0x11A7 + index % 28)]

/-- The parts of a character, of which at most `depth` are taken apart one within the other. -/
def parts : Nat → Char → List Char
  | 0, c => [c]
  | depth + 1, c =>
    if c.toNat < 0xC0 then [c]
    else if 0xAC00 ≤ c.toNat ∧ c.toNat < 0xD7A4 then letters c.toNat
    else
      match composites.find? fun (_, _, n) => n == c.toNat with
      | some (first, second, _) => parts depth (Char.ofNat first) ++ [Char.ofNat second]
      | none => [c]

/-- The characters in front of a text in order: a mark moves behind marks of lower classes. -/
def insertMark (c : Char) : List Char → List Char
  | [] => [c]
  | d :: cs =>
    if 0 < markClass d ∧ markClass d < markClass c then d :: insertMark c cs else c :: d :: cs

/-- A text with the marks of each letter in the order of their classes. -/
def ordered (cs : List Char) : List Char := cs.foldr insertMark []

theorem insertMark_perm (c : Char) (cs : List Char) : (insertMark c cs).Perm (c :: cs) := by
  induction cs with
  | nil => exact .refl _
  | cons d cs ih =>
    unfold insertMark
    split
    · exact (ih.cons d).trans (.swap c d cs)
    · exact .refl _

/-- **Ordering moves marks and loses none.** -/
theorem ordered_perm (cs : List Char) : (ordered cs).Perm cs := by
  induction cs with
  | nil => exact .refl _
  | cons c cs ih => exact (insertMark_perm c _).trans (ih.cons c)

/-- A letter, the marks behind it that are not taken up, from the last one, and the text behind
them, composed. -/
def take (letter : Char) (marks : List Char) : List Char → List Char
  | [] => letter :: marks.reverse
  | c :: cs =>
    let isFree := match marks with
      | [] => true
      | mark :: _ => markClass mark < markClass c
    match if isFree then pair? letter c else none with
    | some composed => take composed marks cs
    | none =>
      if markClass c = 0 then letter :: marks.reverse ++ take c [] cs
      else take letter (c :: marks) cs

/-- The composed form of a text whose characters are taken apart and in order. -/
def joined (cs : List Char) : List Char :=
  let isMark (c : Char) : Bool := 0 < markClass c
  cs.takeWhile isMark ++
    match cs.dropWhile isMark with
    | [] => []
    | letter :: rest => take letter [] rest

/-- The composed form of a text.  No character is composed of more than four. -/
def compose (cs : List Char) : List Char :=
  if cs.all fun c => c.toNat < 0x300 then cs else joined (ordered (cs.flatMap (parts 3)))

end Composition
end QueryConsole
