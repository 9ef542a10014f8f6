/-
# Display width

The number of screen columns of a character and of a text.  A character alone takes 0, 1 or 2
columns (U+17D8 takes 3).  In a text some characters change width with their neighbours, so a text
is measured from its end and each character is told what starts to its right:

| what is measured together | columns |
| --- | ---: |
| a line feed, carriage return and line feed | 0 |
| any other control character | 1 |
| a character and U+FE0F that make an emoji, `1` U+FE0F U+20E3 | 2 |
| an emoji and U+FE0E that make a text symbol | 1 |
| an emoji and its skin tone, emoji tied by U+200D, a flag of tags | 2 |
| two regional indicators | 2 |
| Arabic lam and alef, and like ligatures of other scripts | 1 |
-/

import QueryConsole.Text.Width.Table

namespace QueryConsole
namespace Width

/-- The columns of a character above U+00A0 that stands alone. -/
def ofWideChar (c : Char) : Nat :=
  if c.toNat = 0x17D8 then 3
  else if zeroWidth.contains c then 0
  else if doubleWidth.contains c then 2
  else 1

/-- The columns of a single character; a control character takes none. -/
def ofChar (c : Char) : Nat :=
  if c.toNat < 0x20 then 0
  else if c.toNat < 0x7F then 1
  else if c.toNat < 0xA0 then 0
  else if c.toNat = 0xA0 then 1
  else ofWideChar c

/-- What starts to the right of a character and may join it.  A `joined` group has U+200D in
front; `tags` counts what stands before the end of a flag of tags. -/
inductive Group where
  | none
  | lineFeed
  | modifier
  | regional
  | regionals
  | emoji
  | joinedEmoji
  | joinedKeycap
  | joinedRegional
  | joinedRegionalPair
  | joinedRegionalOdd
  | joinedTagEnd
  | joinedTagLetters (count : Nat)
  | joinedTagDigits (count : Nat)
  | alef
  | lamed
  | khmerLetter
  | bugineseYa
  | bugineseVowelYa
  | tifinagh
  | tifinaghJoined
  | lisuTone
  | orkhonI
  deriving DecidableEq

namespace Group

/-- Groups that variation selectors and joiners in front of them leave in place. -/
def isLigature : Group → Bool
  | alef | lamed | khmerLetter | bugineseYa | bugineseVowelYa | tifinagh | tifinaghJoined
  | lisuTone | orkhonI => true
  | _ => false

/-- Groups of emoji tied by a joiner that U+FE0F in front leaves in place. -/
def isJoinedEmoji : Group → Bool
  | joinedEmoji | joinedKeycap => true
  | _ => false

end Group

/-- A variation selector that stands directly to the right. -/
inductive Selector where
  | none
  | emoji
  | text
  deriving DecidableEq

/-- What a character finds to its right: a group, perhaps behind a joiner (`tied`), perhaps behind
a variation selector. -/
structure Right where
  group : Group
  tied : Bool
  selector : Selector
  deriving DecidableEq

namespace Right

/-- Nothing that joins. -/
def plain : Right := ⟨.none, false, .none⟩

/-- A group directly to the right. -/
def start (g : Group) : Right := ⟨g, false, .none⟩

/-- U+FE0F in front. -/
def selectEmoji (r : Right) : Right :=
  if r.group.isLigature || (r.group.isJoinedEmoji && r.selector != .emoji) then
    { r with selector := .emoji }
  else ⟨.none, false, .emoji⟩

/-- U+FE0E in front. -/
def selectText (r : Right) : Right :=
  if r.group.isLigature then { r with selector := .text } else ⟨.none, false, .text⟩

/-- The selector taken away again, when it did not change the character before it. -/
def unselect (r : Right) : Right :=
  if r.group.isLigature then { r with selector := .none } else plain

/-- U+200D in front of a ligature's second part. -/
def tie (r : Right) : Right :=
  if r.group.isLigature then { r with tied := true } else plain

end Right

/-- A character with a code point between two others. -/
def between (low : Nat) (c : Char) (high : Nat) : Bool := low ≤ c.toNat && c.toNat ≤ high

/-- A regional indicator. -/
def isRegional (c : Char) : Bool := between 0x1F1E6 c 0x1F1FF

/-- A skin tone modifier. -/
def isModifier (c : Char) : Bool := between 0x1F3FB c 0x1F3FF

/-- Invisible characters that do not separate the parts of a ligature. -/
def isTransparent (c : Char) : Bool :=
  c.toNat = 0x034F || between 0x17B4 c 0x17B5 || between 0x180B c 0x180D || c.toNat = 0x180F ||
    c.toNat = 0x200D || between 0xFE00 c 0xFE0F || between 0xE0100 c 0xE01EF

/-- Arabic letters of the joining group of lam. -/
def isLam (c : Char) : Bool :=
  c.toNat = 0x0644 || between 0x06B5 c 0x06B8 || c.toNat = 0x076A || c.toNat = 0x08A6 ||
    c.toNat = 0x08C7

/-- Arabic letters of the joining group of alef. -/
def isAlef (c : Char) : Bool :=
  between 0x0622 c 0x0623 || c.toNat = 0x0625 || c.toNat = 0x0627 || between 0x0671 c 0x0673 ||
    c.toNat = 0x0675 || between 0x0773 c 0x0774 || between 0x0870 c 0x0882

/-- Khmer letters that a coeng sign writes below the line. -/
def isKhmerLetter (c : Char) : Bool :=
  between 0x1780 c 0x1782 || between 0x1784 c 0x1787 || between 0x1789 c 0x178C ||
    between 0x178E c 0x1793 || between 0x1795 c 0x1798 || between 0x179B c 0x179D ||
    c.toNat = 0x17A0 || c.toNat = 0x17A2 || c.toNat = 0x17A7 || between 0x17AB c 0x17AC ||
    c.toNat = 0x17AF

/-- Tifinagh consonants that combine in pairs. -/
def isTifinagh (c : Char) : Bool := between 0x2D31 c 0x2D65 || c.toNat = 0x2D6F

/-- What the character starts for the one on its left. -/
def groupOf (c : Char) : Group :=
  if isRegional c then .regional
  else if isModifier c then .modifier
  else if emojiPresentation.contains c then .emoji
  else if isAlef c then .alef
  else if c.toNat = 0x05DC then .lamed
  else if isKhmerLetter c then .khmerLetter
  else if c.toNat = 0x1A10 then .bugineseYa
  else if isTifinagh c then .tifinagh
  else if between 0xA4FC c 0xA4FD then .lisuTone
  else if c.toNat = 0x10C03 then .orkhonI
  else .none

/-- The columns of the character alone, and what it starts. -/
def alone (c : Char) : Int × Right :=
  if c.toNat = 0xFE0F then (0, ⟨.none, false, .emoji⟩)
  else if c.toNat = 0xFE0E then (0, ⟨.none, false, .text⟩)
  else (ofWideChar c, .start (groupOf c))

/-- The columns that a character adds in front of a ligature's second part, if it joins it. -/
def ligature? (c : Char) (r : Right) : Option (Int × Right) :=
  match r.group, r.tied with
  | .alef, false =>
    if isLam c then some (0, .plain)
    else if zeroWidth.contains c && !joiningBarrier.contains c then some (0, r)
    else none
  | .lamed, true => if c.toNat = 0x05D0 then some (0, .plain) else none
  | .khmerLetter, _ => if c.toNat = 0x17D2 then some (-1, .plain) else none
  | .bugineseYa, true => if c.toNat = 0x1A17 then some (0, .start .bugineseVowelYa) else none
  | .bugineseVowelYa, _ => if c.toNat = 0x1A15 then some (0, .plain) else none
  | .tifinagh, tied =>
    if c.toNat = 0x2D7F then some (1, .start .tifinaghJoined)
    else if tied && isTifinagh c then some (0, .plain)
    else none
  | .tifinaghJoined, _ => if isTifinagh c then some (-1, .plain) else none
  | .lisuTone, _ => if between 0xA4F8 c 0xA4FB then some (0, .plain) else none
  | .orkhonI, true => if c.toNat = 0x10C32 then some (0, .plain) else none
  | _, _ => none

/-- The columns that a character adds in front of an emoji, a flag or a tied sequence, if it joins
it. -/
def emoji? (c : Char) (r : Right) : Option (Int × Right) :=
  let tagLetter := between 0xE0061 c 0xE007A
  let tagDigit := between 0xE0030 c 0xE0039
  let flag := c.toNat = 0x1F3F4
  let joiner := c.toNat = 0x200D
  match r.group with
  | .modifier =>
    if modifierBase.contains c then some (0, .start .emoji)
    else if joiner then some (0, .start .joinedEmoji)
    else none
  | .regional => if isRegional c then some (1, .start .regionals) else none
  | .regionals =>
    if isRegional c then some (1, .start .regionals)
    else if joiner then some (0, .start .joinedEmoji)
    else none
  | .emoji => if joiner then some (0, .start .joinedEmoji) else none
  | .joinedEmoji =>
    if c.toNat = 0x20E3 then some (0, .start .joinedKeycap)
    else if isRegional c then some (1, .start .joinedRegional)
    else if isModifier c then some (0, .start .modifier)
    else if c.toNat = 0xE007F then some (0, .start .joinedTagEnd)
    else if emojiPresentation.contains c then some (0, .start .emoji)
    else none
  | .joinedRegional | .joinedRegionalOdd =>
    if isRegional c then some (-1, .start .joinedRegionalPair)
    else if joiner && r.group = .joinedRegionalOdd then some (0, .start .joinedEmoji)
    else none
  | .joinedRegionalPair =>
    if isRegional c then some (3, .start .joinedRegionalOdd)
    else if joiner then some (0, .start .joinedEmoji)
    else none
  | .joinedTagEnd =>
    if tagLetter then some (0, .start (.joinedTagLetters 1))
    else if tagDigit then some (0, .start (.joinedTagDigits 1))
    else none
  | .joinedTagLetters n =>
    if tagLetter && n < 6 then some (0, .start (.joinedTagLetters (n + 1)))
    else if tagDigit && n < 5 then some (0, .start (.joinedTagDigits 1))
    else if flag && 3 ≤ n then some (0, .start .emoji)
    else none
  | .joinedTagDigits n =>
    if tagDigit && n < 3 then some (0, .start (.joinedTagDigits (n + 1)))
    else if flag && n = 3 then some (0, .start .emoji)
    else none
  | _ => none

/-- The columns of a character above U+00A0 in front of something that may join it. -/
def inText (c : Char) (r : Right) : Int × Right :=
  if r = .plain then alone c
  else if c.toNat = 0xFE0F then (0, r.selectEmoji)
  else if c.toNat = 0xFE0E then (0, r.selectText)
  else if r.selector = .text && textVariation.contains c then (1, .plain)
  else
    let r := if r.selector = .text then r.unselect else r
    if r.group.isLigature && c.toNat = 0x200D then (0, r.tie)
    else if r.group.isLigature && isTransparent c then (0, r)
    else ((ligature? c r).orElse fun _ => emoji? c r).getD (alone c)

/-- The columns that a character adds in front of what stands to its right, and what the two of
them start for the character before. -/
def step (c : Char) (r : Right) : Int × Right :=
  if r.selector = .emoji && emojiVariation.contains c then
    (if r.group.isJoinedEmoji then 0 else 2, .start .emoji)
  else
    let r := if r.selector = .emoji then r.unselect else r
    if c = '\n' then (0, .start .lineFeed)
    else if c = '\r' && r = .start .lineFeed then (0, .plain)
    else if c.toNat ≤ 0xA0 then (1, .plain)
    else inText c r

/-- The columns of a text, measured from its end, and what the text starts. -/
def measure (cs : List Char) : Int × Right :=
  cs.foldr (fun c (sum, right) =>
    let (columns, next) := step c right
    (sum + columns, next)) (0, .plain)

/-- The columns of a text. -/
def ofText (cs : List Char) : Nat :=
  (measure cs).1.toNat

end Width
end QueryConsole
