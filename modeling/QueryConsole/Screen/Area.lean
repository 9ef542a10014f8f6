/-
# Areas

A rectangle of cells, and how it is split: at a percentage, or at a length that gives way where
there is too little room for the rest.
-/

namespace QueryConsole

/-- A rectangle of cells. -/
structure Area where
  left : Nat
  top : Nat
  width : Nat
  height : Nat
  deriving DecidableEq, Repr

namespace Area

/-- The first column to the right of an area. -/
def right (a : Area) : Nat := a.left + a.width

/-- The first row below an area. -/
def bottom (a : Area) : Nat := a.top + a.height

/-- Whether an area has no cells. -/
def isEmpty (a : Area) : Bool := a.width = 0 || a.height = 0

/-- Whether a cell lies in an area. -/
def contains (a : Area) (x y : Nat) : Bool :=
  a.left ≤ x && x < a.right && a.top ≤ y && y < a.bottom

/-- The area inside a border. -/
def inner (a : Area) : Area :=
  ⟨min (a.left + 1) a.right, min (a.top + 1) a.bottom, a.width - 2, a.height - 2⟩

/-- One row of an area, the first with index 0. -/
def row (a : Area) (index : Nat) : Area := ⟨a.left, a.top + index, a.width, 1⟩

/-- The first columns of an area, and the others. -/
def splitLeft (a : Area) (width : Nat) : Area × Area :=
  ({ a with width }, { a with left := a.left + width, width := a.width - width })

/-- The first rows of an area, and the others. -/
def splitTop (a : Area) (height : Nat) : Area × Area :=
  ({ a with height }, { a with top := a.top + height, height := a.height - height })

end Area

/-! ## Shares of a length -/

namespace Share

/-- The quotient rounded to the nearest number, a half up. -/
def nearest (n d : Nat) : Nat := (2 * n + d) / (2 * d)

/-- A percentage of a total. -/
def percent (total percentage : Nat) : Nat := nearest (total * percentage) 100

/-- A length in a total; it gives way where the rest would have less than its least. -/
def giveWay (total length least : Nat) : Nat := min length (total - least)

/-- The length of the first of two sides of a middle that has at least `least`; where the sides have
too little room, the first gives way until it is as long as the middle, then the last, and then the
first again. -/
def firstSide (total first least last : Nat) : Nat :=
  let room := total - least
  if first + last ≤ room then first else max (room - last) (min (min first room) least)

/-- The length of the last of two sides of a middle. -/
def lastSide (total first least last : Nat) : Nat :=
  let room := total - least
  if first + last ≤ room then last else room - firstSide total first least last

end Share
end QueryConsole
