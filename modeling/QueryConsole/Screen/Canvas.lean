/-
# The canvas

A rectangle of cells, each with a symbol and a style.  A symbol of two columns reaches over the cell
to its right, which stays a cell of its own.

| operation | what it does |
| --- | --- |
| `put` | writes a symbol, its style over that of the cell |
| `paint` | lays a style over an area |
| `clear` | makes an area blank |
-/

import QueryConsole.Screen.Area
import QueryConsole.Screen.Style
import QueryConsole.Text.Blank

namespace QueryConsole

/-- A cell of the screen. -/
structure ScreenCell where
  symbol : List Char
  style : Style
  deriving DecidableEq, Repr

/-- A cell without anything in it. -/
def ScreenCell.blank : ScreenCell := ⟨[' '], .plain⟩

/-- Rows of cells. -/
structure Canvas where
  width : Nat
  height : Nat
  cells : Array ScreenCell
  size_eq : cells.size = width * height

namespace Canvas

/-- A canvas without anything on it. -/
def blank (width height : Nat) : Canvas :=
  ⟨width, height, Array.replicate (width * height) .blank, by simp⟩

/-- The canvas with one cell changed; nothing changes outside. -/
def modify (c : Canvas) (x y : Nat) (f : ScreenCell → ScreenCell) : Canvas :=
  if x < c.width then
    { c with cells := c.cells.modify (y * c.width + x) f, size_eq := by simp [c.size_eq] }
  else c

/-- Writes a symbol. -/
def put (c : Canvas) (x y : Nat) (symbol : List Char) (style : Style) : Canvas :=
  c.modify x y fun cell => ⟨symbol, style.onto cell.style⟩

/-- Changes cells of one row, from a column on. -/
def modifyRun (f : ScreenCell → ScreenCell) (y : Nat) : Nat → Nat → Canvas → Canvas
  | _, 0, c => c
  | x, n + 1, c => modifyRun f y (x + 1) n (c.modify x y f)

/-- Changes the cells of rows, from a row on. -/
def modifyRows (f : ScreenCell → ScreenCell) (x width : Nat) : Nat → Nat → Canvas → Canvas
  | _, 0, c => c
  | y, n + 1, c => modifyRows f x width (y + 1) n (modifyRun f y x width c)

/-- Lays a style over an area. -/
def paint (c : Canvas) (a : Area) (style : Style) : Canvas :=
  modifyRows (fun cell => { cell with style := style.onto cell.style }) a.left a.width a.top a.height
    c

/-- Makes an area blank. -/
def clear (c : Canvas) (a : Area) : Canvas :=
  modifyRows (fun _ => .blank) a.left a.width a.top a.height c

/-- The cells of a row. -/
def row (c : Canvas) (y : Nat) : List ScreenCell :=
  (c.cells.extract (y * c.width) ((y + 1) * c.width)).toList

/-- The text of a row, without the spaces at its end. -/
def rowText (cells : List ScreenCell) : String :=
  String.ofList (Text.dropEndWhile (· = ' ') (cells.flatMap (·.symbol)))

/-- The places where the style changes in a row that starts in a column, each with the new style. -/
def styleRuns (x : Nat) (last : Option Style) : List ScreenCell → List (Nat × Style)
  | [] => []
  | cell :: cells =>
    if last = some cell.style then styleRuns (x + 1) last cells
    else (x, cell.style) :: styleRuns (x + 1) (some cell.style) cells

end Canvas
end QueryConsole
