import MemoryTimeline.Screen.Cell

/-!
# Screens

A screen is a grid of cells. Everything outside the grid is ignored when drawing.
-/

namespace MemoryTimeline

/-- A rectangle of cells. -/
structure Area where
  x : Nat
  y : Nat
  width : Nat
  height : Nat
  deriving DecidableEq

namespace Area

/-- The first column to the right of the area. -/
def right (area : Area) : Nat := area.x + area.width

/-- The first row below the area. -/
def bottom (area : Area) : Nat := area.y + area.height

/-- Whether the area has no cells. -/
def isEmpty (area : Area) : Bool := area.width == 0 || area.height == 0

/-- The area less one cell on each side, empty if there is no room. -/
def inside (area : Area) : Area where
  x := min (area.x + 1) area.right
  y := min (area.y + 1) area.bottom
  width := area.width - 2
  height := area.height - 2

/-- A share of a length in percent, rounded to the nearest whole number. -/
def share (length percent : Nat) : Nat := (length * percent + 50) / 100

/-- Split an area into a left part of the given percentage and the rest. -/
def splitColumns (area : Area) (percent : Nat) : Area × Area :=
  let first := share area.width percent
  ({ area with width := first }, { area with x := area.x + first, width := area.width - first })

/-- Split an area into an upper part of the given height and the rest. -/
def splitRowsAt (area : Area) (first : Nat) : Area × Area :=
  ({ area with height := first }, { area with y := area.y + first, height := area.height - first })

/-- Split an area into an upper part of the given percentage and the rest. -/
def splitRows (area : Area) (percent : Nat) : Area × Area :=
  area.splitRowsAt (share area.height percent)

end Area

/-- A grid of cells, row by row. -/
structure Screen where
  width : Nat
  height : Nat
  cells : Array Cell

namespace Screen

/-- A screen of blank cells. -/
def blank (width height : Nat) : Screen where
  width := width
  height := height
  cells := Array.replicate (width * height) {}

/-- The whole screen. -/
def area (screen : Screen) : Area := ⟨0, 0, screen.width, screen.height⟩

/-- Change a cell, if it is on the screen. -/
def change (screen : Screen) (x y : Nat) (change : Cell → Cell) : Screen :=
  let ⟨width, height, cells⟩ := screen
  if x < width && y < height then ⟨width, height, cells.modify (y * width + x) change⟩
  else ⟨width, height, cells⟩

/-- Put a character into a cell and apply a style to it. -/
def put (screen : Screen) (x y : Nat) (symbol : Char) (style : Style) : Screen :=
  screen.change x y fun cell => { symbol, style := cell.style.patch style }

/-- Put the same character into cells. -/
def putAll (screen : Screen) (places : List (Nat × Nat)) (symbol : Char) (style : Style) :
    Screen :=
  places.foldl (fun screen (x, y) => screen.put x y symbol style) screen

/-- Apply a style to an area. -/
def applyStyle (screen : Screen) (area : Area) (style : Style) : Screen :=
  (List.range area.height).foldl
    (fun screen row => (List.range area.width).foldl
      (fun screen column => screen.change (area.x + column) (area.y + row) fun cell =>
        { cell with style := cell.style.patch style })
      screen)
    screen

/-- Write styled characters to the right of a cell. -/
def writeChars (screen : Screen) (x y : Nat) (characters : List (Char × Style)) : Screen :=
  characters.zipIdx.foldl
    (fun screen ((symbol, style), index) => screen.put (x + index) y symbol style)
    screen

/-- Write spans to the right of a cell, cut to a number of cells. -/
def writeSpans (screen : Screen) (x y limit : Nat) (spans : List Span) : Screen :=
  screen.writeChars x y ((Span.styledChars spans).take limit)

/-- The rows of the screen. -/
def rows (screen : Screen) : List (List Cell) :=
  (List.range screen.height).map fun row =>
    (screen.cells.extract (row * screen.width) ((row + 1) * screen.width)).toList

end Screen

end MemoryTimeline
