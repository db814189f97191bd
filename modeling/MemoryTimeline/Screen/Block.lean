import MemoryTimeline.Screen.Basic

/-!
# Blocks, paragraphs and lists

A block is a frame of lines around an area with a title in its upper edge. A
paragraph is written from the top of an area, a list has one row per item; what
does not fit is cut off.
-/

namespace MemoryTimeline

/-- A frame with a title. -/
structure Block where
  title : Span
  border : Style

namespace Screen

/-- The cells of a row of an area. -/
def rowCells (area : Area) (y : Nat) : List (Nat × Nat) :=
  (List.range area.width).map fun column => (area.x + column, y)

/-- The cells of a column of an area. -/
def columnCells (area : Area) (x : Nat) : List (Nat × Nat) :=
  (List.range area.height).map fun row => (x, area.y + row)

/-- Draw a block along the edge of an area. Where edges meet, what is drawn later
stays. -/
def drawBlock (screen : Screen) (area : Area) (block : Block) : Screen :=
  if area.isEmpty then screen
  else
    let right := area.right - 1
    let bottom := area.bottom - 1
    let style := block.border
    let screen := screen.putAll (columnCells area area.x) '│' style
    let screen := screen.putAll (rowCells area area.y) '─' style
    let screen := screen.putAll (columnCells area right) '│' style
    let screen := screen.putAll (rowCells area bottom) '─' style
    let screen := screen.put right bottom '┘' style
    let screen := screen.put right area.y '┐' style
    let screen := screen.put area.x bottom '└' style
    let screen := screen.put area.x area.y '┌' style
    let title := { block.title with style := style.patch block.title.style }
    screen.writeSpans (area.x + 1) area.y (area.width - 2) [title]

/-- Write lines from the top of an area. -/
def writeLines (screen : Screen) (area : Area) (lines : List (List Span)) : Screen :=
  (lines.take area.height).zipIdx.foldl
    (fun screen (spans, row) => screen.writeSpans area.x (area.y + row) area.width spans)
    screen

/-- Draw a block with lines inside it. The style of the lines is applied to the whole
area first, edges included. -/
def drawParagraph (screen : Screen) (area : Area) (block : Block) (style : Style)
    (lines : List (List Span)) : Screen :=
  ((screen.applyStyle area style).drawBlock area block).writeLines area.inside
    lines

/-- Write a single line that ends at the right edge of an area, unless it is longer
than the area. -/
def writeRightAligned (screen : Screen) (area : Area) (spans : List Span) : Screen :=
  let length := (Span.styledChars spans).length
  if area.height = 0 then screen
  else screen.writeSpans (area.x + (area.width - length)) area.y area.width spans

/-- An item of a list: its spans, and a style for its whole row. -/
structure ListItem where
  spans : List Span
  style : Style := {}

/-- Draw a block with one item per row inside it. -/
def drawList (screen : Screen) (area : Area) (block : Block) (items : List ListItem) : Screen :=
  let inside := area.inside
  (items.take inside.height).zipIdx.foldl
    (fun screen (item, row) =>
      let line : Area := { inside with y := inside.y + row, height := 1 }
      (screen.applyStyle line item.style).writeSpans line.x line.y line.width item.spans)
    (screen.drawBlock area block)

end Screen

end MemoryTimeline
