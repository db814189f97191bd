/-!
# Cells

A screen is made of cells, each with a character and a style. A style is applied on
top of another: it sets the colors that it has and can add bold, but takes nothing
away.
-/

namespace MemoryTimeline

/-- A color of a terminal. -/
inductive Color where
  | black
  /-- Red, green and blue, eight bits each. -/
  | rgb (code : Nat)
  deriving DecidableEq

/-- Colors and weight; a color that is missing is left as it was. -/
structure Style where
  foreground : Option Color := none
  background : Option Color := none
  bold : Bool := false
  deriving DecidableEq

namespace Style

/-- A style that sets nothing. -/
def plain : Style where

/-- A style that sets the foreground. -/
def ofForeground (color : Color) : Style where
  foreground := some color

/-- Apply a style on top of another. -/
def patch (base top : Style) : Style where
  foreground := top.foreground.or base.foreground
  background := top.background.or base.background
  bold := base.bold || top.bold

end Style

/-- A character with its style. -/
structure Cell where
  symbol : Char := ' '
  style : Style := {}

/-- A text in one style. -/
structure Span where
  text : String
  style : Style := {}

/-- The characters of some spans with their styles. -/
def Span.styledChars (spans : List Span) : List (Char × Style) :=
  spans.flatMap fun span => span.text.toList.map fun character => (character, span.style)

end MemoryTimeline
