import MemoryTimeline.Viewer.Palette

/-!
# The status bar

The left half shows the step, the last event and the last message; the right half
shows the keys and, at its end, a badge.
-/

namespace MemoryTimeline.Viewer

/-- What the status bar shows. -/
structure Status where
  indicator : String
  description : String
  message : String
  isAtStart : Bool
  isAtEnd : Bool
  isPlaying : Bool

namespace StatusBar

/-- The background of the bar. -/
def barStyle : Style := { background := some Palette.currentLine }

/-- Text on the bar in a color. -/
def onBar (color : Color) : Style := { barStyle with foreground := some color }

/-- Black text on a color. -/
def highlight (color : Color) (bold : Bool) : Style where
  foreground := some .black
  background := some color
  bold := bold

/-- The left half. -/
def leftSpans (status : Status) : List Span :=
  let separator : Span := { text := " | ", style := onBar Palette.comment }
  let part := fun (text : String) (style : Style) => ({ text := " " ++ text ++ " ", style } : Span)
  [part status.indicator (highlight Palette.primary true), separator,
    part status.description (onBar Palette.typeName), separator,
    part status.message (onBar Palette.foreground)]

/-- The keys and what they do. -/
def keys : List (String × String) :=
  [(" ←/→ ", " step "), (" 1-9 ", " jump "), (" ⎵ ", " play "), (" ↵ / ⌫ ", " end/start "),
    ("q", " quit ")]

/-- The line between two groups. -/
def groupLine : Span := { text := "│", style := onBar Palette.comment }

/-- The spans of a key. -/
def keySpans (key : String × String) : List Span :=
  [{ text := key.1, style := highlight Palette.comment false },
    { text := key.2, style := onBar Palette.foreground }]

/-- The spans of all keys, with lines between them. -/
def allKeySpans : List Span :=
  [groupLine, { text := " ", style := onBar Palette.foreground }].intercalate (keys.map keySpans)

/-- The badge: playback first, then the end, then the start. -/
def badge? (status : Status) : Option Span :=
  if status.isPlaying then
    some { text := " ▶ PLAYING ", style := highlight Palette.secondary true }
  else if status.isAtEnd then some { text := " END ", style := highlight Palette.error true }
  else if status.isAtStart then some { text := " START ", style := highlight Palette.success true }
  else none

/-- The right half. -/
def rightSpans (status : Status) : List Span :=
  allKeySpans ++
    match badge? status with
    | some badge => [groupLine, badge]
    | none => []

/-- Draw the bar. -/
def draw (status : Status) (area : Area) (screen : Screen) : Screen :=
  let (left, right) := area.splitColumns 50
  let screen := (screen.applyStyle left barStyle).writeLines left [leftSpans status]
  (screen.applyStyle right barStyle).writeRightAligned right (rightSpans status)

end StatusBar

end MemoryTimeline.Viewer
