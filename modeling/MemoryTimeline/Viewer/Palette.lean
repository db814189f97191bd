import MemoryTimeline.Scene.Drawing
import MemoryTimeline.Screen.Block

/-!
# Colors of the viewer
-/

namespace MemoryTimeline.Viewer.Palette

/-- Ordinary text. -/
def foreground : Color := .rgb 0xcdd6f4

/-- The step indicator. -/
def primary : Color := .rgb 0x89b4fa

/-- Marks of the current step and of playback. -/
def secondary : Color := .rgb 0xfab387

/-- Text of less weight. -/
def comment : Color := .rgb 0x6c7086

/-- The badge at the start. -/
def success : Color := .rgb 0xa6e3a1

/-- The badge at the end. -/
def error : Color := .rgb 0xf38ba8

/-- The frame of the pane that has the focus. -/
def borderFocused : Color := .rgb 0xf9e2af

/-- The frames of other panes. -/
def borderNormal : Color := .rgb 0x6c7086

/-- The background of the current line and of the status bar. -/
def currentLine : Color := .rgb 0x323246

/-- Names of scopes. -/
def function : Color := .rgb 0xf9e2af

/-- Kinds of records. -/
def typeName : Color := .rgb 0x94e2d5

/-- Scalars. -/
def scalar : Color := .rgb 0xfab387

/-- Pointers. -/
def pointer : Color := .rgb 0x89dceb

/-- Parameters. -/
def parameter : Color := .rgb 0xa6e3a1

/-- Arrays. -/
def array : Color := .rgb 0xf5e0dc

/-- Allocated entities. -/
def heapBlock : Color := .rgb 0xa6e3a1

/-- Objects in automatic storage. -/
def object : Color := .rgb 0xb4befe

/-- Arrows. -/
def arrow : Color := .rgb 0x89b4fa

/-- The color of an ink. -/
def ofInk : Scene.Ink → Color
  | .divider => comment
  | .sectionTitle => function
  | .scalar => scalar
  | .pointer => pointer
  | .parameter => parameter
  | .array => array
  | .heapBlock => heapBlock
  | .object => object
  | .heapObject => heapBlock
  | .field => scalar
  | .pointerField => pointer
  | .arrow => arrow
  | .label => foreground
  | .muted => comment

/-- The frame of a pane, which shows whether the pane has the focus. -/
def paneBlock (title : String) (focused : Bool) : Block where
  title := { text := title }
  border :=
    if focused then { foreground := some borderFocused, bold := true }
    else .ofForeground borderNormal

end MemoryTimeline.Viewer.Palette
