import MemoryTimeline.Decimal.Style
import MemoryTimeline.Recorder.Naming
import MemoryTimeline.Scene.Metrics
import MemoryTimeline.Toml.Reader

/-!
# Settings

Settings come from a TOML document with up to three sections: `layout` holds the
measures of a scene, `timeline` says how blocks are named, and `playback` holds the time
between two steps. What is not given keeps its default, and what is not known is passed
over. Only files are checked for refused measures when they are read.
-/

namespace MemoryTimeline

/-- Everything that can be set. -/
structure Settings where
  metrics : Scene.Metrics
  naming : ScopeNaming
  /-- The time between two steps of a playback, in milliseconds. -/
  intervalMs : Nat

/-- Why settings are refused. -/
inductive SettingsError where
  /-- The file cannot be read as text. -/
  | unreadable
  /-- The text is no TOML document, or a value in it has a wrong type. -/
  | malformed
  /-- A measure is not finite, negative or too large. -/
  | invalidMetric (metric : Scene.Metrics.Field) (value : Float)

namespace SettingsError

/-- Measures in messages are written without an exponent and without a needless point. -/
def measureStyle : Decimal.Style where
  positional _ := true
  pointZero := false
  tie := .away

/-- The message of an error that has one of its own. -/
def message? : SettingsError → Option String
  | .invalidMetric metric value =>
    some ("invalid layout." ++ metric.name ++ ": " ++ measureStyle.write (Binary64.ofFloat value))
  | _ => none

end SettingsError

/-- A section of settings: entries by name, or values in the order of the names. -/
inductive Section where
  | named (entries : List (String × Toml))
  | ordered (values : List Toml)

namespace Section

/-- The section that a value holds. A date holds one without entries. -/
def ofToml? : Toml → Option Section
  | .table entries => some (.named entries)
  | .arr values => some (.ordered values)
  | .datetime => some (.named [])
  | _ => none

/-- The value of a name, which has a position among the names of its section. -/
def get? (content : Section) (name : String) (position : Nat) : Option Toml :=
  match content with
  | .named entries => entries.lookup name
  | .ordered values => values[position]?

/-- Read an entry if it is there. An entry of a wrong type fails. -/
def readOr {Value : Type} (content : Section) (name : String) (position : Nat)
    (ofToml? : Toml → Option Value) (otherwise : Value) : Option Value :=
  match content.get? name position with
  | none => some otherwise
  | some value => ofToml? value

end Section

namespace Settings

/-- The settings used unless others are given. -/
def default : Settings where
  metrics := Scene.Metrics.default
  naming := .shared
  intervalMs := 500

/-- The measure that a number writes. -/
def measure? : Toml → Option Float
  | .int number => some (Binary64.ofRatio (number < 0) number.natAbs 1).toFloat
  | .real number => some number.toFloat
  | _ => none

/-- The measures of a section. -/
def metricsOf? (content : Section) : Option Scene.Metrics :=
  Scene.Metrics.fields.zipIdx.foldlM
    (fun metrics (metric, position) =>
      (content.readOr metric.name position measure? (metric.get metrics)).map (metric.set metrics))
    default.metrics

/-- The way of naming blocks that has a name. -/
def namingOfName? : String → Option ScopeNaming
  | "shared" => some .shared
  | "unique" => some .unique
  | _ => none

/-- Whether a value is a table or an array without content. -/
def isEmptyContainer : Toml → Bool
  | .table [] => true
  | .arr [] => true
  | _ => false

/-- The way of naming blocks that a value writes: its name, or a table whose one key is
its name and whose value is empty. -/
def naming? : Toml → Option ScopeNaming
  | .str name => namingOfName? name
  | .table [(name, value)] => if isEmptyContainer value then namingOfName? name else none
  | _ => none

/-- The time that a value writes. -/
def interval? : Toml → Option Nat
  | .int number => if 0 ≤ number then some number.toNat else none
  | _ => none

/-- The settings of a document's root table. -/
def ofToml? (root : List (String × Toml)) : Option Settings := do
  let sectionAt := fun name => (Section.named root).readOr name 0 Section.ofToml? (.named [])
  let metrics ← metricsOf? (← sectionAt "layout")
  let naming ← (← sectionAt "timeline").readOr "scope_naming" 0 naming? default.naming
  let intervalMs ← (← sectionAt "playback").readOr "interval_ms" 0 interval? default.intervalMs
  return { metrics, naming, intervalMs }

/-- Read settings from a text, without checking the measures. -/
def ofText (text : String) : Except SettingsError Settings :=
  match (Toml.read? text).bind ofToml? with
  | some settings => .ok settings
  | none => .error .malformed

/-- Refuse settings with a measure that is refused. -/
def check (settings : Settings) : Except SettingsError Unit :=
  match settings.metrics.invalid? with
  | some (metric, value) => .error (.invalidMetric metric value)
  | none => .ok ()

/-- Read settings from the bytes of a file, if the file exists, and check them. -/
def ofBytes (bytes : Option ByteArray) : Except SettingsError Settings := do
  match bytes.bind String.fromUTF8? with
  | none => .error .unreadable
  | some text =>
    let settings ← ofText text
    settings.check
    return settings

end Settings

end MemoryTimeline
