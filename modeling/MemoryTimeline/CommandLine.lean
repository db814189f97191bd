import MemoryTimeline.Program.Decoding
import MemoryTimeline.Recorder.Walk
import MemoryTimeline.Settings
import MemoryTimeline.Snapshot.Cursor
import MemoryTimeline.Timeline.Export

/-!
# The command line

`Request.ofArguments` reads arguments from left to right: the first fault, or the first
wish for help or the version, decides. Whether a document is named, and whether two
outputs were asked for, is looked at last. `Options.outcome` answers a request from the
bytes of the files that it names.
-/

namespace MemoryTimeline.CommandLine

/-! ## Arguments -/

/-- Why arguments are refused. -/
inductive Fault where
  | unknownOption (argument : String)
  | repeatedOption (name : String)
  | missingValue (name : String)
  | unexpectedValue (name : String)
  | invalidValue (name value : String)
  | surplusArgument (argument : String)
  | missingDocument
  | conflictingOutputs

/-- The message of a fault. -/
def Fault.message : Fault → String
  | .unknownOption argument => "unexpected argument '" ++ argument ++ "' found"
  | .repeatedOption name => "the argument '--" ++ name ++ "' cannot be used multiple times"
  | .missingValue name => "a value is required for '--" ++ name ++ "' but none was supplied"
  | .unexpectedValue name => "unexpected value for '--" ++ name ++ "' found; no more were expected"
  | .invalidValue name value => "invalid value '" ++ value ++ "' for '" ++ name ++ "'"
  | .surplusArgument argument => "unexpected argument '" ++ argument ++ "' found"
  | .missingDocument => "the following required arguments were not provided: <DOCUMENT>"
  | .conflictingOutputs => "the argument '--dump' cannot be used with '--json'"

/-- The arguments seen so far. -/
structure Arguments where
  document : Option String := none
  config : Option String := none
  step : Option Nat := none
  width : Option Float := none
  height : Option Float := none
  uniqueScopes : Bool := false
  dump : Bool := false
  json : Bool := false

/-- What is written to the output. -/
inductive Output where
  /-- The timeline and the state at a step, as text. -/
  | dump
  /-- The timeline as JSON. -/
  | json
  /-- Nothing; the timeline is shown on a terminal. -/
  | terminal
  deriving DecidableEq

/-- A well-formed request to show a document. -/
structure Options where
  document : String
  config : Option String
  step : Option Nat
  width : Option Float
  height : Option Float
  uniqueScopes : Bool
  output : Output

/-- What arguments ask for. -/
inductive Request where
  | help
  | version
  | view (options : Options)

/-- Read a number as a canvas measure: an optional sign, then `inf`, `infinity` or `nan`
in any case, or digits with at most one point among them and perhaps an exponent. -/
def measure? (text : List Char) : Option Float :=
  let (sign, magnitude) := Decimal.takeSign text
  let negative := sign == some .minus
  match (String.ofList magnitude).toLower with
  | "inf" | "infinity" => some (Binary64.infinity negative).toFloat
  | "nan" => some (0.0 / 0.0)
  | _ => do
    let literal ← Decimal.Literal.split? Char.isDigit text
    if literal.whole.isEmpty && (literal.fraction.getD []).isEmpty then none
    else if literal.exponent.any (fun exponent => exponent.2.isEmpty) then none
    else some literal.toBinary64.toFloat

/-- The path that an argument names. A path is not empty. -/
def path? (text : List Char) : Option String :=
  if text.isEmpty then none else some (String.ofList text)

/-- An option that takes a value. -/
inductive ValueOption where
  | config
  | step
  | width
  | height

namespace ValueOption

/-- The name after the two hyphens. -/
def name : ValueOption → String
  | .config => "config"
  | .step => "step"
  | .width => "width"
  | .height => "height"

/-- Whether the option was given before. -/
def isGiven (arguments : Arguments) : ValueOption → Bool
  | .config => arguments.config.isSome
  | .step => arguments.step.isSome
  | .width => arguments.width.isSome
  | .height => arguments.height.isSome

/-- Take the value of an option, if it is one. -/
def take? (arguments : Arguments) (value : List Char) : ValueOption → Option Arguments
  | .config => (path? value).map fun config => { arguments with config := some config }
  | .step => (Text.counter? value).map fun step => { arguments with step := some step }
  | .width => (measure? value).map fun width => { arguments with width := some width }
  | .height => (measure? value).map fun height => { arguments with height := some height }

/-- Give an option its value. -/
def give (option : ValueOption) (value : List Char) (arguments : Arguments) :
    Except Fault Arguments :=
  match option.take? arguments value with
  | none => .error (.invalidValue option.name (String.ofList value))
  | some taken =>
    if option.isGiven arguments then .error (.repeatedOption option.name) else .ok taken

end ValueOption

/-- An option that stands alone. -/
inductive Switch where
  | uniqueScopes
  | dump
  | json

namespace Switch

/-- The name after the two hyphens. -/
def name : Switch → String
  | .uniqueScopes => "unique-scopes"
  | .dump => "dump"
  | .json => "json"

/-- Turn a switch on. -/
def turnOn (switch : Switch) (arguments : Arguments) : Except Fault Arguments :=
  let isOn :=
    match switch with
    | .uniqueScopes => arguments.uniqueScopes
    | .dump => arguments.dump
    | .json => arguments.json
  if isOn then .error (.repeatedOption switch.name)
  else
    match switch with
    | .uniqueScopes => .ok { arguments with uniqueScopes := true }
    | .dump => .ok { arguments with dump := true }
    | .json => .ok { arguments with json := true }

end Switch

/-- What an option with two hyphens means. -/
inductive LongOption where
  | value (option : ValueOption)
  | switch (switch : Switch)
  | help
  | version

/-- The option of a name. Names are not abbreviated. -/
def LongOption.ofName? : String → Option LongOption
  | "config" => some (.value .config)
  | "step" => some (.value .step)
  | "width" => some (.value .width)
  | "height" => some (.value .height)
  | "unique-scopes" => some (.switch .uniqueScopes)
  | "dump" => some (.switch .dump)
  | "json" => some (.switch .json)
  | "help" => some .help
  | "version" => some .version
  | _ => none

/-- Split an option at its first equals sign into a name and the value after it. -/
def splitValue (text : List Char) : String × Option (List Char) :=
  (String.ofList (text.takeWhile (· ≠ '=')),
    match text.dropWhile (· ≠ '=') with
    | [] => none
    | _ :: value => some value)

/-- Take an argument that stands for the document. -/
def takeDocument (argument : List Char) (arguments : Arguments) : Except Fault Arguments :=
  match arguments.document, path? argument with
  | some _, _ => .error (.surplusArgument (String.ofList argument))
  | none, some document => .ok { arguments with document := some document }
  | none, none => .error (.invalidValue "<DOCUMENT>" "")

/-- Whether an argument may be the value of the option before it: it does not start with
a hyphen, or is nothing else. -/
def isSeparateValue : List Char → Bool
  | ['-'] => true
  | '-' :: _ => false
  | _ => true

/-- The request of complete arguments. -/
def Arguments.request (arguments : Arguments) : Except Fault Request :=
  if arguments.dump && arguments.json then .error .conflictingOutputs
  else
    match arguments.document with
    | none => .error .missingDocument
    | some document =>
      .ok (.view
        { document
          config := arguments.config
          step := arguments.step
          width := arguments.width
          height := arguments.height
          uniqueScopes := arguments.uniqueScopes
          output := if arguments.dump then .dump else if arguments.json then .json else .terminal })

/-- Read arguments from left to right. After `--`, every argument is a document. -/
def readArguments : List (List Char) → Arguments → Except Fault Request
  | [], arguments => arguments.request
  | ['-', '-'] :: rest, arguments => do
    (← rest.foldlM (fun arguments argument => takeDocument argument arguments) arguments).request
  | ('-' :: '-' :: text) :: rest, arguments =>
    let (name, attached) := splitValue text
    match LongOption.ofName? name, attached with
    | none, _ => .error (.unknownOption ("--" ++ name))
    | some (.value option), some value => do readArguments rest (← option.give value arguments)
    | some (.value option), none =>
      match rest with
      | [] => .error (.missingValue option.name)
      | value :: rest => do
        if isSeparateValue value then readArguments rest (← option.give value arguments)
        else .error (.missingValue option.name)
    | some _, some _ => .error (.unexpectedValue name)
    | some (.switch switch), none => do readArguments rest (← switch.turnOn arguments)
    | some .help, none => .ok .help
    | some .version, none => .ok .version
  | ('-' :: 'h' :: _) :: _, _ => .ok .help
  | ('-' :: 'V' :: _) :: _, _ => .ok .version
  | ('-' :: mark :: _) :: _, _ => .error (.unknownOption (String.ofList ['-', mark]))
  | argument :: rest, arguments => do readArguments rest (← takeDocument argument arguments)

/-- What arguments ask for. -/
def Request.ofArguments (arguments : List String) : Except Fault Request :=
  readArguments (arguments.map String.toList) { }

/-! ## Answers -/

/-- The end of a run: an exit code, the text for the output, and a message about what
went wrong. -/
structure Outcome where
  code : Nat
  output : String
  message : Option String

/-- A run that ends well. -/
def Outcome.success (output : String) : Outcome := ⟨0, output, none⟩

/-- A run that fails by an error of its own. -/
def Outcome.failure (message : String) : Outcome := ⟨1, "", some message⟩

/-- The name and the version of the program. -/
def versionLine : String := "memscope 0.1.0"

/-- The lines of the help text. -/
def helpLines : List String :=
  ["Step-through stack and heap visualizer",
    "",
    "Usage: memscope [OPTIONS] <DOCUMENT>",
    "",
    "Arguments:",
    "  <DOCUMENT>  Program-structure document (JSON)",
    "",
    "Options:",
    "      --config <CONFIG>  Config file path (defaults are used if not specified)",
    "      --step <STEP>      Step to open at (clamped to the timeline)",
    "      --unique-scopes    Give every if/else/while occurrence its own scope",
    "      --width <WIDTH>    Canvas width override",
    "      --height <HEIGHT>  Canvas height override",
    "      --dump             Print the timeline and the state at --step "
      ++ "instead of starting the TUI",
    "      --json             Print the timeline as JSON instead of starting the TUI",
    "  -h, --help             Print help",
    "  -V, --version          Print version"]

/-- A text of lines, each with its end. -/
def ofLines (lines : List String) : String := String.join (lines.map (· ++ "\n"))

/-- Put blanks before a text until it has four characters. -/
def alignNumber (number : Nat) : String :=
  let digits := Nat.toDigits 10 number
  String.ofList (List.replicate (4 - digits.length) ' ' ++ digits)

/-- A line inside a listing. -/
def indent (line : String) : String := "  " ++ line

/-- The lines that show all events of a timeline. -/
def eventLines (timeline : Timeline) : List String :=
  ("Timeline (" ++ Nat.repr timeline.length ++ " events)")
    :: timeline.events.zipIdx.map fun (event, index) =>
      alignNumber (index + 1) ++ indent event.summary

/-- The lines that show one step: where it is, what happened last, the frames of the
stack, and the records on the heap. -/
def stepLines (timeline : Timeline) (cursor : Cursor) : List String :=
  let snapshot := cursor.snapshot timeline
  let heap := snapshot.heap
  [cursor.indicator timeline ++ indent (timeline.description cursor.index)]
    ++ snapshot.frames.flatMap (fun frame => frame.title :: frame.lines.map indent)
    ++ if heap.isEmpty then [] else "Heap" :: heap.map fun record => indent record.summary

/-- The timeline and the state at a step, the last one unless another is given. -/
def dumpLines (timeline : Timeline) (step : Option Nat) : List String :=
  let cursor :=
    match step with
    | some step => Cursor.goToNearest timeline (Text.integerOfCount step)
    | none => Cursor.atEnd timeline
  eventLines timeline ++ "" :: stepLines timeline cursor

namespace Options

/-- Settings with what the options override. -/
def override (options : Options) (settings : Settings) : Settings where
  metrics :=
    { settings.metrics with
      width := options.width.getD settings.metrics.width
      height := options.height.getD settings.metrics.height }
  naming := if options.uniqueScopes then .unique else settings.naming
  intervalMs := settings.intervalMs

/-- The settings that a request works with, given the bytes of the settings file. -/
def settings (options : Options) (configFile : Option ByteArray) :
    Except SettingsError Settings := do
  let settings ←
    if options.config.isSome then Settings.ofBytes configFile else pure Settings.default
  let settings := options.override settings
  settings.check
  return settings

/-- Answer a request, given the bytes of the files that it names. The settings are looked
at before the document. -/
def outcome (options : Options) (configFile documentFile : Option ByteArray) : Outcome :=
  match options.settings configFile with
  | .error error => .failure (error.message?.getD "the settings cannot be read")
  | .ok settings =>
    match Program.ofBytes documentFile with
    | .error error => .failure (error.message?.getD "the document cannot be read")
    | .ok program =>
      let timeline := program.timeline settings.naming
      match options.output with
      | .json => .success (ofLines [timeline.toJson.pretty])
      | .dump => .success (ofLines (dumpLines timeline options.step))
      | .terminal => .failure "a terminal is needed to show the timeline"

end Options

/-- Answer arguments, given a way to look up the bytes of files. -/
def run (arguments : List String) (file? : String → Option ByteArray) : Outcome :=
  match Request.ofArguments arguments with
  | .error fault => ⟨2, "", some fault.message⟩
  | .ok .help => .success (ofLines helpLines)
  | .ok .version => .success (ofLines [versionLine])
  | .ok (.view options) => options.outcome (options.config.bind file?) (file? options.document)

end MemoryTimeline.CommandLine
