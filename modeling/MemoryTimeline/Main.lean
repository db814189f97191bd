import MemoryTimeline.CommandLine

/-!
# The program

Reads the files that the arguments name and prints the answer.
-/

open MemoryTimeline

/-- The bytes of a file, if it can be read. -/
def readFile? (path : String) : IO (Option ByteArray) := do
  try
    return some (← IO.FS.readBinFile path)
  catch _ =>
    return none

/-- The files that arguments name, with their bytes. -/
def namedFiles (arguments : List String) : IO (List (String × Option ByteArray)) := do
  match CommandLine.Request.ofArguments arguments with
  | .ok (.view options) =>
    (options.config.toList ++ [options.document]).mapM fun path => do
      return (path, ← readFile? path)
  | _ => return []

/-- Run the program on its arguments. -/
def main (arguments : List String) : IO UInt32 := do
  let files ← namedFiles arguments
  let outcome := CommandLine.run arguments fun path => (files.lookup path).join
  IO.print outcome.output
  if let some message := outcome.message then
    IO.eprintln ("error: " ++ message)
  return UInt32.ofNat outcome.code
