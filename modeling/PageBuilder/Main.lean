import PageBuilder.CommandLine

/-!
# The program

Reads the file that a command line names, carries out the command and prints what came of it.
-/

namespace PageBuilder

/-- The text of a file, if there is one that can be read. -/
def readText? (path : String) : IO (Option String) := do
  try
    return String.fromUTF8? (← IO.FS.readBinFile path)
  catch _ => return none

/-- The text of the file that a command names. -/
def inputText? : Option Command → IO (Option String)
  | some (.render input _) => readText? input
  | _ => return none

/-- Says what went wrong, and returns the code to end with. -/
def complain (message : String) : IO UInt32 := do
  IO.eprintln ("Error: " ++ message)
  return 1

/-- Writes the file of an outcome. -/
def saveText (path text : String) : IO UInt32 := do
  try
    IO.FS.writeFile path text
    IO.eprintln ("Saved to " ++ path)
    return 0
  catch _ => complain Error.fileSystem.message

/-- Shows what came of a command line, and returns the code to end with. -/
def finish (outcome : Command.Outcome) : IO UInt32 := do
  IO.print outcome.output
  match outcome.complaint, outcome.saved with
  | some message, _ => complain message
  | none, some (path, text) => saveText path text
  | none, none =>
      if outcome.code = Command.Outcome.misuse.code then IO.eprint (Command.helpText none)
      return outcome.code.toUInt32

end PageBuilder

/-- Carries out the command line. -/
def main (arguments : List String) : IO UInt32 := do
  let input ← PageBuilder.inputText? (PageBuilder.Command.ofArguments? arguments)
  let files : PageBuilder.Command.Files := { read := fun _ => input, isWritable := fun _ => true }
  PageBuilder.finish (PageBuilder.runArguments files arguments)
