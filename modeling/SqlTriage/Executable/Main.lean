import SqlTriage.Executable.CommandLine
import SqlTriage.Executable.SettingsDocument

/-!
# The executable

Gathers what the program finds around it, lets `Command.perform` decide, and prints the result.
-/

open SqlTriage SqlTriage.Text SqlTriage.Executable

/-- The bytes of a text. -/
def bytesOf (text : String) : Bytes :=
  text.toUTF8.toList

/-- Why the system cannot read a file or a stream: its words and the number that it gives them,
which may come with its sign changed. -/
def reasonOf : IO.Error → String
  | .noFileOrDirectory _ code words
  | .permissionDenied _ code words
  | .inappropriateType _ code words =>
    let number := min code.toNat (UInt32.size - code.toNat)
    words.capitalize ++ " (os error " ++ toString number ++ ")"
  | e => toString e

/-- What the system gives of the file at a path. -/
def contentAt (path : Bytes) : IO Content := do
  match decode? path with
  | none => return .error "the path is not valid UTF-8"
  | some name =>
    try
      return .ok (← IO.FS.readBinFile name).toList
    catch e => return .error (reasonOf e)

/-- All that is left on a stream. -/
partial def readAll (stream : IO.FS.Stream) (before : ByteArray) : IO ByteArray := do
  let chunk ← stream.read 65536
  if chunk.isEmpty then return before else readAll stream (before ++ chunk)

/-- What the system gives of standard input. -/
def inputContent : IO Content := do
  try
    return .ok (← readAll (← IO.getStdin) .empty).toList
  catch e => return .error (reasonOf e)

/-- What a command finds around it. Only the files that it names are read, and standard input
only if it needs it. -/
def surroundingsOf (command : Command) : IO Surroundings := do
  let values ← [Variable.dialect, .output, .delimiter, .failFast].filterMapM fun v => do
    return (← IO.getEnv v.name).map fun value => (v, bytesOf value)
  let files ← (command.settings.toList ++ command.script.toList).mapM fun path => do
    return (path, ← contentAt path)
  let input ←
    if command.statements.isEmpty && command.script.isNone then inputContent else pure (.ok [])
  return {
    environment := fun v => values.lookup v
    file := fun path => (files.lookup path).getD (.error "the command does not name the file")
    input }

/-- Prints a result and gives its exit code. -/
def finish (result : Result) : IO UInt32 := do
  result.output.forM IO.println
  if let some message := result.complaint then IO.eprintln message
  return UInt32.ofNat result.exitCode

/-- Runs the program on its arguments. -/
def main (arguments : List String) : IO UInt32 := do
  match CommandLine.read? (arguments.map bytesOf) with
  | none =>
    usageLines.forM IO.eprintln
    return 2
  | some (.run command) => finish (command.perform libraries (← surroundingsOf command))
  | some request => finish (request.perform libraries ⟨fun _ => none, fun _ => .ok [], .ok []⟩)
