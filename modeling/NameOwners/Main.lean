import NameOwners.CommandLine.Program

/-!
The program itself: it gathers its surroundings, prints the result and leaves with the exit code.
-/

namespace NameOwners.CommandLine

def readFile? (path : String) : IO (Option ByteArray) := do
  try
    return some (← IO.FS.readBinFile path)
  catch _ =>
    return none

def splitVariable (entry : List Char) : String × String :=
  (String.ofList (entry.takeWhile (· ≠ '=')), String.ofList ((entry.dropWhile (· ≠ '=')).drop 1))

def readVariables : IO (List (String × String)) := do
  let text := ((← readFile? "/proc/self/environ").bind String.fromUTF8?).getD ""
  return (Text.splitAt '\x00' text.toList).map splitVariable

def readFiles (paths : List String) : IO (List (String × ByteArray)) := do
  let read ← paths.mapM fun path => do return (← readFile? path).map (path, ·)
  return read.filterMap id

def perform (arguments : List String) : IO UInt32 := do
  let options :=
    match Command.read arguments with
    | .ok (.replay o) => some o
    | _ => none
  let configPaths := (options.bind Options.config).toList.flatMap fun path =>
    [path, path ++ configEnding]
  let files ← readFiles (configPaths ++ (options.bind Options.events).toList)
  let input ←
    if options.any fun o => o.events.isNone then (← IO.getStdin).readBinToEnd else pure .empty
  let result := run
    { arguments, environment := ← readVariables, input, file? := fun path => files.lookup path }
  IO.print result.output
  unless result.complaint.isEmpty do
    IO.eprintln ("error: " ++ result.complaint)
  return result.exitCode

end NameOwners.CommandLine

def main (arguments : List String) : IO UInt32 :=
  NameOwners.CommandLine.perform arguments
