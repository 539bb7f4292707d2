import NameOwners.CommandLine.Arguments
import NameOwners.CommandLine.Replay
import NameOwners.Config.Layers
import NameOwners.Index.Snapshot
import NameOwners.Json.Printer
import NameOwners.LogFilter

/-!
The program as a function of all that it is given: its arguments, the variables of its environment,
its standard input and the files that it may read. It replays notifications and prints the index
that is left.
-/

namespace NameOwners.CommandLine

structure Surroundings where
  arguments : List String
  environment : List (String × String)
  input : ByteArray
  file? : String → Option ByteArray

structure Result where
  exitCode : UInt32
  output : String := ""
  /-- What is said about a failure. -/
  complaint : String := ""
deriving DecidableEq

inductive Failure where
  /-- The program finds an error and reports it. -/
  | reported (e : Error)
  /-- The program breaks down over something that it does not expect. -/
  | breakdown (what : String)

namespace Failure

def exitCode : Failure → UInt32
  | reported _ => 1
  | breakdown _ => 101

def message : Failure → String
  | reported e => e.message
  | breakdown what => what

end Failure

def notReadable (name : String) : Failure :=
  .reported (.io ("cannot read " ++ name))

def textOf (name : String) (bytes : Option ByteArray) : Except Failure String :=
  match bytes.bind String.fromUTF8? with
  | some text => .ok text
  | none => .error (notReadable name)

def configEnding : String := ".toml"

def fileName (path : String) : List Char :=
  ((path.toList.reverse).takeWhile (· ≠ '/')).reverse

def namesConfig (path : String) : Bool :=
  let name := fileName path
  configEnding.toList.isSuffixOf name && configEnding.length < name.length

/-- The bytes of a configuration file. The ending of its name may be left out. -/
def configBytes (s : Surroundings) (path : String) : Option ByteArray :=
  match s.file? path with
  | some bytes => if namesConfig path then some bytes else none
  | none => s.file? (path ++ configEnding)

def configText (s : Surroundings) : Option String → Except Failure (Option String)
  | none => .ok none
  | some path => some <$> textOf path (configBytes s path)

def loadConfig (s : Surroundings) (path : Option String) : Except Failure Config := do
  match Config.load (← configText s path) s.environment with
  | .ok c => .ok c
  | .error .unreadable => .error (.reported (.config (.other "it cannot be read")))
  | .error .misplaced => .error (.breakdown "a setting is out of place")

def logVariable : String := "RUST_LOG"

/-- Check a text that sets what is logged, and tell whether it makes sense. -/
def isLogFilter (text : String) : Except Failure Bool :=
  match LogFilter.check text with
  | .ok () => .ok true
  | .error .senseless => .ok false
  | .error .brokenCharacter => .error (.breakdown "a character of the log filter is broken")

/-- Check what is to be logged, by the variable if that makes sense or else by the configuration. -/
def checkLog (s : Surroundings) (c : TelemetryConfig) : Except Failure Unit := do
  let isSet ←
    match s.environment.lookup logVariable with
    | some text => isLogFilter text
    | none => .ok false
  unless isSet do
    unless ← isLogFilter c.logLevel do
      throw (.reported (.config (.other ("invalid log_level " ++ Text.quoted c.logLevel))))

def eventsText (s : Surroundings) : Option String → Except Failure String
  | some path => textOf path (s.file? path)
  | none => textOf "the standard input" (some s.input)

def replayOutput (s : Surroundings) (o : Options) : Except Failure String := do
  let config ← loadConfig s o.config
  checkLog s config.telemetry
  let text ← eventsText s o.events
  let index ← (replay config.resolver (Notification.ofLines text)).mapError .reported
  .ok (index.snapshot.pretty ++ "\n")

def run (s : Surroundings) : Result :=
  match Command.read s.arguments with
  | .error e => { exitCode := 2, complaint := e.message }
  | .ok .help => { exitCode := 0, output := helpText }
  | .ok .version => { exitCode := 0, output := versionText }
  | .ok (.replay o) =>
    match replayOutput s o with
    | .ok output => { exitCode := 0, output }
    | .error f => { exitCode := f.exitCode, complaint := f.message }

end NameOwners.CommandLine
