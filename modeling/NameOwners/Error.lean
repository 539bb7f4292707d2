import NameOwners.Channel
import NameOwners.Config.Basic
import NameOwners.Json.Error

/-!
What can go wrong while a resolver is built, fed and driven.
-/

namespace NameOwners

inductive Error where
  /-- The source of notifications cannot be watched. -/
  | source (cause : SourceError)
  /-- The configuration makes no sense. -/
  | config (cause : ConfigError)
  /-- Something cannot be read or written. -/
  | io (reason : String)
  /-- A text is no JSON value of the right kind. -/
  | json (cause : Json.Error) (line column : Nat)
  | alreadyStarted
  | stopped
  /-- The resolver was shut down before, and cannot be so again. -/
  | shutdownInProgress

def Error.message : Error → String
  | .source cause => "Watch source error: " ++ cause.message
  | .config cause => "Invalid configuration: " ++ cause.message
  | .io reason => "IO error: " ++ reason
  | .json cause line column =>
    "JSON error: " ++ cause.message ++ " at line " ++ toString line ++ " column " ++
      toString column
  | .alreadyStarted => "resolver already started"
  | .stopped => "resolver has been shut down"
  | .shutdownInProgress => "shutdown already in progress"

end NameOwners
