import NameOwners.Address.Printer
import NameOwners.Json.Value
import NameOwners.NamespaceFilter
import NameOwners.Text.Blank
import NameOwners.Text.Quoted

/-!
Configuration: which namespaces are tracked with which limits, and how the program reports on
itself. A configuration may have been read without making sense; `ResolverConfig.check` finds the
first thing that is wrong with it.
-/

namespace NameOwners

structure ResolverConfig where
  /-- The tracked namespaces, or none for all. -/
  namespaces : List String := []
  /-- The least number of seconds that an answer may be kept. -/
  minTtl : UInt32 := 5
  /-- How many failures in a row are tolerated. -/
  failureThreshold : UInt32 := 5
deriving DecidableEq, Repr

structure TelemetryConfig where
  logLevel : String := "info"
  /-- Where the metrics are served, if anywhere. -/
  metricsAddress : Option SocketAddress := none
deriving DecidableEq

structure Config where
  resolver : ResolverConfig := {}
  telemetry : TelemetryConfig := {}
deriving DecidableEq

inductive ConfigError where
  | zeroMinTtl
  | zeroFailureThreshold
  | blankNamespace (ns : String)
  | other (reason : String)
deriving DecidableEq, Repr

def ConfigError.message : ConfigError → String
  | .zeroMinTtl => "min_ttl must be greater than 0"
  | .zeroFailureThreshold => "failure_threshold must be greater than 0"
  | .blankNamespace ns => "invalid namespace " ++ Text.quoted ns ++ ": must not be empty"
  | .other reason => reason

namespace ResolverConfig

/-- The first thing that is wrong: a limit that is zero, or a namespace with a blank name. -/
def check (c : ResolverConfig) : Except ConfigError Unit :=
  if c.minTtl = 0 then .error .zeroMinTtl
  else if c.failureThreshold = 0 then .error .zeroFailureThreshold
  else
    match c.namespaces.find? Text.isBlankText with
    | some ns => .error (.blankNamespace ns)
    | none => .ok ()

def filter (c : ResolverConfig) : NamespaceFilter := ⟨c.namespaces⟩

end ResolverConfig

/-! ### JSON values -/

def ResolverConfig.toJson (c : ResolverConfig) : Json :=
  .object [
    ("namespaces", .array (c.namespaces.map Json.string)),
    ("min_ttl", .nat c.minTtl.toNat),
    ("failure_threshold", .nat c.failureThreshold.toNat)]

def TelemetryConfig.toJson (c : TelemetryConfig) : Json :=
  .object [
    ("log_level", .string c.logLevel),
    ("prometheus_addr",
      match c.metricsAddress with
      | some x => .string x.text
      | none => .null)]

def Config.toJson (c : Config) : Json :=
  .object [("resolver", c.resolver.toJson), ("telemetry", c.telemetry.toJson)]

end NameOwners
