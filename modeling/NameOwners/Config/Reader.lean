import NameOwners.Address.Parser
import NameOwners.Config.Basic
import NameOwners.Json.Reader

/-!
Reading a configuration from JSON text. Every field may be left out; other fields are passed over.
-/

namespace NameOwners

open Json.Reader (RecordField)

def readMetricsAddress : Json.Reader (Option SocketAddress) := do
  match ← Json.Reader.peek with
  | some 'n' => do
    Json.Reader.word ['n', 'u', 'l', 'l']
    pure none
  | _ => do
    match SocketAddress.read? (← Json.Reader.stringValue "socket address") with
    | some x => pure (some x)
    | none => Json.Reader.mismatch .invalidAddress

def readWord : Json.Reader UInt32 := do
  pure (← Json.Reader.boundedNumber "u32" UInt32.size).toUInt32

def ResolverConfig.fields : List (RecordField ResolverConfig) := [
  ⟨"namespaces", fun c => do
    pure { c with namespaces := ← Json.Reader.listValue (Json.Reader.stringValue "a string") }⟩,
  ⟨"min_ttl", fun c => do pure { c with minTtl := ← readWord }⟩,
  ⟨"failure_threshold", fun c => do pure { c with failureThreshold := ← readWord }⟩]

def ResolverConfig.reader : Json.Reader ResolverConfig :=
  Json.Reader.record "struct ResolverConfig" fields {}

def TelemetryConfig.fields : List (RecordField TelemetryConfig) := [
  ⟨"log_level", fun c => do
    pure { c with logLevel := ← Json.Reader.stringValue "a string" }⟩,
  ⟨"prometheus_addr", fun c => do
    pure { c with metricsAddress := ← readMetricsAddress }⟩]

def TelemetryConfig.reader : Json.Reader TelemetryConfig :=
  Json.Reader.record "struct TelemetryConfig" fields {}

def Config.fields : List (RecordField Config) := [
  ⟨"resolver", fun c => do pure { c with resolver := ← ResolverConfig.reader }⟩,
  ⟨"telemetry", fun c => do pure { c with telemetry := ← TelemetryConfig.reader }⟩]

def Config.reader : Json.Reader Config :=
  Json.Reader.record "struct Config" fields {}

def Config.read (text : String) : Except Json.Error Config :=
  Config.reader.run text

end NameOwners
