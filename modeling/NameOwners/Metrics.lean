import NameOwners.Index.Update
import NameOwners.Json.Value

/-!
What is counted and measured: events by kind and outcome, the sizes of the index when they were
last published, whether the watch has listed everything, how the waits for that went, and how
shutdowns were answered. `Metrics.toJson` reports all that was ever touched.
-/

namespace NameOwners

structure EventCounts where
  count : EventKind → Outcome → Nat := fun _ _ => 0

namespace EventCounts

def bump (c : EventCounts) (kind : EventKind) (outcome : Outcome) : EventCounts :=
  ⟨fun k o => if k = kind ∧ o = outcome then c.count k o + 1 else c.count k o⟩

@[simp] theorem count_bump (c : EventCounts) (kind k : EventKind) (outcome o : Outcome) :
    (c.bump kind outcome).count k o =
      if k = kind ∧ o = outcome then c.count k o + 1 else c.count k o := rfl

end EventCounts

/-- How a wait for the listing ended. -/
inductive SyncWait where
  | synced
  | timedOut
deriving DecidableEq, Repr

def SyncWait.label : SyncWait → String
  | .synced => "synced"
  | .timedOut => "timeout"

structure Metrics where
  events : EventCounts := {}
  /-- The published numbers of regular and wildcard names. -/
  sizes : Option (Nat × Nat) := none
  synced : Bool := false
  /-- The waits that ended by themselves, with their milliseconds, in order. -/
  syncWaits : List (SyncWait × Nat) := []
  acceptedShutdowns : Nat := 0
  repeatedShutdowns : Nat := 0

namespace Metrics

def publishSizes (m : Metrics) (i : Index) : Metrics :=
  { m with sizes := some (i.count .regular, i.count .wildcard) }

def metricName (name : String) : String :=
  "dnsname_resolver." ++ name

def labelled (name : String) (labels : List (String × String)) : String :=
  metricName name ++ "\x7b" ++ String.intercalate "," (labels.map fun l => l.1 ++ "=" ++ l.2) ++
    "\x7d"

def counter (name : String) (n : Nat) : List (String × Json) :=
  if n = 0 then [] else [(name, .nat n)]

def eventCounters (c : EventCounts) : List (String × Json) :=
  [EventKind.added, .updated, .deleted].flatMap fun kind =>
    Outcome.all.flatMap fun outcome =>
      counter (labelled "event.count" [("kind", kind.label), ("outcome", outcome.label)])
        (c.count kind outcome)

def sizeGauges : Option (Nat × Nat) → List (String × Json)
  | none => []
  | some (regular, wildcard) =>
    [(metricName "index.regular.count", .nat regular),
     (metricName "index.wildcard.count", .nat wildcard)]

def syncWaitMetrics (waits : List (SyncWait × Nat)) : List (String × Json) :=
  [SyncWait.synced, .timedOut].flatMap (fun result =>
    counter (labelled "sync_wait.count" [("result", result.label)])
      (waits.countP (·.1 = result))) ++
  if waits.isEmpty then []
  else [(metricName "sync_wait.duration.seconds", .array (waits.map fun w => .nat w.2))]

/-- All metrics that were ever touched, by name. -/
def toJson (m : Metrics) : Json :=
  .ofEntries (eventCounters m.events ++ sizeGauges m.sizes ++
    (if m.synced then [(metricName "source.synced", .nat 1)] else []) ++
    syncWaitMetrics m.syncWaits ++
    counter (labelled "shutdown.count" [("result", "accepted")]) m.acceptedShutdowns ++
    counter (labelled "shutdown.count" [("result", "repeated")]) m.repeatedShutdowns)

end Metrics

end NameOwners
