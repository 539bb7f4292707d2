import NameOwners.Error
import NameOwners.Synchronizer

/-!
A resolver keeps an index up to date with a watch. It is created, started once and shut down once;
in between a task delivers what the watch sends. The call that starts it returns when the watch has
listed everything, when the resolver is shut down, or when it has waited long enough. Calls that
wait for the task line up: the first of them joins the task once it has ended, and then nothing is
left to wait for. All durations are in milliseconds.
-/

namespace NameOwners

def resyncPeriod : Nat := 24 * 60 * 60 * 1000

def syncCheckInterval : Nat := 100

def syncLogInterval : Nat := 500

def syncTimeout : Nat := 5000

inductive Watch where
  /-- Nobody has taken it yet. -/
  | held
  /-- A task delivers what arrives. -/
  | running
  | ended
deriving DecidableEq, Repr

/-- The call that started a resolver. -/
inductive Startup where
  | idle
  /-- It was made at this time and has not returned. -/
  | waiting (since : Nat)
  /-- It returned after this time. -/
  | returned (elapsed : Nat)
deriving DecidableEq, Repr

/-- A call that waits for the task to end. -/
inductive Wait where
  | pending
  | joined
  | abandoned
deriving DecidableEq, Repr

inductive Phase where
  | created
  | started
  | stopped
deriving DecidableEq, Repr

structure Resolver where
  config : ResolverConfig
  synchronizer : Synchronizer
  /-- Whether the watch has listed everything. -/
  synced : Bool := false
  watch : Watch := .held
  /-- Whether the resolver was shut down. -/
  isStopped : Bool := false
  /-- Whether the task is told to stop. -/
  isCancelled : Bool := false
  startup : Startup := .idle
  /-- Whether there is a task that no call has joined. -/
  joinable : Bool := false
  /-- The calls that wait for the task, in order. -/
  waits : List Wait := []

namespace Resolver

def create (config : ResolverConfig) (observer : Observer) : Resolver where
  config := config
  synchronizer := { filter := config.filter, observer }

def index (r : Resolver) : Index :=
  r.synchronizer.index

def metrics (r : Resolver) : Metrics :=
  r.synchronizer.metrics

def updateMetrics (r : Resolver) (f : Metrics → Metrics) : Resolver :=
  { r with synchronizer := { r.synchronizer with metrics := f r.synchronizer.metrics } }

def phase (r : Resolver) : Phase :=
  if r.isStopped then .stopped
  else if r.watch = .held then .created
  else .started

/-! ### The task -/

def markSynced (r : Resolver) : Resolver :=
  if r.synced then r
  else
    { r with
      synced := true
      synchronizer :=
        { r.synchronizer with
          metrics := { r.synchronizer.metrics.publishSizes r.index with synced := true } } }

/-- Deliver an event. The task ends if the observer breaks down; else the sizes of the index are
published if it changed. -/
def applyEvent (r : Resolver) (e : Event) : Resolver :=
  let (s, outcome) := r.synchronizer.apply e
  if r.synchronizer.breaksOn e then { r with synchronizer := s, watch := .ended }
  else if outcome = .applied then { r with synchronizer := s.publishSizes }
  else { r with synchronizer := s }

def deliver (r : Resolver) (n : Notification) : Resolver :=
  match n.event? with
  | none => r.markSynced
  | some e => r.applyEvent e

/-! ### Starting and stopping -/

def start (r : Resolver) (now : Nat) : Except Error Resolver :=
  if r.isStopped then .error .stopped
  else if r.watch ≠ .held then .error .alreadyStarted
  else .ok { r with watch := .running, startup := .waiting now, joinable := true }

def finishStartup (r : Resolver) (result : SyncWait) (elapsed : Nat) : Resolver :=
  { r.updateMetrics fun m => { m with syncWaits := m.syncWaits ++ [(result, elapsed)] } with
    startup := .returned elapsed }

/-- The call that started the resolver looks at the clock. -/
def checkStartup (r : Resolver) (now : Nat) : Resolver :=
  match r.startup with
  | .waiting since =>
    let elapsed := now - since
    -- A listing that is found complete at the deadline is in time.
    if elapsed % syncCheckInterval = 0 ∧ r.synced then r.finishStartup .synced elapsed
    else if syncTimeout ≤ elapsed then r.finishStartup .timedOut elapsed
    else r
  | _ => r

/-- Shut the resolver down, the first time only: the task is told to stop, and a call that starts
the resolver and still waits returns at once. -/
def shutdown (r : Resolver) (now : Nat) : Resolver × Except Error Unit :=
  if r.isStopped then
    (r.updateMetrics fun m => { m with repeatedShutdowns := m.repeatedShutdowns + 1 },
      .error .shutdownInProgress)
  else
    let startup :=
      -- A start that is cut short returns without a note of how long it waited.
      match r.startup with
      | .waiting since => .returned (now - since)
      | other => other
    ({ r.updateMetrics fun m => { m with acceptedShutdowns := m.acceptedShutdowns + 1 } with
        isCancelled := true, isStopped := true, startup },
      .ok ())

def isStarting (r : Resolver) : Bool :=
  match r.startup with
  | .waiting _ => true
  | _ => false

/-! ### Waiting for the task -/

/-- Whether a call that is first in line has nothing to wait for. -/
def canJoin (r : Resolver) : Bool :=
  !r.joinable || r.watch = .ended

def hasPending (r : Resolver) : Bool :=
  r.waits.contains .pending

def wait (r : Resolver) : Resolver :=
  if !r.hasPending && r.canJoin then
    { r with waits := r.waits ++ [.joined], joinable := false }
  else { r with waits := r.waits ++ [.pending] }

/-- The first call in line joins the task, if it has ended. -/
def wake (r : Resolver) : Resolver :=
  if r.hasPending && r.canJoin then
    { r with waits := r.waits.set (r.waits.idxOf .pending) .joined, joinable := false }
  else r

def abandon (r : Resolver) (call : Nat) : Resolver :=
  if r.waits[call]? = some .pending then { r with waits := r.waits.set call .abandoned } else r

end Resolver

end NameOwners
