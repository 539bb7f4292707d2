import NameOwners.Resolver

/-!
A resolver with the channel that feeds it, on a clock of its own. Whoever uses the resolver builds,
starts and stops it, sends notifications and waits; the task that delivers them and the calls that
wait go on by themselves in steps (`poll`, `wake`). Time stands still while one of them can go on,
so the clock (`tick`) moves only in a system that is quiet.
-/

namespace NameOwners

structure System where
  /-- The time in milliseconds. -/
  clock : Nat := 0
  source : Source := {}
  channel : Channel := {}
  resolver : Option Resolver := none

namespace System

def modify (s : System) (f : Resolver → Resolver) : System :=
  { s with resolver := s.resolver.map f }

/-! ### Calls -/

def build (s : System) (config : ResolverConfig) (observer : Observer) :
    System × Except Error Unit :=
  match config.check with
  | .error cause => (s, .error (.config cause))
  | .ok () =>
    match s.source.watch resyncPeriod with
    | (source, .error cause) => ({ s with source }, .error (.source cause))
    | (source, .ok ()) => ({ s with source, resolver := some (.create config observer) }, .ok ())

def receives (s : System) : Bool :=
  match s.resolver with
  | some r => r.watch ≠ .ended
  | none => true

def send (s : System) (n : Notification) : System × Bool :=
  if s.channel.isOpen && s.receives then ({ s with channel := s.channel.push n }, true)
  else (s, false)

def close (s : System) : System :=
  { s with channel := s.channel.close }

/-- Start the resolver. The call returns later; see `Resolver.startup`. -/
def start (s : System) (r : Resolver) : System × Except Error Unit :=
  match r.start s.clock with
  | .error e => (s, .error e)
  | .ok r => ({ s with resolver := some r }, .ok ())

def shutdown (s : System) (r : Resolver) : System × Except Error Unit :=
  let (r, result) := r.shutdown s.clock
  ({ s with resolver := some r }, result)

/-! ### What goes on by itself -/

def canPoll (s : System) : Bool :=
  match s.resolver with
  | none => false
  | some r =>
    r.watch = .running && (r.isCancelled || !s.channel.queued.isEmpty || !s.channel.isOpen)

def poll (s : System) : System :=
  match s.resolver with
  | none => s
  | some r =>
    if r.watch ≠ .running then s
    -- The word to stop goes before whatever waits in the channel.
    else if r.isCancelled then { s with resolver := some { r with watch := .ended } }
    else
      match s.channel.pop? with
      | some (n, channel) => { s with channel, resolver := some (r.deliver n) }
      | none =>
        if s.channel.isOpen then s else { s with resolver := some { r with watch := .ended } }

def canWake (s : System) : Bool :=
  match s.resolver with
  | none => false
  | some r => r.hasPending && r.canJoin

def wake (s : System) : System :=
  s.modify Resolver.wake

/-- Whether nothing goes on by itself. -/
def isQuiet (s : System) : Bool :=
  !s.canPoll && !s.canWake

def tick (s : System) : System :=
  let now := s.clock + 1
  { s.modify (·.checkStartup now) with clock := now }

/-! ### Runs -/

inductive Action where
  | build (config : ResolverConfig) (observer : Observer)
  | send (n : Notification)
  | close
  | start
  | shutdown
  | wait
  | abandon (call : Nat)
  | poll
  | wake
  | tick

def step (s : System) : Action → System
  | .build config observer => (s.build config observer).1
  | .send n => (s.send n).1
  | .close => s.close
  | .start =>
    match s.resolver with
    | some r => (s.start r).1
    | none => s
  | .shutdown =>
    match s.resolver with
    | some r => (s.shutdown r).1
    | none => s
  | .wait => s.modify Resolver.wait
  | .abandon call => s.modify (·.abandon call)
  | .poll => s.poll
  | .wake => s.wake
  | .tick => if s.isQuiet then s.tick else s

def run (s : System) (actions : List Action) : System :=
  actions.foldl step s

@[simp] theorem run_nil (s : System) : s.run [] = s := rfl

@[simp] theorem run_cons (s : System) (a : Action) (actions : List Action) :
    s.run (a :: actions) = (s.step a).run actions := rfl

theorem run_append (s : System) (as bs : List Action) :
    s.run (as ++ bs) = (s.run as).run bs :=
  List.foldl_append

/-! ### The passing of time -/

/-- How many steps go on by themselves at most. -/
def workload (s : System) : Nat :=
  s.channel.queued.length + 2 +
    match s.resolver with
    | some r => r.waits.count .pending
    | none => 0

def work : (fuel : Nat) → System → System
  | 0, s => s
  | fuel + 1, s =>
    if s.canPoll then work fuel s.poll else if s.canWake then work fuel s.wake else s

/-- Let go on what goes on by itself until the system is quiet. -/
def settle (s : System) : System :=
  s.work s.workload

/-- Let time pass up to a moment at which nothing has gone on by itself yet. -/
def advance : (milliseconds : Nat) → System → System
  | 0, s => s
  | n + 1, s => advance n s.settle.tick

def elapse (s : System) (milliseconds : Nat) : System :=
  (s.advance milliseconds).settle

def isStarting (s : System) : Bool :=
  s.resolver.any Resolver.isStarting

/-- Let time pass until the call that started the resolver returns, for at most `fuel`
milliseconds. -/
def elapseUntilStarted : (fuel : Nat) → System → System
  | 0, s => s.settle
  | fuel + 1, s => if s.isStarting then elapseUntilStarted fuel s.settle.tick else s

def awaitStart (s : System) : System :=
  s.elapseUntilStarted syncTimeout

end System

end NameOwners
