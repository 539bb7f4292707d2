import NameOwners.Notification.Wire
import NameOwners.System
import NameOwners.Text.Split

/-!
Replaying notifications that were written down one to a line: they are sent to a resolver, which
works through all of them and is then shut down. What is left is its index.
-/

namespace NameOwners

/-- The notifications of a text, one to a line. Lines that are no notification do not matter. -/
def Notification.ofLines (text : String) : List Notification :=
  (Text.splitAt '\n' text.toList).filterMap fun line =>
    (Notification.read (String.ofList line)).toOption

/-- Notifications that tell the end of the listing, at least at their own end. -/
def Notification.withSynced (ns : List Notification) : List Notification :=
  if ns.any isSynced then ns else ns ++ [synced]

namespace System

def sendAll (s : System) (ns : List Notification) : System :=
  ns.foldl (fun s n => (s.send n).1) s

def buildResolver (s : System) (config : ResolverConfig) (observer : Observer) :
    Except Error (System × Resolver) :=
  match s.build config observer with
  | (_, .error e) => .error e
  | (s, .ok ()) =>
    match s.resolver with
    | some r => .ok (s, r)
    | none => .error .stopped

/-- The system after its resolver has worked through all that was sent. -/
def runToEnd (s : System) (r : Resolver) : Except Error System := do
  let (s, started) := s.start r
  started
  let s := (s.awaitStart.modify Resolver.wait).settle
  .ok (s.modify fun r => (r.shutdown s.clock).1)

end System

def replay (config : ResolverConfig) (ns : List Notification) : Except Error Index := do
  let s := (({} : System).sendAll (Notification.withSynced ns)).close
  let (s, r) ← s.buildResolver config .silent
  let s ← s.runToEnd r
  .ok ((s.resolver.map Resolver.index).getD {})

end NameOwners
