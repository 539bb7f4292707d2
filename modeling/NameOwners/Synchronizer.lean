import NameOwners.Metrics
import NameOwners.Text.Quoted

/-!
A synchronizer feeds events to an index, counts them, and shows those that the index looked at to
an observer. The observer is told after the index changed, so what it is shown includes the index
as it then stands.
-/

namespace NameOwners

/-- What an observer is shown: an event, what it did, and the index after it. -/
structure Observation where
  event : Event
  outcome : Outcome
  index : Index

/-- Who is told about events. An observer may break down at what it is shown, and nothing is
known of where: it may depend on all that the observer was shown before. -/
structure Observer where
  /-- Whether a note is taken of what is shown. -/
  takesNotes : Bool
  /-- Whether the observer breaks down, before it takes a note, when it is shown the next
  observation. -/
  breaksAt : (shown : List Observation) → (next : Observation) → Bool

/-- The DNS name that an event is about, the new one of an update. -/
def Event.dnsName? : Event → Option String
  | .added r => some r.name
  | .updated _ new => some new.name
  | .deleted r => some r.name
  | .malformed .. => none

namespace Observer

def IsSteady (o : Observer) : Prop :=
  ∀ shown next, o.breaksAt shown next = false

def silent : Observer := ⟨false, fun _ _ => false⟩

def recording : Observer := ⟨true, fun _ _ => false⟩

/-- A log that breaks down at every event about this DNS name. -/
def failingAt (name : String) : Observer :=
  ⟨true, fun _ next => next.event.dnsName? = some name⟩

theorem isSteady_silent : silent.IsSteady := fun _ _ => rfl

theorem isSteady_recording : recording.IsSteady := fun _ _ => rfl

end Observer

structure Synchronizer where
  filter : NamespaceFilter := .all
  observer : Observer := .recording
  index : Index := {}
  metrics : Metrics := {}
  /-- All that the observer was shown. -/
  shown : List Observation := []
  /-- What the observer took a note of. -/
  observed : List Observation := []

namespace Synchronizer

/-- What the observer is shown of an event, with the index as the event leaves it. -/
def observation? (s : Synchronizer) (e : Event) : Option Observation :=
  let (index, outcome) := s.index.apply s.filter e
  if outcome.isReported then some ⟨e, outcome, index⟩ else none

theorem observation?_of_not_reported {s : Synchronizer} {e : Event}
    (h : (s.index.apply s.filter e).2.isReported = false) : s.observation? e = none := by
  simp [observation?, h]

def breaksOn (s : Synchronizer) (e : Event) : Bool :=
  (s.observation? e).any (s.observer.breaksAt s.shown)

def apply (s : Synchronizer) (e : Event) : Synchronizer × Outcome :=
  let (index, outcome) := s.index.apply s.filter e
  let seen := (s.observation? e).toList
  let observed :=
    if s.observer.takesNotes && !s.breaksOn e then s.observed ++ seen else s.observed
  let metrics := { s.metrics with events := s.metrics.events.bump e.kind outcome }
  ({ s with index, metrics, shown := s.shown ++ seen, observed }, outcome)

@[simp] theorem index_apply (s : Synchronizer) (e : Event) :
    (s.apply e).1.index = (s.index.apply s.filter e).1 := rfl

@[simp] theorem outcome_apply (s : Synchronizer) (e : Event) :
    (s.apply e).2 = (s.index.apply s.filter e).2 := rfl

@[simp] theorem filter_apply (s : Synchronizer) (e : Event) :
    (s.apply e).1.filter = s.filter := rfl

def handle (s : Synchronizer) (n : Notification) : Synchronizer × Option Outcome :=
  match n.event? with
  | none => (s, none)
  | some e =>
    let (s, outcome) := s.apply e
    (s, some outcome)

def publishSizes (s : Synchronizer) : Synchronizer :=
  { s with metrics := s.metrics.publishSizes s.index }

/-! ### Description -/

def braced (items : List String) : String :=
  "\x7b" ++ String.intercalate ", " items ++ "\x7d"

def part (name : String) (fields : List String) : String :=
  name ++ " \x7b " ++ String.intercalate ", " fields ++ " \x7d"

def describeNames (names : Dictionary Owners) : String :=
  braced (names.entries.map fun (name, owners) =>
    Text.quoted name ++ ": " ++
      braced (owners.entries.map fun (ns, object) => Text.quoted ns ++ ": " ++ Text.quoted object))

def describe (s : Synchronizer) : String :=
  let names (d : Dictionary Owners) := part "Mutex" ["data: " ++ describeNames d]
  let inner := part "DnsNameIndexInner"
    ["regular: " ++ names s.index.regular, "wildcard: " ++ names s.index.wildcard]
  part "Synchronizer" [
    "index: " ++ part "DnsNameIndex" ["inner: " ++ inner],
    "filter: " ++ part "NamespaceFilter"
      ["allowed: " ++ braced (s.filter.allowed.eraseDups.map Text.quoted)],
    ".."]

end Synchronizer

end NameOwners
