import NameOwners.Index.Basic
import NameOwners.NamespaceFilter
import NameOwners.Notification.Basic

/-!
What an event does to the index. A new registration claims its name, a deleted one releases it, and
a changed one does both in this order: release, then claim. Events outside of the tracked
namespaces and malformed ones do nothing.
-/

namespace NameOwners

inductive Outcome where
  /-- The index changed. -/
  | applied
  /-- The index was as the event wants it. -/
  | unchanged
  /-- Another object of the namespace keeps the name. -/
  | conflict
  /-- The object did not own the name that it gives up. -/
  | stale
  /-- A namespace of the event is not tracked. -/
  | filtered
  | malformed
deriving DecidableEq, Repr

namespace Outcome

def all : List Outcome := [applied, unchanged, conflict, stale, filtered, malformed]

def label : Outcome → String
  | applied => "applied"
  | unchanged => "unchanged"
  | conflict => "conflict"
  | stale => "stale"
  | filtered => "filtered"
  | malformed => "malformed"

/-- Whether an event with this outcome was looked at by the index, and is shown to observers. -/
def isReported : Outcome → Bool
  | filtered => false
  | malformed => false
  | _ => true

end Outcome

def Claim.outcome : Claim → Outcome
  | .inserted => .applied
  | .unchanged => .unchanged
  | .conflict _ => .conflict

def Release.outcome : Release → Outcome
  | .removed => .applied
  | .notOwner => .stale
  | .absent => .stale

namespace Index

def add (i : Index) (r : Registration) : Index × Outcome :=
  let (j, result) := i.claim r.partition r.name r.ns r.object
  (j, result.outcome)

def remove (i : Index) (r : Registration) : Index × Outcome :=
  let (j, result) := i.release r.partition r.name r.ns r.object
  (j, result.outcome)

/-- Release the old registration and claim the new one, if they differ. -/
def replace (i : Index) (old new : Registration) : Index × Outcome :=
  if old = new then (i, .unchanged)
  else
    let (j, removed) := i.remove old
    let (k, added) := j.add new
    -- Either half is a change, also if the other comes to nothing.
    (k, if removed = .applied then .applied else added)

def apply (f : NamespaceFilter) (i : Index) : Event → Index × Outcome
  | .malformed .. => (i, .malformed)
  | .added r => if f.inScope r.ns then i.add r else (i, .filtered)
  | .deleted r => if f.inScope r.ns then i.remove r else (i, .filtered)
  | .updated old new =>
    if f.inScope old.ns ∧ f.inScope new.ns then i.replace old new else (i, .filtered)

/-- What a notification does to the index; the end of a listing has no outcome. -/
def handle (f : NamespaceFilter) (i : Index) (n : Notification) : Index × Option Outcome :=
  match n.event? with
  | none => (i, none)
  | some e =>
    let (j, outcome) := i.apply f e
    (j, some outcome)

def handleAll (f : NamespaceFilter) (i : Index) (ns : List Notification) : Index :=
  ns.foldl (fun i n => (i.handle f n).1) i

@[simp] theorem handleAll_nil (f : NamespaceFilter) (i : Index) : i.handleAll f [] = i := rfl

@[simp] theorem handleAll_cons (f : NamespaceFilter) (i : Index) (n : Notification)
    (ns : List Notification) : i.handleAll f (n :: ns) = (i.handle f n).1.handleAll f ns := rfl

theorem handleAll_append (f : NamespaceFilter) (i : Index) (ms ns : List Notification) :
    i.handleAll f (ms ++ ns) = (i.handleAll f ms).handleAll f ns :=
  List.foldl_append

end Index

end NameOwners
