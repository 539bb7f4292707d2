import NameOwners.Registration

/-!
What a watch delivers, and what is made of it. A notification carries JSON objects that nobody has
looked at; `Notification.event?` validates them and gives the event, which is malformed when an
object is no registration or an update changes the identity of its object.
-/

namespace NameOwners

inductive Notification where
  /-- An object was created or is listed again. -/
  | added (object : Json)
  /-- An object changed. -/
  | updated (old new : Json)
  /-- An object was deleted. -/
  | deleted (object : Json)
  /-- All objects that exist have been listed. -/
  | synced

inductive EventKind where
  | added
  | updated
  | deleted
deriving DecidableEq, Repr

def EventKind.label : EventKind → String
  | .added => "added"
  | .updated => "updated"
  | .deleted => "deleted"

inductive EventError where
  /-- An object is no registration. -/
  | object (cause : RegistrationError)
  /-- The new state is that of another object than the old one. -/
  | identity (old new : Registration)

def EventError.message : EventError → String
  | .object cause => cause.message
  | .identity old new =>
    "object identity changed from " ++ old.ns ++ "/" ++ old.object ++ " to " ++ new.ns ++ "/" ++
      new.object

/-- A notification after validation. -/
inductive Event where
  | added (r : Registration)
  | updated (old new : Registration)
  | deleted (r : Registration)
  | malformed (kind : EventKind) (cause : EventError) (object : Json)

def Event.kind : Event → EventKind
  | added _ => .added
  | updated .. => .updated
  | deleted _ => .deleted
  | malformed kind .. => kind

namespace Notification

def eventOf (kind : EventKind) (make : Registration → Event) (object : Json) : Event :=
  match Registration.ofJson object with
  | .ok r => make r
  | .error cause => .malformed kind (.object cause) object

/-- An event about two states of an object. The old state is looked at first, and both must be
states of the same object of the same namespace. -/
def updateOf (old new : Json) : Event :=
  match Registration.ofJson old with
  | .error cause => .malformed .updated (.object cause) old
  | .ok r =>
    match Registration.ofJson new with
    | .error cause => .malformed .updated (.object cause) new
    | .ok s =>
      if r.ns = s.ns ∧ r.object = s.object then .updated r s
      else .malformed .updated (.identity r s) s.toJson

/-- The event that a notification stands for; the end of a listing stands for none. -/
def event? : Notification → Option Event
  | added object => some (eventOf .added .added object)
  | updated old new => some (updateOf old new)
  | deleted object => some (eventOf .deleted .deleted object)
  | synced => none

theorem event?_eq_none_iff {n : Notification} : n.event? = none ↔ n = .synced := by
  cases n <;> simp [event?]

def ofAdded (r : Registration) : Notification :=
  added r.toJson

def ofUpdated (old new : Registration) : Notification :=
  updated old.toJson new.toJson

def ofDeleted (r : Registration) : Notification :=
  deleted r.toJson

def isSynced : Notification → Bool
  | synced => true
  | _ => false

end Notification

end NameOwners
