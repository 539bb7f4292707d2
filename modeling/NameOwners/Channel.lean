import NameOwners.Notification.Basic

/-!
Where notifications come from. A channel keeps what was sent in order, split into what its receiver
has taken and what still waits; a source hands out the receiving end to the first who watches it,
or to nobody.
-/

namespace NameOwners

structure Channel where
  /-- What was taken, in order. -/
  delivered : List Notification := []
  /-- What was sent and not yet taken, in order. -/
  queued : List Notification := []
  /-- Whether more may be sent. -/
  isOpen : Bool := true

namespace Channel

def sent (c : Channel) : List Notification :=
  c.delivered ++ c.queued

def push (c : Channel) (n : Notification) : Channel :=
  { c with queued := c.queued ++ [n] }

def close (c : Channel) : Channel :=
  { c with isOpen := false }

/-- Take the first notification that waits, if there is one. -/
def pop? (c : Channel) : Option (Notification × Channel) :=
  match c.queued with
  | [] => none
  | n :: rest => some (n, { c with delivered := c.delivered ++ [n], queued := rest })

@[simp] theorem sent_push (c : Channel) (n : Notification) : (c.push n).sent = c.sent ++ [n] := by
  simp [sent, push]

@[simp] theorem sent_close (c : Channel) : c.close.sent = c.sent := rfl

theorem sent_pop {c d : Channel} {n : Notification} (h : c.pop? = some (n, d)) :
    d.sent = c.sent := by
  obtain ⟨delivered, queued, isOpen⟩ := c
  cases queued with
  | nil => simp [pop?] at h
  | cons m rest =>
    simp only [pop?, Option.some.injEq, Prod.mk.injEq] at h
    obtain ⟨-, rfl⟩ := h
    simp [sent]

end Channel

inductive SourceError where
  | alreadyWatched
  | unavailable (reason : String)
deriving DecidableEq, Repr

def SourceError.message : SourceError → String
  | .alreadyWatched => "channel source is already being watched"
  | .unavailable reason => reason

inductive Source.Status where
  /-- A channel that nobody watches yet. -/
  | ready
  | watched
  /-- Nothing that can be watched. -/
  | failing (reason : String)
deriving DecidableEq, Repr

structure Source where
  status : Source.Status := .ready
  /-- How often watchers wanted to see everything again, in milliseconds, one entry a request. -/
  asked : List Nat := []
deriving DecidableEq, Repr

/-- Ask to watch the source and to see everything again once in a period. -/
def Source.watch (s : Source) (period : Nat) : Source × Except SourceError Unit :=
  let asked := s.asked ++ [period]
  match s.status with
  | .ready => (⟨.watched, asked⟩, .ok ())
  | .watched => (⟨.watched, asked⟩, .error .alreadyWatched)
  | .failing reason => (⟨.failing reason, asked⟩, .error (.unavailable reason))

end NameOwners
