import NameOwners.Notification.Basic

/-!
What validation promises of the events that pass it. Later modules never look
at JSON: of a well-formed event they use that no text in it is empty, and of an
update that both halves are about one object.
-/

namespace NameOwners

structure Registration.IsComplete (r : Registration) : Prop where
  ns : r.ns ≠ ""
  object : r.object ≠ ""
  name : r.name ≠ ""

theorem Registration.emptyField?_eq_none_iff {r : Registration} :
    r.emptyField? = none ↔ r.IsComplete := by
  constructor
  · intro h
    unfold emptyField? at h
    split at h
    · cases h
    · rename_i hns
      split at h
      · cases h
      · rename_i hobject
        split at h
        · cases h
        · rename_i hname
          exact ⟨hns, hobject, hname⟩
  · rintro ⟨hns, hobject, hname⟩
    rw [emptyField?, if_neg hns, if_neg hobject, if_neg hname]

/-- A value is accepted if it can be taken apart and no text in it is empty. -/
theorem Registration.ofJson_eq_ok_iff_decode {v : Json} {r : Registration} :
    Registration.ofJson v = .ok r ↔ decode v = .ok r ∧ r.IsComplete := by
  constructor
  · intro h
    unfold Registration.ofJson at h
    split at h
    · cases h
    · rename_i s hdecode
      split at h
      · cases h
      · rename_i hempty
        obtain rfl := Except.ok.inj h
        exact ⟨hdecode, emptyField?_eq_none_iff.1 hempty⟩
  · rintro ⟨hdecode, hcomplete⟩
    rw [ofJson, hdecode]
    simp only [emptyField?_eq_none_iff.2 hcomplete]

theorem Registration.isComplete_of_ofJson {v : Json} {r : Registration}
    (h : Registration.ofJson v = .ok r) : r.IsComplete :=
  (ofJson_eq_ok_iff_decode.1 h).2

/-- A complete registration is read back from the object that it is written as. -/
theorem Registration.ofJson_toJson {r : Registration} (h : r.IsComplete) :
    Registration.ofJson r.toJson = .ok r :=
  ofJson_eq_ok_iff_decode.2 ⟨rfl, h⟩

def Event.IsValid : Event → Prop
  | .added r => r.IsComplete
  | .updated old new =>
    old.IsComplete ∧ new.IsComplete ∧ old.ns = new.ns ∧ old.object = new.object
  | .deleted r => r.IsComplete
  | .malformed .. => True

namespace Notification

theorem isValid_eventOf {kind : EventKind} {make : Registration → Event} {object : Json}
    (hmake : ∀ r : Registration, r.IsComplete → (make r).IsValid) :
    (eventOf kind make object).IsValid := by
  unfold eventOf
  split
  · rename_i r hr
    exact hmake r (Registration.isComplete_of_ofJson hr)
  · trivial

theorem isValid_updateOf (old new : Json) : (updateOf old new).IsValid := by
  unfold updateOf
  split
  · trivial
  · rename_i r hr
    split
    · trivial
    · rename_i s hs
      split
      · rename_i hid
        exact ⟨Registration.isComplete_of_ofJson hr, Registration.isComplete_of_ofJson hs,
          hid.1, hid.2⟩
      · trivial

/-- Every event that a notification stands for is valid. -/
theorem isValid_of_event? {n : Notification} {e : Event} (h : n.event? = some e) : e.IsValid := by
  cases n with
  | added object =>
      cases h
      exact isValid_eventOf fun r hr => hr
  | updated old new =>
      cases h
      exact isValid_updateOf old new
  | deleted object =>
      cases h
      exact isValid_eventOf fun r hr => hr
  | synced => cases h

end Notification

end NameOwners
