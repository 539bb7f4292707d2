import NameOwners.Proofs.Index.Update
import NameOwners.Proofs.Validation

/-!
Invariants of an index under events. Whatever an event does, it does by a release, a
claim, or both in this order. So a property of indexes that releases keep is kept by
every notification that claims nothing, and by one that claims something if the claim
keeps it (`handle_keeps`).
-/

namespace NameOwners

/-- The registration that an event claims, the new one of an update. -/
def Event.claim? : Event → Option Registration
  | .added r => some r
  | .updated _ new => some new
  | _ => none

def Notification.claim? (n : Notification) : Option Registration :=
  n.event?.bind Event.claim?

/-- What is claimed has passed validation. -/
theorem Notification.isComplete_of_claim? {n : Notification} {r : Registration}
    (h : n.claim? = some r) : r.IsComplete := by
  obtain ⟨e, he, hclaim⟩ := Option.bind_eq_some_iff.1 h
  have hvalid := isValid_of_event? he
  cases e with
  | added s =>
      cases hclaim
      exact hvalid
  | updated old new =>
      cases hclaim
      exact hvalid.2.1
  | deleted s => cases hclaim
  | malformed kind cause object => cases hclaim

namespace Index

variable {P : Index → Prop} {f : NamespaceFilter} {i : Index}

theorem replace_keeps (hremove : ∀ i r, P i → P (i.remove r).1) {old new : Registration}
    (hadd : ∀ i, P i → P (i.add new).1) (h : P i) : P (i.replace old new).1 := by
  by_cases heq : old = new
  · rw [heq, replace_self]
    exact h
  · rw [replace_of_ne i heq]
    exact hadd _ (hremove i old h)

theorem apply_keeps (hremove : ∀ i r, P i → P (i.remove r).1) {e : Event}
    (hadd : ∀ i r, e.claim? = some r → f.inScope r.ns = true → P i → P (i.add r).1) (h : P i) :
    P (i.apply f e).1 := by
  cases e with
  | malformed kind cause object => exact h
  | added r =>
      rw [apply]
      split
      · rename_i hs
        exact hadd i r rfl hs h
      · exact h
  | deleted r =>
      rw [apply]
      split
      · exact hremove i r h
      · exact h
  | updated old new =>
      rw [apply]
      split
      · rename_i hs
        exact replace_keeps hremove (fun j => hadd j new rfl hs.2) h
      · exact h

/-- What every release keeps is kept by a notification, provided that it is kept by the
claim that the notification makes. -/
theorem handle_keeps (hremove : ∀ i r, P i → P (i.remove r).1) {n : Notification}
    (hadd : ∀ i r, n.claim? = some r → f.inScope r.ns = true → P i → P (i.add r).1) (h : P i) :
    P (i.handle f n).1 := by
  unfold handle
  cases he : n.event? with
  | none => exact h
  | some e =>
      refine apply_keeps hremove (fun j r hclaim => hadd j r ?_) h
      rw [Notification.claim?, he]
      exact hclaim

end Index

end NameOwners
