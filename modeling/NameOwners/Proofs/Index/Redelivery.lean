import NameOwners.Proofs.Index.Applied
import NameOwners.Proofs.Run

/-!
Redelivery is idempotent. Right after an event the index is in a state in which the
same event finds nothing to do: what it releases is not owned by the object that
releases it, and what it claims has an owner (`Index.apply_again_ne_applied`). As only
what is applied changes the index, copies of a notification that follow each other do
what one of them does, and so do copies throughout a run.
-/

namespace NameOwners

namespace Index

variable (f : NamespaceFilter) (i : Index)

/-- A claim that is made again finds that the name has an owner. -/
theorem add_again_ne_applied (r : Registration) : ((i.add r).1.add r).2 ≠ .applied := by
  obtain ⟨object, howner⟩ := exists_owner?_add i r
  rw [add_of_owner? howner]
  dsimp only
  split <;> decide

/-- A release that is made again finds that the object does not own the name. -/
theorem remove_again_ne_applied (r : Registration) : ((i.remove r).1.remove r).2 ≠ .applied := by
  rw [remove_of_owner?_ne (owner?_remove_ne i r)]
  exact nofun

/-- An update that is made again has nothing to release and finds that the new name has
an owner, be it the new object or another one. -/
theorem replace_again_ne_applied (old new : Registration) :
    ((i.replace old new).1.replace old new).2 ≠ .applied := by
  by_cases heq : old = new
  · rw [heq, replace_self]
    exact nofun
  · have hreleased := remove_of_owner?_ne (owner?_add_remove_ne i heq)
    rw [replace_of_ne i heq]
    dsimp only
    rw [replace_of_ne _ heq, hreleased]
    exact add_again_ne_applied _ new

theorem apply_again_ne_applied (e : Event) : ((i.apply f e).1.apply f e).2 ≠ .applied := by
  cases e with
  | malformed kind cause object => exact nofun
  | added r =>
      by_cases hs : f.inScope r.ns = true
      · simp only [apply, hs, if_true]
        exact add_again_ne_applied i r
      · simp [apply, hs]
  | deleted r =>
      by_cases hs : f.inScope r.ns = true
      · simp only [apply, hs, if_true]
        exact remove_again_ne_applied i r
      · simp [apply, hs]
  | updated old new =>
      by_cases hs : f.inScope old.ns = true ∧ f.inScope new.ns = true
      · simp only [apply, if_pos hs]
        exact replace_again_ne_applied i old new
      · simp [apply, hs]

/-- A notification that is handled again leaves the index as it is. -/
theorem handle_again_eq (n : Notification) :
    ((i.handle f n).1.handle f n).1 = (i.handle f n).1 := by
  unfold handle
  cases n.event? with
  | none => rfl
  | some e => exact apply_eq_self_iff.2 (apply_again_ne_applied f i e)

/-- Copies of a notification that follow each other do what one of them does. -/
theorem handleAll_replicate (n : Notification) (k : Nat) :
    i.handleAll f (List.replicate (k + 1) n) = (i.handle f n).1 := by
  induction k with
  | zero => rfl
  | succ k ih =>
      rw [List.replicate_succ', handleAll_append, ih, handleAll_cons, handleAll_nil,
        handle_again_eq]

/-- A run in which every notification stands with further copies right behind it does what
the run without the copies does. -/
theorem handleAll_copies (run : List (Notification × Nat)) :
    i.handleAll f (run.flatMap fun a => List.replicate (a.2 + 1) a.1) =
      i.handleAll f (run.map Prod.fst) := by
  induction run generalizing i with
  | nil => rfl
  | cons a run ih =>
      rw [List.flatMap_cons, handleAll_append, handleAll_replicate, ih, List.map_cons,
        handleAll_cons]

end Index

/-- In any state and with any filter, an event that is applied a second time right after
the first leaves the index exactly as it was after the first time, and this second time
its outcome is never that it was applied; also an update with any two halves. Hence a run
in which every notification stands with any number of further copies right behind it ends
with the same snapshot. -/
theorem Synchronizer.redelivery_changes_nothing (s : Synchronizer) :
    (∀ e, ((s.apply e).1.apply e).1.index = (s.apply e).1.index ∧
      ((s.apply e).1.apply e).2 ≠ .applied) ∧
    ∀ run : List (Notification × Nat),
      (s.handleAll (run.flatMap fun a => List.replicate (a.2 + 1) a.1)).index.snapshot =
        (s.handleAll (run.map Prod.fst)).index.snapshot := by
  constructor
  · intro e
    have hagain := Index.apply_again_ne_applied s.filter s.index e
    exact ⟨Index.apply_eq_self_iff.2 hagain, hagain⟩
  · intro run
    rw [index_handleAll, index_handleAll, Index.handleAll_copies]

end NameOwners
