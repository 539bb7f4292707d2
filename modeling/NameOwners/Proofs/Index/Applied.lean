import NameOwners.Index.Snapshot
import NameOwners.Proofs.Index.Update
import NameOwners.Synchronizer

/-!
Applied means changed. A claim or a release changes the index exactly if it is
applied, and so does an update: the name that its old half gives up does not come
back with its new half, because the two halves differ. The outcome of an event
therefore tells whether the index is still the same
(`Synchronizer.applied_iff_snapshot_changes`).
-/

namespace NameOwners

namespace Index

variable {f : NamespaceFilter} {i : Index}

theorem add_eq_self_iff {r : Registration} : (i.add r).1 = i ↔ (i.add r).2 ≠ .applied := by
  cases howner : i.owner? r.partition r.name r.ns with
  | none =>
      have happlied : (i.add r).2 = .applied := by rw [outcome_add, howner]
      refine iff_of_false (fun hsame => ?_) (fun hne => hne happlied)
      obtain ⟨object, hafter⟩ := exists_owner?_add i r
      rw [hsame, howner] at hafter
      cases hafter
  | some owner =>
      refine iff_of_true ?_ ?_
      · rw [add_of_owner? howner]
      · rw [add_of_owner? howner]
        dsimp only
        split <;> decide

theorem remove_eq_self_iff {r : Registration} :
    (i.remove r).1 = i ↔ (i.remove r).2 ≠ .applied := by
  by_cases howner : i.owner? r.partition r.name r.ns = some r.object
  · have happlied : (i.remove r).2 = .applied := by rw [outcome_remove, if_pos howner]
    refine iff_of_false (fun hsame => ?_) (fun hne => hne happlied)
    rw [← hsame] at howner
    exact owner?_remove_ne i r howner
  · rw [remove_of_owner?_ne howner]
    exact iff_of_true rfl nofun

theorem replace_eq_self_iff {old new : Registration} :
    (i.replace old new).1 = i ↔ (i.replace old new).2 ≠ .applied := by
  by_cases heq : old = new
  · rw [heq, replace_self]
    exact iff_of_true rfl nofun
  · rw [replace_of_ne i heq]
    by_cases happlied : (i.remove old).2 = .applied
    · -- What the old half has changed, the new half does not undo.
      refine iff_of_false (fun hsame => ?_) (fun hne => hne (if_pos happlied))
      have howner : i.owner? old.partition old.name old.ns = some old.object := by
        rw [outcome_remove] at happlied
        split at happlied
        · assumption
        · cases happlied
      dsimp only at hsame
      rw [← hsame] at howner
      exact owner?_add_remove_ne i heq howner
    · have hsame := remove_eq_self_iff.2 happlied
      dsimp only
      rw [if_neg happlied, hsame]
      exact add_eq_self_iff

/-- An event changes the index exactly if it is applied. -/
theorem apply_eq_self_iff {e : Event} : (i.apply f e).1 = i ↔ (i.apply f e).2 ≠ .applied := by
  cases e with
  | malformed kind cause object => exact iff_of_true rfl nofun
  | added r =>
      rw [apply]
      split
      · exact add_eq_self_iff
      · exact iff_of_true rfl nofun
  | deleted r =>
      rw [apply]
      split
      · exact remove_eq_self_iff
      · exact iff_of_true rfl nofun
  | updated old new =>
      rw [apply]
      split
      · exact replace_eq_self_iff
      · exact iff_of_true rfl nofun

/-- A notification that is not applied leaves the index as it was. -/
theorem handle_eq_of_ne_applied {n : Notification} (h : (i.handle f n).2 ≠ some .applied) :
    (i.handle f n).1 = i := by
  unfold handle at h ⊢
  cases he : n.event? with
  | none => rfl
  | some e =>
      simp only [he] at h ⊢
      exact apply_eq_self_iff.2 fun houtcome => h (congrArg some houtcome)

end Index

/-- In any state and with any filter, an event is applied exactly if the snapshot of
the index afterwards differs from the one before; also an update whose halves are
about different objects or namespaces. With every other outcome both partitions are
exactly as they were. -/
theorem Synchronizer.applied_iff_snapshot_changes (s : Synchronizer) (e : Event) :
    ((s.apply e).2 = .applied ↔ (s.apply e).1.index.snapshot ≠ s.index.snapshot) ∧
    ((s.apply e).2 ≠ .applied → ∀ p, (s.apply e).1.index.names p = s.index.names p) := by
  rw [Synchronizer.index_apply, Synchronizer.outcome_apply]
  refine ⟨?_, fun hne p => by rw [Index.apply_eq_self_iff.2 hne]⟩
  rw [ne_eq, Index.snapshot_inj, Index.apply_eq_self_iff, ne_eq, Decidable.not_not]

end NameOwners
