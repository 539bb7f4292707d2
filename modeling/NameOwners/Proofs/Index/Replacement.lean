import NameOwners.Proofs.Index.Update
import NameOwners.Synchronizer

/-!
An update is a deletion followed by an addition. When its halves differ it leaves what
the deletion of the old half and then the addition of the new one leave, and its
outcome is put together from theirs. When they are equal it does nothing at all. That
is what deletion and addition come to if the name has an owner, who either is back in
his place afterwards (`Index.claim_release`) or was never moved; a free name, however,
would be taken by the addition.
-/

namespace NameOwners

namespace Index

variable {i : Index} {p : Partition} {name ns object : String} {r : Registration}

/-- A release takes one owner away from a name, also if the name is forgotten with it. -/
theorem getD_owners?_release (h : i.owner? p name ns = some object) :
    ((i.release p name ns object).1.owners? p name).getD ∅ =
      ((i.owners? p name).getD ∅).erase ns := by
  rw [owners?_release, if_pos ⟨h, rfl, rfl⟩]
  split
  · rename_i hlast
    exact (Dictionary.isEmpty_iff_eq_empty.1 hlast).symm
  · rfl

/-- What an owner releases and claims again is as it was. -/
theorem claim_release (h : i.owner? p name ns = some object) :
    ((i.release p name ns object).1.claim p name ns object).1 = i := by
  obtain ⟨owners, howners, hobject⟩ := Option.bind_eq_some_iff.1 h
  have hfree : (i.release p name ns object).1.owner? p name ns = none := by
    rw [owner?_release, if_pos ⟨rfl, rfl, rfl, h⟩]
  refine ext_names fun q => Dictionary.ext_get? fun name' => ?_
  change owners? _ q name' = i.owners? q name'
  rw [owners?_claim]
  by_cases hname : q = p ∧ name' = name
  · obtain ⟨rfl, rfl⟩ := hname
    rw [if_pos ⟨hfree, rfl, rfl⟩, getD_owners?_release h, howners, Option.getD_some,
      Dictionary.insert_erase hobject]
  · rw [if_neg fun hcell => hname hcell.2, owners?_release, if_neg fun hcell => hname hcell.2]

/-- To release a registration and to claim it again changes nothing exactly if its name
has an owner. -/
theorem add_remove_eq_self_iff :
    ((i.remove r).1.add r).1 = i ↔
      ∃ object, i.owner? r.partition r.name r.ns = some object := by
  constructor
  · intro hsame
    obtain ⟨object, hafter⟩ := exists_owner?_add (i.remove r).1 r
    rw [hsame] at hafter
    exact ⟨object, hafter⟩
  · rintro ⟨object, howner⟩
    by_cases hown : object = r.object
    · subst hown
      exact claim_release howner
    · have hother : i.owner? r.partition r.name r.ns ≠ some r.object := by
        rw [howner]
        exact fun heq => hown (Option.some.inj heq)
      rw [remove_of_owner?_ne hother, add_of_owner? howner]

end Index

/-- In any state, an update within the tracked namespaces whose halves differ in whatever
they differ leaves the index that the deletion of its old half and then the addition of
its new half leave. It is applied if one of these two is, and else it has the outcome of
the addition. An update whose halves are equal leaves the index alone and is answered as
unchanged; it leaves what deletion and addition leave exactly if some object of the
namespace owned the name already. -/
theorem Synchronizer.update_is_deletion_then_addition (s : Synchronizer) (old new : Registration)
    (hold : s.filter.inScope old.ns = true) (hnew : s.filter.inScope new.ns = true) :
    let updated := s.apply (.updated old new)
    let deleted := s.apply (.deleted old)
    let added := deleted.1.apply (.added new)
    (old ≠ new → updated.1.index = added.1.index ∧
      updated.2 = if deleted.2 = .applied ∨ added.2 = .applied then .applied else added.2) ∧
    (old = new → updated.1.index = s.index ∧ updated.2 = .unchanged ∧
      (updated.1.index = added.1.index ↔
        ∃ object, s.index.owner? new.partition new.name new.ns = some object)) := by
  intro updated deleted added
  simp only [updated, deleted, added, index_apply, outcome_apply, filter_apply, Index.apply, hold,
    hnew, and_self, if_true]
  constructor
  · intro hne
    rw [Index.replace_of_ne s.index hne]
    refine ⟨rfl, ?_⟩
    by_cases hremoved : (s.index.remove old).2 = .applied
    · simp [hremoved]
    · by_cases hadded : ((s.index.remove old).1.add new).2 = .applied
      · simp [hadded]
      · simp [hremoved, hadded]
  · rintro rfl
    rw [Index.replace_self]
    exact ⟨rfl, rfl, eq_comm.trans Index.add_remove_eq_self_iff⟩

/-- An object turns into one of another namespace that wants a name which is taken there.
The update is applied although its addition is refused, because the old name is given
up. An update without a difference for a name that nobody owns does not take it. -/
theorem Synchronizer.update_is_deletion_then_addition_of_taken_name :
    let old : Registration := ⟨"a", "x", "www"⟩
    let new : Registration := ⟨"b", "z", "*.www"⟩
    let free : Registration := ⟨"a", "x", "free"⟩
    let s : Synchronizer :=
      { filter := ⟨["a", "b"]⟩, index := ((({} : Index).add old).1.add ⟨"b", "y", "*.www"⟩).1 }
    let both (old new : Registration) := (s.apply (.deleted old)).1.apply (.added new)
    (s.apply (.updated old new)).1.index = (both old new).1.index ∧
    (s.apply (.updated old new)).2 = .applied ∧ (both old new).2 = .conflict ∧
    (s.apply (.updated free free)).2 = .unchanged ∧
    (s.apply (.updated free free)).1.index ≠ (both free free).1.index := by
  intro old new free s both
  obtain ⟨hdiffer, -⟩ := update_is_deletion_then_addition s old new (by decide) (by decide)
  obtain ⟨hindex, houtcome⟩ := hdiffer (by decide)
  obtain ⟨-, hequal⟩ := update_is_deletion_then_addition s free free (by decide) (by decide)
  obtain ⟨-, hunchanged, howned⟩ := hequal rfl
  have hnobody : s.index.owner? free.partition free.name free.ns = none := by decide +kernel
  have happlied : (s.apply (.updated old new)).2 = .applied := by
    rw [houtcome]
    exact if_pos (.inl (by decide +kernel))
  refine ⟨hindex, happlied, by decide +kernel, hunchanged, fun hsame => ?_⟩
  obtain ⟨object, howner⟩ := howned.1 hsame
  rw [hnobody] at howner
  cases howner

end NameOwners
