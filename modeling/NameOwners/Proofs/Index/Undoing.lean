import NameOwners.Proofs.Index.Replacement

/-!
A claim that succeeds and the release of what it claimed undo each other. The release
gives back what the claim has taken, and with the last owner it forgets a name that was
not there before. So only an entry without owners could tell the difference, and it
would: a claim and its release restore an index exactly if the name had no such entry
(`release_claim_eq_self_iff`). Claims and releases never leave one (`AllOwned`), and
those that do not succeed change nothing at all.
-/

namespace NameOwners.Index

/-- Every name that is stored has an owner. -/
def AllOwned (i : Index) : Prop :=
  ∀ p name owners, i.owners? p name = some owners → owners.isEmpty = false

variable {i : Index} {p : Partition} {name ns object : String}

/-! ### What a claim and a release are answered -/

theorem claim_eq_inserted_iff :
    (i.claim p name ns object).2 = .inserted ↔ i.owner? p name ns = none := by
  unfold claim
  cases i.owner? p name ns with
  | none => simp
  | some owner => by_cases hown : owner = object <;> simp [hown]

theorem claim_eq_conflict_iff {owner : String} :
    (i.claim p name ns object).2 = .conflict owner ↔
      i.owner? p name ns = some owner ∧ owner ≠ object := by
  unfold claim
  cases i.owner? p name ns with
  | none => simp
  | some holder =>
      by_cases hown : holder = object
      · subst hown
        simp [eq_comm]
      · simp only [if_neg hown, Claim.conflict.injEq, Option.some.injEq]
        exact ⟨fun heq => ⟨heq, heq ▸ hown⟩, And.left⟩

theorem release_eq_removed_iff :
    (i.release p name ns object).2 = .removed ↔ i.owner? p name ns = some object := by
  unfold release owner?
  cases i.owners? p name with
  | none => simp
  | some owners => by_cases hown : owners.get? ns = some object <;> simp [hown]

/-- A release finds the name missing exactly if it is not stored, whoever asks. -/
theorem release_eq_absent_iff :
    (i.release p name ns object).2 = .absent ↔ name ∉ (i.names p).keys := by
  rw [Dictionary.mem_keys_iff]
  unfold release owners?
  cases (i.names p).get? name with
  | none => simp
  | some owners => by_cases hown : owners.get? ns = some object <;> simp [hown]

theorem claim_of_not_isMutation (h : (i.claim p name ns object).2.isMutation = false) :
    (i.claim p name ns object).1 = i := by
  unfold claim at h ⊢
  cases howner : i.owner? p name ns with
  | none =>
      rw [howner] at h
      cases h
  | some owner => rfl

theorem release_of_not_isMutation (h : (i.release p name ns object).2.isMutation = false) :
    (i.release p name ns object).1 = i := by
  unfold release at h ⊢
  cases howners : i.owners? p name with
  | none => rfl
  | some owners =>
      by_cases hown : owners.get? ns = some object
      · simp only [howners, hown, if_true] at h
        cases h
      · simp only [hown, if_false]

/-! ### Names without owners -/

theorem allOwned_empty : ({} : Index).AllOwned := by
  rintro (_ | _) name owners h <;> cases h

theorem AllOwned.claim (h : i.AllOwned) (p : Partition) (name ns object : String) :
    (i.claim p name ns object).1.AllOwned := by
  intro q name' owners howners
  rw [owners?_claim] at howners
  split at howners
  · cases howners
    exact Dictionary.isEmpty_eq_false_iff.2 ⟨ns, object, by simp⟩
  · exact h q name' owners howners

theorem AllOwned.release (h : i.AllOwned) (p : Partition) (name ns object : String) :
    (i.release p name ns object).1.AllOwned := by
  intro q name' owners howners
  rw [owners?_release] at howners
  split at howners
  · split at howners
    · cases howners
    · rename_i hleft
      cases howners
      exact Bool.not_eq_true _ ▸ hleft
  · exact h q name' owners howners

/-! ### Back and forth -/

/-- Whoever claims a free name and releases it again leaves its owners as they were; but
of a name without owners nothing is left, whether it was stored or not. -/
theorem owners?_release_claim (h : i.owner? p name ns = none) (q : Partition) (name' : String) :
    ((i.claim p name ns object).1.release p name ns object).1.owners? q name' =
      if q = p ∧ name' = name ∧ ((i.owners? p name).getD ∅).isEmpty = true then none
      else i.owners? q name' := by
  have hfree : ((i.owners? p name).getD ∅).get? ns = none := by
    rw [owner?] at h
    cases howners : i.owners? p name with
    | none => rfl
    | some owners =>
        rw [howners] at h
        exact h
  have hclaimed : (i.claim p name ns object).1.owner? p name ns = some object := by
    rw [owner?_claim, if_pos ⟨rfl, rfl, rfl⟩, h, Option.getD_none]
  rw [owners?_release]
  by_cases hname : q = p ∧ name' = name
  · obtain ⟨rfl, rfl⟩ := hname
    have howners : (i.claim q name' ns object).1.owners? q name' =
        some (((i.owners? q name').getD ∅).insert ns object) := by
      rw [owners?_claim, if_pos ⟨h, rfl, rfl⟩]
    rw [if_pos ⟨hclaimed, rfl, rfl⟩, howners, Option.getD_some, Dictionary.erase_insert hfree]
    simp only [true_and]
    split
    · rfl
    · rename_i howned
      cases hbefore : i.owners? q name' with
      | none => exact absurd (by rw [hbefore]; rfl) howned
      | some owners => rfl
  · rw [if_neg fun hcell => hname hcell.2, owners?_claim, if_neg fun hcell => hname hcell.2,
      if_neg fun hcell => hname ⟨hcell.1, hcell.2.1⟩]

/-- A claim of a free name and its release restore the index exactly if the name was not
stored without owners. -/
theorem release_claim_eq_self_iff (h : i.owner? p name ns = none) :
    ((i.claim p name ns object).1.release p name ns object).1 = i ↔
      i.owners? p name ≠ some ∅ := by
  constructor
  · intro hsame hempty
    have hafter : i.owners? p name = none := by
      rw [← hsame, owners?_release_claim h, hempty]
      exact if_pos ⟨rfl, rfl, rfl⟩
    rw [hempty] at hafter
    cases hafter
  · intro howned
    refine ext_names fun q => Dictionary.ext_get? fun name' => ?_
    change owners? _ q name' = i.owners? q name'
    rw [owners?_release_claim h]
    split
    · rename_i hlast
      obtain ⟨rfl, rfl, hnobody⟩ := hlast
      cases howners : i.owners? q name' with
      | none => rfl
      | some owners =>
          rw [howners] at hnobody howned
          exact absurd (congrArg some (Dictionary.isEmpty_iff_eq_empty.1 hnobody)) howned
    · rfl

/-- In every index in which each stored name has an owner, for every partition, name,
namespace and object, whether or not the name belongs into the partition. A claim that
inserts is undone by the release of the same, which removes, and a release that removes
is undone by the claim of the same, which inserts: both partitions hold exactly what
they held before, and the name is stored if it was. Without a mutation both partitions
stay as they are. A conflict names the other object that owns the name in this
namespace, and a release finds the name absent exactly if the partition does not store
it. Whatever happens, each stored name still has an owner. -/
theorem claim_and_release_undo_each_other (i : Index) (h : i.AllOwned) (p : Partition)
    (name ns object : String) :
    let claimed := i.claim p name ns object
    let released := i.release p name ns object
    (claimed.2 = .inserted → claimed.1.release p name ns object = (i, .removed)) ∧
    (released.2 = .removed → released.1.claim p name ns object = (i, .inserted)) ∧
    (claimed.2.isMutation = false → claimed.1 = i) ∧
    (released.2.isMutation = false → released.1 = i) ∧
    (∀ owner, claimed.2 = .conflict owner ↔ i.owner? p name ns = some owner ∧ owner ≠ object) ∧
    (released.2 = .absent ↔ name ∉ (i.names p).keys) ∧
    claimed.1.AllOwned ∧ released.1.AllOwned := by
  intro claimed released
  refine ⟨fun hinserted => ?_, fun hremoved => ?_, claim_of_not_isMutation,
    release_of_not_isMutation, fun owner => claim_eq_conflict_iff, release_eq_absent_iff,
    h.claim p name ns object, h.release p name ns object⟩
  · have hfree := claim_eq_inserted_iff.1 hinserted
    have hclaimed : claimed.1.owner? p name ns = some object := by
      rw [owner?_claim, if_pos ⟨rfl, rfl, rfl⟩, hfree, Option.getD_none]
    have howned : i.owners? p name ≠ some ∅ := fun hempty => nomatch h p name ∅ hempty
    exact Prod.ext ((release_claim_eq_self_iff hfree).2 howned) (release_eq_removed_iff.2 hclaimed)
  · have howner := release_eq_removed_iff.1 hremoved
    have hreleased : released.1.owner? p name ns = none := by
      rw [owner?_release, if_pos ⟨rfl, rfl, rfl, howner⟩]
    exact Prod.ext (claim_release howner) (claim_eq_inserted_iff.2 hreleased)

/-- A name is shared with another namespace, and a pattern has a single owner. The claim
of the one and the release of the other are undone, although the pattern is forgotten in
between. -/
theorem claim_and_release_undo_each_other_of_shared_name :
    let i : Index :=
      (({} : Index).claim .regular "www" "b" "y").1.claim .wildcard "*.www" "a" "z" |>.1
    let claimed := i.claim .regular "www" "a" "x"
    let released := i.release .wildcard "*.www" "a" "z"
    i.AllOwned ∧
    claimed.2 = .inserted ∧ claimed.1.release .regular "www" "a" "x" = (i, .removed) ∧
    released.2 = .removed ∧ released.1.claim .wildcard "*.www" "a" "z" = (i, .inserted) ∧
    released.1.wildcard.keys = [] := by
  intro i claimed released
  have howned : i.AllOwned :=
    (allOwned_empty.claim .regular "www" "b" "y").claim .wildcard "*.www" "a" "z"
  have hinserted : claimed.2 = .inserted := by decide +kernel
  have hremoved : released.2 = .removed := by decide +kernel
  obtain ⟨hundone, -⟩ := claim_and_release_undo_each_other i howned .regular "www" "a" "x"
  obtain ⟨-, hredone, -⟩ := claim_and_release_undo_each_other i howned .wildcard "*.www" "a" "z"
  exact ⟨howned, hinserted, hundone hinserted, hremoved, hredone hremoved, by decide +kernel⟩

end NameOwners.Index
