import NameOwners.Index.Update

/-!
What the updates of an index do to the owners of a single name. A claim that
succeeds adds one owner to the name, a release that succeeds takes one away and
forgets the name with its last owner, and everything else leaves every name as
it was. What comes of a claim or a release depends on the one ownership that it
is about (`outcome_add`, `outcome_remove`).
-/

namespace NameOwners.Index

variable (i : Index) (p q : Partition) (name name' ns object : String)

/-- A claim changes the owners of a name only if the ownership was free. -/
theorem owners?_claim :
    (i.claim p name ns object).1.owners? q name' =
      if i.owner? p name ns = none ∧ q = p ∧ name' = name then
        some (((i.owners? p name).getD ∅).insert ns object)
      else i.owners? q name' := by
  unfold claim
  cases h : i.owner? p name ns with
  | some owner => simp
  | none =>
      by_cases hq : q = p
      · subst hq
        by_cases hn : name' = name
        · simp [owners?, hn]
        · simp [owners?, hn]
      · simp [owners?, hq]

/-- A release changes the owners of a name only if the object owns it, and the
last owner takes the name along. -/
theorem owners?_release :
    (i.release p name ns object).1.owners? q name' =
      if i.owner? p name ns = some object ∧ q = p ∧ name' = name then
        if (((i.owners? p name).getD ∅).erase ns).isEmpty then none
        else some (((i.owners? p name).getD ∅).erase ns)
      else i.owners? q name' := by
  unfold release
  cases h : i.owners? p name with
  | none => simp [owner?, h]
  | some owners =>
      have howner : i.owner? p name ns = owners.get? ns := by simp [owner?, h]
      rw [howner]
      by_cases hobject : owners.get? ns = some object
      · by_cases hq : q = p
        · subst hq
          by_cases he : (owners.erase ns).isEmpty = true
          · by_cases hn : name' = name <;> simp [owners?, hobject, he, hn]
          · by_cases hn : name' = name <;> simp [owners?, hobject, he, hn]
        · simp [owners?, hobject, hq]
      · simp [hobject]

/-! ### Registrations -/

variable (r : Registration)

theorem owners?_add :
    (i.add r).1.owners? q name =
      if i.owner? r.partition r.name r.ns = none ∧ q = r.partition ∧ name = r.name then
        some (((i.owners? r.partition r.name).getD ∅).insert r.ns r.object)
      else i.owners? q name :=
  owners?_claim i r.partition q r.name name r.ns r.object

theorem owners?_remove :
    (i.remove r).1.owners? q name =
      if i.owner? r.partition r.name r.ns = some r.object ∧ q = r.partition ∧ name = r.name then
        if (((i.owners? r.partition r.name).getD ∅).erase r.ns).isEmpty then none
        else some (((i.owners? r.partition r.name).getD ∅).erase r.ns)
      else i.owners? q name :=
  owners?_release i r.partition q r.name name r.ns r.object

theorem owner?_add_eq_ite :
    (i.add r).1.owner? q name ns =
      if q = r.partition ∧ name = r.name ∧ ns = r.ns then
        some ((i.owner? r.partition r.name r.ns).getD r.object)
      else i.owner? q name ns :=
  owner?_claim i r.partition r.name r.ns r.object q name ns

theorem owner?_remove_eq_ite :
    (i.remove r).1.owner? q name ns =
      if q = r.partition ∧ name = r.name ∧ ns = r.ns ∧
          i.owner? r.partition r.name r.ns = some r.object then none
      else i.owner? q name ns :=
  owner?_release i r.partition r.name r.ns r.object q name ns

variable {i q name ns object r}

/-- Whoever owns a name after a claim owned it before, or is the claimant. -/
theorem owner?_of_owner?_add (h : (i.add r).1.owner? q name ns = some object) :
    i.owner? q name ns = some object ∨ q = r.partition ∧ r = ⟨ns, object, name⟩ := by
  rw [owner?_add_eq_ite] at h
  split at h
  · rename_i hcell
    obtain ⟨rfl, rfl, rfl⟩ := hcell
    cases hold : i.owner? r.partition r.name r.ns with
    | none =>
        rw [hold] at h
        cases h
        exact .inr ⟨rfl, rfl⟩
    | some owner =>
        rw [hold] at h
        exact .inl h
  · exact .inl h

/-- Whoever owns a name after a release owned it before, and not as the one that
gave it up. -/
theorem owner?_of_owner?_remove (h : (i.remove r).1.owner? q name ns = some object) :
    i.owner? q name ns = some object ∧ ¬(q = r.partition ∧ r = ⟨ns, object, name⟩) := by
  rw [owner?_remove_eq_ite] at h
  split at h
  · cases h
  · rename_i hcell
    refine ⟨h, ?_⟩
    rintro ⟨rfl, rfl⟩
    exact hcell ⟨rfl, rfl, rfl, h⟩

/-- A claim never takes a name away. -/
theorem owner?_add_of_owner? (h : i.owner? q name ns = some object) :
    (i.add r).1.owner? q name ns = some object := by
  rw [owner?_add_eq_ite]
  split
  · rename_i hcell
    obtain ⟨rfl, rfl, rfl⟩ := hcell
    rw [h, Option.getD_some]
  · exact h

/-- After a release the object does not own the name. -/
theorem owner?_remove_ne (i : Index) (r : Registration) :
    (i.remove r).1.owner? r.partition r.name r.ns ≠ some r.object :=
  fun howner => (owner?_of_owner?_remove howner).2 ⟨rfl, rfl⟩

/-- A claim does not give a name back to the object that has released it, unless it is
the claim of what was released. -/
theorem owner?_add_remove_ne (i : Index) {old new : Registration} (h : old ≠ new) :
    ((i.remove old).1.add new).1.owner? old.partition old.name old.ns ≠ some old.object := by
  intro howner
  rcases owner?_of_owner?_add howner with hreleased | ⟨-, hnew⟩
  · exact owner?_remove_ne i old hreleased
  · exact h hnew.symm

/-- After a claim the name has an owner. -/
theorem exists_owner?_add (i : Index) (r : Registration) :
    ∃ object, (i.add r).1.owner? r.partition r.name r.ns = some object :=
  ⟨_, by rw [owner?_add_eq_ite, if_pos ⟨rfl, rfl, rfl⟩]⟩

variable (i r)

theorem outcome_add :
    (i.add r).2 =
      match i.owner? r.partition r.name r.ns with
      | none => .applied
      | some owner => if owner = r.object then .unchanged else .conflict := by
  change (i.claim r.partition r.name r.ns r.object).2.outcome = _
  unfold claim
  cases i.owner? r.partition r.name r.ns with
  | none => rfl
  | some owner =>
      by_cases ho : owner = r.object
      · simp [ho, Claim.outcome]
      · simp [ho, Claim.outcome]

theorem outcome_remove :
    (i.remove r).2 =
      if i.owner? r.partition r.name r.ns = some r.object then .applied else .stale := by
  change (i.release r.partition r.name r.ns r.object).2.outcome = _
  unfold release
  cases h : i.owners? r.partition r.name with
  | none => simp [owner?, h, Release.outcome]
  | some owners =>
      have howner : i.owner? r.partition r.name r.ns = owners.get? r.ns := by simp [owner?, h]
      rw [howner]
      by_cases hobject : owners.get? r.ns = some r.object
      · simp [hobject, Release.outcome]
      · simp [hobject, Release.outcome]

variable {i r} in
/-- A name that has an owner cannot be claimed. -/
theorem add_of_owner? {owner : String} (h : i.owner? r.partition r.name r.ns = some owner) :
    i.add r = (i, if owner = r.object then .unchanged else .conflict) := by
  have hsame : (i.add r).1 = i := by
    change (i.claim r.partition r.name r.ns r.object).1 = i
    simp only [claim, h]
  exact Prod.ext hsame (by rw [outcome_add, h])

variable {i r} in
/-- A registration that its object does not own cannot be released. -/
theorem remove_of_owner?_ne (h : i.owner? r.partition r.name r.ns ≠ some r.object) :
    i.remove r = (i, .stale) := by
  have hsame : (i.remove r).1 = i := by
    change (i.release r.partition r.name r.ns r.object).1 = i
    unfold release
    cases hn : i.owners? r.partition r.name with
    | none => rfl
    | some owners =>
        have howner : i.owner? r.partition r.name r.ns = owners.get? r.ns := by simp [owner?, hn]
        rw [howner] at h
        simp only [if_neg h]
  exact Prod.ext hsame (by rw [outcome_remove, if_neg h])

theorem replace_self : i.replace r r = (i, .unchanged) := by simp [replace]

theorem replace_of_ne {old new : Registration} (h : old ≠ new) :
    i.replace old new =
      (((i.remove old).1.add new).1,
        if (i.remove old).2 = .applied then .applied else ((i.remove old).1.add new).2) := by
  simp [replace, h]

end NameOwners.Index
