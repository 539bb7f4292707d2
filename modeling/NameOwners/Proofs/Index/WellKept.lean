import NameOwners.Proofs.Index.Invariant
import NameOwners.Proofs.Index.LabelBoundary
import NameOwners.Proofs.Run

/-!
What holds of every index that a synchronizer fills. A name is stored only while
somebody owns it, and only in the partition that its text says; nothing stored
is empty, and no owner is out of scope. A claim and a release of a complete
registration in scope keep all of that, which makes it an invariant of every run
(`WellKept.handleAll`).
-/

namespace NameOwners.Index

/-- The invariant of an index that is filled through a filter. -/
structure WellKept (f : NamespaceFilter) (i : Index) : Prop where
  /-- A name that is stored has an owner. -/
  owned : ∀ p name owners, i.owners? p name = some owners → owners.isEmpty = false
  /-- A name that is stored is where its text belongs. -/
  placed : ∀ p name owners, i.owners? p name = some owners → p = .of name
  /-- What is stored for an owner is not empty. -/
  complete : ∀ p name ns object, i.owner? p name ns = some object →
    Registration.IsComplete ⟨ns, object, name⟩
  /-- Owners are in scope. -/
  tracked : ∀ p name ns object, i.owner? p name ns = some object → f.inScope ns = true

namespace WellKept

variable {f : NamespaceFilter} {i : Index} {r : Registration}

theorem empty (f : NamespaceFilter) : ({} : Index).WellKept f := by
  have howners : ∀ p name, ({} : Index).owners? p name = none := by
    intro p name
    cases p <;> rfl
  constructor
  · intro p name owners h
    simp [howners] at h
  · intro p name owners h
    simp [howners] at h
  · intro p name ns object h
    simp [owner?, howners] at h
  · intro p name ns object h
    simp [owner?, howners] at h

theorem add (h : i.WellKept f) (hr : r.IsComplete) (hs : f.inScope r.ns = true) :
    (i.add r).1.WellKept f := by
  constructor
  · intro p name owners ho
    rw [owners?_add] at ho
    split at ho
    · cases ho
      exact Dictionary.isEmpty_eq_false_iff.2 ⟨r.ns, r.object, by simp⟩
    · exact h.owned p name owners ho
  · intro p name owners ho
    rw [owners?_add] at ho
    split at ho
    · rename_i hc
      rw [hc.2.1, hc.2.2]
      rfl
    · exact h.placed p name owners ho
  -- An owner is one that was there before, or the new one.
  · intro p name ns object ho
    rcases owner?_of_owner?_add ho with hold | ⟨-, rfl⟩
    · exact h.complete p name ns object hold
    · exact hr
  · intro p name ns object ho
    rcases owner?_of_owner?_add ho with hold | ⟨-, rfl⟩
    · exact h.tracked p name ns object hold
    · exact hs

theorem remove (h : i.WellKept f) (r : Registration) : (i.remove r).1.WellKept f := by
  constructor
  · intro p name owners ho
    rw [owners?_remove] at ho
    split at ho
    · split at ho
      · cases ho
      · -- The name was kept because owners are left.
        rename_i hrest
        cases ho
        exact Bool.not_eq_true _ ▸ hrest
    · exact h.owned p name owners ho
  · intro p name owners ho
    rw [owners?_remove] at ho
    split at ho
    · rename_i hc
      rw [hc.2.1, hc.2.2]
      rfl
    · exact h.placed p name owners ho
  -- A release adds no owner, so what holds of every owner stays true.
  · intro p name ns object ho
    exact h.complete p name ns object (owner?_of_owner?_remove ho).1
  · intro p name ns object ho
    exact h.tracked p name ns object (owner?_of_owner?_remove ho).1

/-- Validation provides what a claim has to bring along. -/
theorem handle (h : i.WellKept f) (n : Notification) : (i.handle f n).1.WellKept f :=
  handle_keeps (fun _ r hi => hi.remove r)
    (fun _ _ hclaim hs hi => hi.add (Notification.isComplete_of_claim? hclaim) hs) h

theorem handleAll (h : i.WellKept f) (run : List Notification) :
    (i.handleAll f run).WellKept f := by
  induction run generalizing i with
  | nil => exact h
  | cons n run ih => exact ih (h.handle n)

/-- A name that is owned is where its text belongs. -/
theorem partition_eq (h : i.WellKept f) {p : Partition} {name ns object : String}
    (ho : i.owner? p name ns = some object) : p = .of name := by
  obtain ⟨owners, howners, -⟩ := Option.bind_eq_some_iff.1 ho
  exact h.placed p name owners howners

end WellKept

/-! ### What a run leaves -/

/-- Everything that matches a query is stored under its name. -/
theorem owners?_of_mem_allMatches {i : Index} {query : String} {m : Match}
    (h : m ∈ i.allMatches query) : i.owners? m.partition m.name = some m.owners := by
  rw [allMatches_eq, List.mem_append] at h
  rcases h with h | h
  · obtain ⟨owners, hget, rfl⟩ := Option.map_eq_some_iff.1 (Option.mem_toList.1 h)
    exact hget
  · obtain ⟨a, ha, rfl⟩ := List.mem_map.1 h
    exact ((i.mem_wildcardsAbove_iff query).1 ha).2.2.2

theorem WellKept.exists_owner {f : NamespaceFilter} {i : Index} (h : i.WellKept f)
    {p : Partition} {name : String} {owners : Owners} (ho : i.owners? p name = some owners) :
    ∃ ns object, owners.get? ns = some object ∧ i.owner? p name ns = some object := by
  obtain ⟨ns, object, hget⟩ := Dictionary.isEmpty_eq_false_iff.1 (h.owned p name owners ho)
  exact ⟨ns, object, hget, by simp [owner?, ho, hget]⟩

/-- After any run of a synchronizer that began with an empty index: every name
that is stored and every match has an owner; the wildcard names are those that
begin with a star and a dot, so no name is in both partitions; nothing stored is
empty; and every owner's namespace is in scope. -/
theorem wellKept_after_run (f : NamespaceFilter) (o : Observer) (run : List Notification) :
    let i := (({ filter := f, observer := o } : Synchronizer).handleAll run).index
    (∀ p name, name ∈ (i.names p).keys →
      ∃ owners ns object, i.owners? p name = some owners ∧ owners.get? ns = some object) ∧
    (∀ query m, m ∈ i.allMatches query ∨ i.lookup query = some m →
      ∃ ns object, m.owners.get? ns = some object) ∧
    (∀ name ∈ i.wildcard.keys, ∃ rest, name = "*." ++ rest) ∧
    (∀ name ∈ i.regular.keys, ¬∃ rest, name = "*." ++ rest) ∧
    (∀ name, ¬(name ∈ i.regular.keys ∧ name ∈ i.wildcard.keys)) ∧
    (∀ p name, name ∈ (i.names p).keys → name ≠ "") ∧
    ∀ p name ns object, i.owner? p name ns = some object →
      ns ≠ "" ∧ object ≠ "" ∧ f.inScope ns = true := by
  intro i
  have h : i.WellKept f := by
    change ((_ : Synchronizer).handleAll run).index.WellKept f
    rw [Synchronizer.index_handleAll]
    exact (WellKept.empty f).handleAll run
  have hplaced : ∀ p name, name ∈ (i.names p).keys → p = .of name := by
    intro p name hname
    obtain ⟨owners, ho⟩ := Dictionary.mem_keys_iff.1 hname
    exact h.placed p name owners ho
  refine ⟨?_, ?_, ?_, ?_, ?_, ?_, ?_⟩
  · intro p name hname
    obtain ⟨owners, ho⟩ := Dictionary.mem_keys_iff.1 hname
    obtain ⟨ns, object, hget, -⟩ := h.exists_owner ho
    exact ⟨owners, ns, object, ho, hget⟩
  · intro query m hm
    have hmem : m ∈ i.allMatches query := by
      rcases hm with hm | hm
      · exact hm
      · rw [lookup_eq_head?] at hm
        exact List.mem_of_head? hm
    obtain ⟨ns, object, hget, -⟩ := h.exists_owner (owners?_of_mem_allMatches hmem)
    exact ⟨ns, object, hget⟩
  · intro name hname
    exact Partition.of_eq_wildcard_iff.1 (hplaced .wildcard name hname).symm
  · intro name hname hrest
    have hregular := hplaced .regular name hname
    rw [Partition.of_eq_wildcard_iff.2 hrest] at hregular
    cases hregular
  · rintro name ⟨hregular, hwildcard⟩
    have hboth := (hplaced .regular name hregular).trans (hplaced .wildcard name hwildcard).symm
    cases hboth
  · intro p name hname
    obtain ⟨owners, ho⟩ := Dictionary.mem_keys_iff.1 hname
    obtain ⟨ns, object, -, howner⟩ := h.exists_owner ho
    exact (h.complete p name ns object howner).name
  · intro p name ns object howner
    have hcomplete := h.complete p name ns object howner
    exact ⟨hcomplete.ns, hcomplete.object, h.tracked p name ns object howner⟩

end NameOwners.Index
