import NameOwners.Proofs.Index.WellKept
import NameOwners.Proofs.Objects

/-!
Owners exist. As long as a run is consistent, whoever owns a name is an object
that exists and registers this very name (`owners_live_after_run`). The converse
fails: a claim that met a conflict is lost, also when the owner leaves later. A
listing of all that exists repairs it, since it finds every such name free and
takes none away (`listing_restores_owners`).
-/

namespace NameOwners.Index

/-- Every owner exists and registers what it owns. -/
def OwnersLive (w : Objects) (i : Index) : Prop :=
  ∀ p name ns object, i.owner? p name ns = some object → w.Registers ⟨ns, object, name⟩

namespace OwnersLive

variable {f : NamespaceFilter} {w : Objects} {i : Index} {r : Registration}

theorem empty (w : Objects) : ({} : Index).OwnersLive w := by
  intro p name ns object h
  cases p <;> cases h

theorem add (h : i.OwnersLive w) (hr : w.Allows r) : (i.add r).1.OwnersLive (w.put r) := by
  intro p name ns object howner
  rcases owner?_of_owner?_add howner with hold | ⟨-, rfl⟩
  · exact (h p name ns object hold).put hr
  · exact w.registers_put _

theorem remove (h : i.OwnersLive w) (hi : i.WellKept f) (hr : w.Allows r) :
    (i.remove r).1.OwnersLive (w.delete r) := by
  intro p name ns object howner
  obtain ⟨hold, hne⟩ := owner?_of_owner?_remove howner
  have hlive := h p name ns object hold
  -- What the object itself owns is what it registers, and this is given up.
  have hother : ¬(ns = r.ns ∧ object = r.object) := by
    rintro ⟨rfl, rfl⟩
    have hname : name = r.name := by
      rcases hr with hr | hr
      · rw [Objects.Registers, hr] at hlive
        cases hlive
      · exact Option.some.inj (hlive.symm.trans hr)
    subst hname
    exact hne ⟨hi.partition_eq hold, rfl⟩
  exact (Objects.registers_set_iff none hother).2 hlive

theorem replace (h : i.OwnersLive w) (hi : i.WellKept f) {old new : Registration}
    (hold : w.Registers old) (hns : old.ns = new.ns) (hobject : old.object = new.object) :
    (i.replace old new).1.OwnersLive (w.put new) := by
  by_cases heq : old = new
  · subst heq
    rw [replace_self, Objects.put_eq hold]
    exact h
  · have hallows := w.allows_delete hns.symm hobject.symm
    rw [replace_of_ne i heq, ← Objects.put_delete hns.symm hobject.symm]
    exact (h.remove hi (.inr hold)).add hallows

/-- What happens to objects out of scope is no matter to owners. -/
theorem set_of_not_inScope (h : i.OwnersLive w) (hi : i.WellKept f)
    (hs : ¬f.inScope r.ns = true) (name : Option String) : i.OwnersLive (w.set r name) := by
  intro p name ns object howner
  have hother : ¬(ns = r.ns ∧ object = r.object) := by
    rintro ⟨rfl, -⟩
    exact hs (hi.tracked p name r.ns object howner)
  exact (Objects.registers_set_iff _ hother).2 (h p name ns object howner)

theorem apply (h : i.OwnersLive w) (hi : i.WellKept f) {e : Event} (hvalid : e.IsValid)
    (he : w.Admits e) : (i.apply f e).1.OwnersLive (w.after e) := by
  cases e with
  | malformed kind cause object => exact h
  | added r =>
      rw [Index.apply]
      split
      · exact h.add he
      · rename_i hs
        exact h.set_of_not_inScope hi hs _
  | deleted r =>
      rw [Index.apply]
      split
      · exact h.remove hi he
      · rename_i hs
        exact h.set_of_not_inScope hi hs _
  | updated old new =>
      obtain ⟨-, -, hns, hobject⟩ := hvalid
      rw [Index.apply]
      split
      · exact h.replace hi he hns hobject
      · rename_i hs
        refine h.set_of_not_inScope hi (fun hnew => hs ⟨?_, hnew⟩) _
        rw [hns]
        exact hnew

theorem handle (h : i.OwnersLive w) (hi : i.WellKept f) {n : Notification}
    (hn : w.AdmitsNotification n) : (i.handle f n).1.OwnersLive (w.handle n) := by
  unfold Index.handle Objects.handle
  cases he : n.event? with
  | none => exact h
  | some e =>
      rw [Objects.AdmitsNotification, he] at hn
      exact h.apply hi (Notification.isValid_of_event? he) hn

theorem handleAll (h : i.OwnersLive w) (hi : i.WellKept f) {run : List Notification}
    (hrun : w.Consistent run) : (i.handleAll f run).OwnersLive (w.handleAll run) := by
  induction run generalizing i w with
  | nil => exact h
  | cons n run ih => exact ih (h.handle hi hrun.1) (hi.handle n) hrun.2

end OwnersLive

/-- After every step of a consistent run that began with an empty index: who owns
a name exists and registers this name now. So no object owns two names, and a
deleted one owns none. -/
theorem owners_live_after_run (f : NamespaceFilter) (o : Observer) (run : List Notification)
    (hrun : Objects.empty.Consistent run) (before : List Notification) (hbefore : before <+: run) :
    let i := ((Synchronizer.fresh f o).handleAll before).index
    let w := Objects.empty.handleAll before
    (∀ p name ns object, i.owner? p name ns = some object →
      w.name? ns object = some name) ∧
    (∀ p q name name' ns object, i.owner? p name ns = some object →
      i.owner? q name' ns = some object → p = q ∧ name = name') ∧
    ∀ ns object, w.name? ns object = none → ∀ p name, i.owner? p name ns ≠ some object := by
  intro i w
  have hkept : i.WellKept f := by
    change ((Synchronizer.fresh f o).handleAll before).index.WellKept f
    rw [Synchronizer.index_handleAll_fresh]
    exact (WellKept.empty f).handleAll before
  have hlive : i.OwnersLive w := by
    change ((Synchronizer.fresh f o).handleAll before).index.OwnersLive w
    rw [Synchronizer.index_handleAll_fresh]
    obtain ⟨rest, rfl⟩ := hbefore
    exact (OwnersLive.empty _).handleAll (WellKept.empty f) (Objects.consistent_append_iff.1 hrun).1
  refine ⟨hlive, ?_, ?_⟩
  · intro p q name name' ns object hp hq
    have hname : name = name' :=
      Option.some.inj ((hlive p name ns object hp).symm.trans (hlive q name' ns object hq))
    subst hname
    exact ⟨(hkept.partition_eq hp).trans (hkept.partition_eq hq).symm, rfl⟩
  · intro ns object hnone p name howner
    have hsome := hlive p name ns object howner
    rw [Objects.Registers, hnone] at hsome
    cases hsome

/-- A conflict, an update away from the name that was never owned, and the
deletion of the owner: what is left is owned by the object that exists. -/
theorem owners_live_after_conflict :
    let before : List Notification :=
      [.ofAdded ⟨"ns", "x", "www"⟩, .ofAdded ⟨"ns", "y", "www"⟩,
        .ofUpdated ⟨"ns", "y", "www"⟩ ⟨"ns", "y", "*.www"⟩, .ofDeleted ⟨"ns", "x", "www"⟩]
    let run : List Notification := before ++ [.synced, .ofAdded ⟨"ns", "x", "api"⟩]
    let i := ((Synchronizer.fresh .all .silent).handleAll before).index
    let w := Objects.empty.handleAll before
    Objects.empty.Consistent run ∧ before <+: run ∧
      i.owner? .wildcard "*.www" "ns" = some "y" ∧ w.name? "ns" "y" = some "*.www" ∧
      w.name? "ns" "x" = none ∧ ∀ p name, i.owner? p name "ns" ≠ some "x" := by
  intro before run i w
  have hrun : Objects.empty.Consistent run := by decide
  have hbefore : before <+: run := List.prefix_append _ _
  obtain ⟨hlive, -, hdeleted⟩ := owners_live_after_run .all .silent run hrun before hbefore
  have howner : i.owner? .wildcard "*.www" "ns" = some "y" := by decide
  have hnone : w.name? "ns" "x" = none := by decide
  exact ⟨hrun, hbefore, howner, hlive _ _ _ _ howner, hnone, hdeleted "ns" "x" hnone⟩

/-! ### Listings -/

/-- Whoever owns a name still does after additions. -/
theorem owner?_handleAll_of_added {f : NamespaceFilter} {i : Index} {p : Partition}
    {name ns object : String} (h : i.owner? p name ns = some object) {run : List Notification}
    (hrun : ∀ n ∈ run, ∃ r, n.event? = some (.added r)) :
    (i.handleAll f run).owner? p name ns = some object := by
  induction run generalizing i with
  | nil => exact h
  | cons n run ih =>
      obtain ⟨r, he⟩ := hrun n (List.mem_cons_self ..)
      refine ih ?_ fun m hm => hrun m (List.mem_cons_of_mem n hm)
      simp only [handle, he, apply]
      split
      · exact owner?_add_of_owner? h
      · exact h

/-- Every name in scope that is among the additions has an owner after them. -/
theorem exists_owner?_handleAll_of_mem {f : NamespaceFilter} {i : Index} {r : Registration}
    (hs : f.inScope r.ns = true) {run : List Notification}
    (hrun : ∀ n ∈ run, ∃ s, n.event? = some (.added s)) {n : Notification} (hn : n ∈ run)
    (he : n.event? = some (.added r)) :
    ∃ object, (i.handleAll f run).owner? r.partition r.name r.ns = some object := by
  obtain ⟨before, rest, rfl⟩ := List.append_of_mem hn
  -- The addition itself sees to it, and the later ones leave it so.
  obtain ⟨object, howner⟩ := exists_owner?_add (i.handleAll f before) r
  refine ⟨object, ?_⟩
  rw [handleAll_append, handleAll_cons]
  refine owner?_handleAll_of_added ?_ fun m hm => hrun m (by simp [hm])
  simp only [handle, he, apply, hs, if_true]
  exact howner

/-- After a consistent run and a listing of all that exists: a name has an owner
in a namespace in scope exactly if an object there registers it, the owner is
such an object, and no owner from before the listing has changed. -/
theorem listing_restores_owners (f : NamespaceFilter) (o : Observer)
    (run listing : List Notification) (hrun : Objects.empty.Consistent run)
    (hlisting : (Objects.empty.handleAll run).IsListing listing) :
    let i := ((Synchronizer.fresh f o).handleAll run).index
    let j := ((Synchronizer.fresh f o).handleAll (run ++ listing)).index
    let w := Objects.empty.handleAll run
    (∀ ns name, f.inScope ns = true →
      ((∃ object, j.owner? (.of name) name ns = some object) ↔
        ∃ object, w.name? ns object = some name)) ∧
    (∀ p name ns object, j.owner? p name ns = some object →
      p = .of name ∧ w.name? ns object = some name) ∧
    ∀ p name ns object, i.owner? p name ns = some object →
      j.owner? p name ns = some object := by
  simp only [Synchronizer.index_handleAll_fresh]
  have hadded : ∀ n ∈ listing, ∃ r, n.event? = some (.added r) := fun n hn =>
    let ⟨r, he, _⟩ := hlisting.current n hn
    ⟨r, he⟩
  have hkept := (WellKept.empty f).handleAll (run ++ listing)
  have hlive : (({} : Index).handleAll f (run ++ listing)).OwnersLive
      (Objects.empty.handleAll run) := by
    obtain ⟨hconsistent, hstays⟩ := Objects.handleAll_eq_of_current hlisting.current
    rw [← hstays, ← Objects.handleAll_append]
    exact (OwnersLive.empty _).handleAll (WellKept.empty f)
      (Objects.consistent_append_iff.2 ⟨hrun, hconsistent⟩)
  refine ⟨fun ns name hs => ⟨?_, ?_⟩, ?_, ?_⟩
  · rintro ⟨object, howner⟩
    exact ⟨object, hlive _ name ns object howner⟩
  · rintro ⟨object, hname⟩
    obtain ⟨n, hn, he⟩ := hlisting.complete ⟨ns, object, name⟩ hname
    rw [handleAll_append]
    exact exists_owner?_handleAll_of_mem (r := ⟨ns, object, name⟩) hs hadded hn he
  · intro p name ns object howner
    exact ⟨hkept.partition_eq howner, hlive p name ns object howner⟩
  · intro p name ns object howner
    rw [handleAll_append]
    exact owner?_handleAll_of_added howner hadded

/-- A claim that was lost to a conflict comes back with a listing, once the owner
is gone. -/
theorem listing_restores_lost_claim :
    let run : List Notification :=
      [.ofAdded ⟨"ns", "x", "www"⟩, .ofAdded ⟨"ns", "y", "www"⟩, .ofDeleted ⟨"ns", "x", "www"⟩]
    let listing : List Notification := [.ofAdded ⟨"ns", "y", "www"⟩, .ofAdded ⟨"ns", "y", "www"⟩]
    Objects.empty.Consistent run ∧ (Objects.empty.handleAll run).IsListing listing ∧
      ((Synchronizer.fresh .all .silent).handleAll run).index.owner? .regular "www" "ns" = none ∧
      ∃ object, ((Synchronizer.fresh .all .silent).handleAll (run ++ listing)).index.owner?
        (.of "www") "www" "ns" = some object := by
  intro run listing
  have hrun : Objects.empty.Consistent run := by decide
  have hy : (Notification.ofAdded ⟨"ns", "y", "www"⟩).event? =
      some (.added ⟨"ns", "y", "www"⟩) := rfl
  have hlisting : (Objects.empty.handleAll run).IsListing listing := by
    constructor
    · intro n hn
      have hn : n = .ofAdded ⟨"ns", "y", "www"⟩ := by simpa [listing] using hn
      subst hn
      exact ⟨_, hy, by decide⟩
    · rintro ⟨ns, object, name⟩ hr
      change (if ns = "ns" ∧ object = "x" then none else
        if ns = "ns" ∧ object = "y" then some "www" else
        if ns = "ns" ∧ object = "x" then some "www" else none) = some name at hr
      obtain ⟨rfl, rfl, rfl⟩ : ns = "ns" ∧ object = "y" ∧ name = "www" := by grind
      exact ⟨_, List.mem_cons_self .., hy⟩
  obtain ⟨hiff, -⟩ := listing_restores_owners .all .silent run listing hrun hlisting
  exact ⟨hrun, hlisting, by decide, (hiff "ns" "www" rfl).2 ⟨"y", by decide⟩⟩

end NameOwners.Index
