import NameOwners.Index.Snapshot
import NameOwners.Proofs.Index.WellKept

/-!
Namespaces do not interfere. What a run leaves to a namespace, and the outcomes
of the namespace's events, are those of the namespace's own notifications
handled alone (`run_stream`): events of other namespaces keep the namespace's
ownerships, and what an event of the namespace does and returns can be read off
them. It does not matter that namespaces share names, whose owner maps come and
go with any of them.
-/

namespace NameOwners

/-! ### Streams -/

/-- The namespace that an event is about. Both halves of a valid update are in
one namespace. -/
def Event.ns? : Event → Option String
  | .added r => some r.ns
  | .updated _ new => some new.ns
  | .deleted r => some r.ns
  | .malformed .. => none

namespace Notification

def ns? (n : Notification) : Option String :=
  n.event?.bind Event.ns?

def concerns (ns : String) (n : Notification) : Bool :=
  n.ns? = some ns

theorem concerns_iff {ns : String} {n : Notification} :
    n.concerns ns = true ↔ ∃ e, n.event? = some e ∧ e.ns? = some ns := by
  simp [concerns, ns?, Option.bind_eq_some_iff]

end Notification

def stream (ns : String) (run : List Notification) : List Notification :=
  run.filter (Notification.concerns ns)

/-- A run is an interleaving of streams, one for each namespace. Notifications
about no namespace may stand anywhere in between. -/
inductive Interleaves : List Notification → (String → List Notification) → Prop
  | nil : Interleaves [] fun _ => []
  | next {n : Notification} {ns : String} {run : List Notification}
      {streams : String → List Notification} (hn : n.ns? = some ns)
      (h : Interleaves run streams) :
      Interleaves (n :: run) fun m => if m = ns then n :: streams m else streams m
  | between {n : Notification} {run : List Notification}
      {streams : String → List Notification} (hn : n.ns? = none) (h : Interleaves run streams) :
      Interleaves (n :: run) streams

theorem stream_cons (ns : String) (n : Notification) (run : List Notification) :
    stream ns (n :: run) = if n.ns? = some ns then n :: stream ns run else stream ns run := by
  by_cases hn : n.ns? = some ns
  · simp [stream, Notification.concerns, hn]
  · simp [stream, Notification.concerns, hn]

theorem Interleaves.stream_eq {run : List Notification} {streams : String → List Notification}
    (h : Interleaves run streams) (ns : String) : stream ns run = streams ns := by
  induction h with
  | nil => rfl
  | @next n m run streams hn h ih =>
      rw [stream_cons, ih, hn]
      by_cases hm : ns = m
      · simp [hm]
      · simp [hm, Ne.symm hm]
  | between hn h ih =>
      rw [stream_cons, ih, hn]
      simp

theorem interleaves_stream (run : List Notification) : Interleaves run fun ns => stream ns run := by
  induction run with
  | nil => exact .nil
  | cons n run ih =>
      cases hn : n.ns? with
      | none =>
          have hstay : (fun ns => stream ns (n :: run)) = fun ns => stream ns run := by
            funext ns
            rw [stream_cons, hn]
            simp
          rw [hstay]
          exact .between hn ih
      | some m =>
          -- The notification comes first in the stream of its own namespace only.
          have hgrow : (fun ns => stream ns (n :: run)) =
              fun ns => if ns = m then n :: stream ns run else stream ns run := by
            funext ns
            rw [stream_cons, hn]
            simp only [Option.some.injEq, eq_comm]
          rw [hgrow]
          exact .next hn ih

/-- Every run interleaves the streams of its namespaces, and no others. -/
theorem interleaves_iff {run : List Notification} {streams : String → List Notification} :
    Interleaves run streams ↔ ∀ ns, stream ns run = streams ns := by
  constructor
  · exact fun h => h.stream_eq
  · intro h
    obtain rfl : (fun ns => stream ns run) = streams := funext h
    exact interleaves_stream run

/-! ### What a namespace sees of an index -/

namespace Index

def AgreeOn (ns : String) (i j : Index) : Prop :=
  ∀ p name, i.owner? p name ns = j.owner? p name ns

namespace AgreeOn

variable {f : NamespaceFilter} {ns : String} {i j k : Index} {r : Registration}

theorem refl (ns : String) (i : Index) : AgreeOn ns i i := fun _ _ => rfl

theorem symm (h : AgreeOn ns i j) : AgreeOn ns j i := fun p name => (h p name).symm

theorem trans (h : AgreeOn ns i j) (hjk : AgreeOn ns j k) : AgreeOn ns i k :=
  fun p name => (h p name).trans (hjk p name)

/-! A registration of the namespace: both indexes answer alike and go on to agree. -/

theorem add (h : AgreeOn ns i j) (hr : r.ns = ns) :
    (i.add r).2 = (j.add r).2 ∧ AgreeOn ns (i.add r).1 (j.add r).1 := by
  have hcell := h r.partition r.name
  subst hr
  constructor
  · rw [outcome_add, outcome_add, hcell]
  · intro p name
    rw [owner?_add_eq_ite, owner?_add_eq_ite, hcell, h p name]

theorem remove (h : AgreeOn ns i j) (hr : r.ns = ns) :
    (i.remove r).2 = (j.remove r).2 ∧ AgreeOn ns (i.remove r).1 (j.remove r).1 := by
  have hcell := h r.partition r.name
  subst hr
  constructor
  · rw [outcome_remove, outcome_remove, hcell]
  · intro p name
    rw [owner?_remove_eq_ite, owner?_remove_eq_ite, hcell, h p name]

theorem replace (h : AgreeOn ns i j) {old new : Registration} (hold : old.ns = ns)
    (hnew : new.ns = ns) :
    (i.replace old new).2 = (j.replace old new).2 ∧
      AgreeOn ns (i.replace old new).1 (j.replace old new).1 := by
  obtain ⟨hremoved, hafter⟩ := h.remove hold
  obtain ⟨hadded, hboth⟩ := hafter.add hnew
  by_cases heq : old = new
  · subst heq
    rw [replace_self, replace_self]
    exact ⟨rfl, h⟩
  · rw [replace_of_ne i heq, replace_of_ne j heq, hremoved, hadded]
    exact ⟨rfl, hboth⟩

/-! A registration of another namespace: the index goes on to agree with what it was. -/

theorem add_left (h : AgreeOn ns i j) (hr : r.ns ≠ ns) : AgreeOn ns (i.add r).1 j := by
  intro p name
  rw [owner?_add_eq_ite, if_neg fun hc => hr hc.2.2.symm]
  exact h p name

theorem remove_left (h : AgreeOn ns i j) (hr : r.ns ≠ ns) : AgreeOn ns (i.remove r).1 j := by
  intro p name
  rw [owner?_remove_eq_ite, if_neg fun hc => hr hc.2.2.1.symm]
  exact h p name

theorem apply (h : AgreeOn ns i j) {e : Event} (hvalid : e.IsValid) (he : e.ns? = some ns) :
    (i.apply f e).2 = (j.apply f e).2 ∧ AgreeOn ns (i.apply f e).1 (j.apply f e).1 := by
  cases e with
  | malformed kind cause object => cases he
  | added r =>
      simp only [Index.apply]
      split
      · exact h.add (Option.some.inj he)
      · exact ⟨rfl, h⟩
  | deleted r =>
      simp only [Index.apply]
      split
      · exact h.remove (Option.some.inj he)
      · exact ⟨rfl, h⟩
  | updated old new =>
      -- Both halves of an update are in the namespace, since it is valid.
      have hnew : new.ns = ns := Option.some.inj he
      have hold : old.ns = ns := hvalid.2.2.1.trans hnew
      simp only [Index.apply]
      split
      · exact h.replace hold hnew
      · exact ⟨rfl, h⟩

theorem apply_left (h : AgreeOn ns i j) {e : Event} (hvalid : e.IsValid)
    (he : e.ns? ≠ some ns) : AgreeOn ns (i.apply f e).1 j := by
  cases e with
  | malformed kind cause object => exact h
  | added r =>
      rw [Index.apply]
      split
      · exact h.add_left fun hr => he (congrArg some hr)
      · exact h
  | deleted r =>
      rw [Index.apply]
      split
      · exact h.remove_left fun hr => he (congrArg some hr)
      · exact h
  | updated old new =>
      have hnew : new.ns ≠ ns := fun hr => he (congrArg some hr)
      have hold : old.ns ≠ ns := fun hr => hnew (hvalid.2.2.1.symm.trans hr)
      rw [Index.apply]
      split
      · rw [Index.replace]
        split
        · exact h
        · exact (h.remove_left hold).add_left hnew
      · exact h

theorem handle (h : AgreeOn ns i j) {n : Notification} (hn : n.concerns ns = true) :
    (i.handle f n).2 = (j.handle f n).2 ∧ AgreeOn ns (i.handle f n).1 (j.handle f n).1 := by
  obtain ⟨e, he, hns⟩ := Notification.concerns_iff.1 hn
  obtain ⟨houtcome, hafter⟩ := h.apply (Notification.isValid_of_event? he) hns
  simp only [Index.handle, he]
  exact ⟨congrArg some houtcome, hafter⟩

theorem handle_left (h : AgreeOn ns i j) {n : Notification} (hn : n.concerns ns = false) :
    AgreeOn ns (i.handle f n).1 j := by
  rw [Index.handle]
  split
  · exact h
  · rename_i e he
    refine h.apply_left (Notification.isValid_of_event? he) fun hns => ?_
    rw [Notification.concerns_iff.2 ⟨e, he, hns⟩] at hn
    cases hn

end AgreeOn

/-! ### Runs -/

/-- Of any run, a namespace sees what it would see of its own notifications
alone: the same owners at the end, and the same outcomes on the way. -/
theorem run_stream {ns : String} {i j : Index} (f : NamespaceFilter) (h : AgreeOn ns i j)
    (run : List Notification) :
    AgreeOn ns (i.handleAll f run) (j.handleAll f (stream ns run)) ∧
      (i.outcomes f run).filter (fun a => a.1.concerns ns) = j.outcomes f (stream ns run) := by
  induction run generalizing i j with
  | nil => exact ⟨h, rfl⟩
  | cons n run ih =>
      cases hn : n.concerns ns with
      | false =>
          -- The other run stands still.
          have hskip : stream ns (n :: run) = stream ns run := by simp [stream, hn]
          obtain ⟨hafter, houtcomes⟩ := ih (h.handle_left (f := f) hn)
          rw [hskip, handleAll_cons, outcomes, List.filter_cons_of_neg (by simp [hn])]
          exact ⟨hafter, houtcomes⟩
      | true =>
          have hkeep : stream ns (n :: run) = n :: stream ns run := by simp [stream, hn]
          obtain ⟨houtcome, hstep⟩ := h.handle (f := f) hn
          obtain ⟨hafter, houtcomes⟩ := ih hstep
          rw [hkeep, handleAll_cons, handleAll_cons, outcomes, outcomes,
            List.filter_cons_of_pos (by simp [hn]), houtcomes, houtcome]
          exact ⟨hafter, rfl⟩

/-- A notification about no namespace is malformed or the end of a listing. -/
theorem outcome_of_ns?_eq_none (f : NamespaceFilter) (i : Index) {n : Notification}
    (h : n.ns? = none) : (i.handle f n).2 = n.event?.map fun _ => Outcome.malformed := by
  unfold handle
  cases he : n.event? with
  | none => rfl
  | some e =>
      rw [Notification.ns?, he, Option.bind_some] at h
      cases e with
      | malformed kind cause object => rfl
      | added r => cases h
      | deleted r => cases h
      | updated old new => cases h

theorem mem_outcomes {f : NamespaceFilter} {i : Index} {run : List Notification}
    {a : Notification × Option Outcome} (h : a ∈ i.outcomes f run) :
    ∃ j : Index, a.2 = (j.handle f a.1).2 := by
  induction run generalizing i with
  | nil => cases h
  | cons n run ih =>
      rcases List.mem_cons.1 h with rfl | h
      · exact ⟨i, rfl⟩
      · exact ih h

/-! ### Equal indexes -/

theorem WellKept.owners?_eq_none {f : NamespaceFilter} {i j : Index} (hi : i.WellKept f)
    (h : ∀ ns, AgreeOn ns i j) {p : Partition} {name : String} (hnone : j.owners? p name = none) :
    i.owners? p name = none := by
  -- A name that is stored has an owner, whom the other index knows as well.
  refine Option.eq_none_iff_forall_ne_some.2 fun owners howners => ?_
  obtain ⟨ns, object, -, howner⟩ := hi.exists_owner howners
  rw [h ns p name, owner?, hnone] at howner
  cases howner

theorem WellKept.ext {f g : NamespaceFilter} {i j : Index} (hi : i.WellKept f) (hj : j.WellKept g)
    (h : ∀ ns, AgreeOn ns i j) : i = j := by
  refine ext_names fun p => Dictionary.ext_get? fun name => ?_
  change i.owners? p name = j.owners? p name
  cases ho : i.owners? p name with
  | none => exact (hj.owners?_eq_none (fun ns => (h ns).symm) ho).symm
  | some owners =>
      cases ho' : j.owners? p name with
      | none =>
          rw [hi.owners?_eq_none h ho'] at ho
          cases ho
      | some owners' =>
          have hread : ∀ ns, owners.get? ns = owners'.get? ns := by
            intro ns
            have hagree := h ns p name
            rwa [owner?, owner?, ho, ho'] at hagree
          rw [Dictionary.ext_get? hread]

end Index

/-- Runs from an empty index. If the notifications of one namespace are the same
in two runs, then so are its owners and the outcomes of its events, whatever else
the runs handle and in whatever order. So runs that interleave the same streams
end in the same index, and every event has the same outcome in both; the
notifications in between, malformed ones and ends of listings, have no other
outcome anywhere. -/
theorem Synchronizer.namespaces_do_not_interfere (f : NamespaceFilter) (o o' : Observer)
    (run run' : List Notification) :
    (∀ ns, stream ns run = stream ns run' →
      (∀ p name object,
        ((fresh f o).handleAll run).index.owner? p name ns = some object ↔
          ((fresh f o').handleAll run').index.owner? p name ns = some object) ∧
      ((fresh f o).outcomes run).filter (fun a => a.1.concerns ns) =
        ((fresh f o').outcomes run').filter (fun a => a.1.concerns ns)) ∧
    ∀ streams, Interleaves run streams → Interleaves run' streams →
      ((fresh f o).handleAll run).index = ((fresh f o').handleAll run').index ∧
      ((fresh f o).handleAll run).index.snapshot = ((fresh f o').handleAll run').index.snapshot ∧
      (∀ ns, ((fresh f o).outcomes run).filter (fun a => a.1.concerns ns) =
        ((fresh f o').outcomes run').filter (fun a => a.1.concerns ns)) ∧
      ∀ a ∈ (fresh f o).outcomes run ++ (fresh f o').outcomes run', a.1.ns? = none →
        a.2 = a.1.event?.map fun _ => Outcome.malformed := by
  simp only [index_handleAll_fresh, outcomes_fresh]
  have hns : ∀ ns, stream ns run = stream ns run' →
      Index.AgreeOn ns (({} : Index).handleAll f run) (({} : Index).handleAll f run') ∧
      (({} : Index).outcomes f run).filter (fun a => a.1.concerns ns) =
        (({} : Index).outcomes f run').filter (fun a => a.1.concerns ns) := by
    intro ns hstream
    obtain ⟨hafter, houtcomes⟩ := Index.run_stream f (.refl ns {}) run
    obtain ⟨hafter', houtcomes'⟩ := Index.run_stream f (.refl ns {}) run'
    rw [hstream] at hafter houtcomes
    exact ⟨hafter.trans hafter'.symm, houtcomes.trans houtcomes'.symm⟩
  refine ⟨fun ns hstream => ?_, fun streams h h' => ?_⟩
  · obtain ⟨hagree, houtcomes⟩ := hns ns hstream
    exact ⟨fun p name object => by rw [hagree p name], houtcomes⟩
  · have hstreams : ∀ ns, stream ns run = stream ns run' := fun ns =>
      (interleaves_iff.1 h ns).trans (interleaves_iff.1 h' ns).symm
    have hindex : ({} : Index).handleAll f run = ({} : Index).handleAll f run' :=
      ((Index.WellKept.empty f).handleAll run).ext ((Index.WellKept.empty f).handleAll run')
        fun ns => (hns ns (hstreams ns)).1
    refine ⟨hindex, congrArg Index.snapshot hindex, fun ns => (hns ns (hstreams ns)).2, ?_⟩
    intro a ha hnone
    obtain ⟨j, hj⟩ : ∃ j : Index, a.2 = (j.handle f a.1).2 :=
      (List.mem_append.1 ha).elim Index.mem_outcomes Index.mem_outcomes
    rw [hj, Index.outcome_of_ns?_eq_none f j hnone]

/-- Two namespaces share a name. Whether the second one claims it before or
after the first, and what is sent in between, is the same to both. -/
theorem Synchronizer.shared_name_does_not_interfere :
    let x : Notification := .ofAdded ⟨"a", "x", "www"⟩
    let y : Notification := .ofAdded ⟨"b", "y", "www"⟩
    let z : Notification := .ofUpdated ⟨"a", "z", "old"⟩ ⟨"a", "z", "www"⟩
    let run : List Notification := [x, z, y]
    let run' : List Notification := [y, .synced, x, .added .null, z]
    let streams : String → List Notification := fun ns =>
      if ns = "a" then [x, z] else if ns = "b" then [y] else []
    (Interleaves run streams ∧ Interleaves run' streams ∧
      ((fresh .all .recording).handleAll run).index =
        ((fresh .all .silent).handleAll run').index) ∧
    stream "a" run = stream "a" run' ∧
      ((fresh .all .recording).outcomes run).filter (fun a => a.1.concerns "a") =
        ((fresh .all .silent).outcomes run').filter (fun a => a.1.concerns "a") := by
  intro x y z run run' streams
  have hx : x.ns? = some "a" := by decide
  have hy : y.ns? = some "b" := by decide
  have hz : z.ns? = some "a" := by decide
  have hsynced : Notification.synced.ns? = none := rfl
  have hnull : (Notification.added .null).ns? = none := by decide
  have h : Interleaves run streams := interleaves_iff.2 fun ns => by
    simp only [run, stream_cons, hx, hy, hz, streams]
    grind [stream]
  have h' : Interleaves run' streams := interleaves_iff.2 fun ns => by
    simp only [run', stream_cons, hx, hy, hz, hsynced, hnull, streams]
    grind [stream]
  have ha : stream "a" run = stream "a" run' :=
    (interleaves_iff.1 h "a").trans (interleaves_iff.1 h' "a").symm
  obtain ⟨hone, hall⟩ := namespaces_do_not_interfere .all .recording .silent run run'
  exact ⟨⟨h, h', (hall streams h h').1⟩, ha, (hone "a" ha).2⟩

end NameOwners
