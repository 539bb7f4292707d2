import Mathlib.Algebra.BigOperators.Ring.Finset
import Mathlib.Data.List.Induction
import NameOwners.Proofs.Run

/-!
A synchronizer accounts for what it handles. Every notification but the end of a listing
is counted once, by the kind of its event and by its outcome, and the observer is called
once for each of them that the index looked at, after the index has changed
(`Synchronizer.call?`). All of that is said of one notification first (`count_handle`,
`observed_handle`) and then of a run, whose notifications may be of all kinds. A counter
is published under a name of its own (`Metrics.lookup_eventCounters`).
-/

namespace NameOwners

instance : Fintype EventKind :=
  ⟨{.added, .updated, .deleted}, fun kind => by cases kind <;> decide⟩

instance : Fintype Outcome :=
  ⟨{.applied, .unchanged, .conflict, .stale, .filtered, .malformed},
    fun outcome => by cases outcome <;> decide⟩

theorem Outcome.mem_all (outcome : Outcome) : outcome ∈ all := by
  cases outcome <;> decide

theorem Outcome.isReported_eq_false_iff {outcome : Outcome} :
    outcome.isReported = false ↔ outcome = .filtered ∨ outcome = .malformed := by
  cases outcome <;> decide

/-- One more event makes the sum of all counters one larger. -/
theorem EventCounts.sum_bump (c : EventCounts) (kind : EventKind) (outcome : Outcome) :
    ∑ k, ∑ o, (c.bump kind outcome).count k o = ∑ k, ∑ o, c.count k o + 1 := by
  have hone (k : EventKind) (o : Outcome) : (c.bump kind outcome).count k o =
      c.count k o + if k = kind then if o = outcome then 1 else 0 else 0 := by
    rw [count_bump]
    split <;> simp_all
  simp only [hone, Finset.sum_add_distrib]
  simp

/-! ### Published counters -/

namespace Metrics

def counterName (k : EventKind × Outcome) : String :=
  labelled "event.count" [("kind", k.1.label), ("outcome", k.2.label)]

theorem counterName_inj {k l : EventKind × Outcome} : counterName k = counterName l ↔ k = l := by
  refine ⟨fun h => ?_, congrArg counterName⟩
  rw [counterName, counterName, labelled, labelled, String.append_left_inj,
    String.append_right_inj] at h
  have hlabels : ∀ (kind kind' : EventKind) (outcome outcome' : Outcome),
      ",".intercalate ["kind" ++ "=" ++ kind.label, "outcome" ++ "=" ++ outcome.label] =
        ",".intercalate ["kind" ++ "=" ++ kind'.label, "outcome" ++ "=" ++ outcome'.label] →
          kind = kind' ∧ outcome = outcome' := by decide +kernel
  exact Prod.ext_iff.2 (hlabels k.1 l.1 k.2 l.2 h)

theorem lookup_flatMap_counter (n : EventKind × Outcome → Nat) (key : EventKind × Outcome)
    (keys : List (EventKind × Outcome)) :
    (keys.flatMap fun k => counter (counterName k) (n k)).lookup (counterName key) =
      if key ∈ keys ∧ n key ≠ 0 then some (.nat (n key)) else none := by
  induction keys with
  | nil => simp
  | cons k keys ih =>
      rw [List.flatMap_cons, counter]
      by_cases hzero : n k = 0
      · rw [if_pos hzero, List.nil_append, ih]
        by_cases hkey : key = k
        · simp [hkey, hzero]
        · simp [hkey]
      · rw [if_neg hzero, List.singleton_append, List.lookup_cons]
        by_cases hkey : key = k
        · simp [hkey, hzero]
        · have hname : (counterName key == counterName k) = false := by
            rw [beq_eq_false_iff_ne, ne_eq, counterName_inj]
            exact hkey
          simp [hname, hkey, ih]

/-- Every counter is published under its own name, unless it was never touched. -/
theorem lookup_eventCounters (c : EventCounts) (kind : EventKind) (outcome : Outcome) :
    (eventCounters c).lookup (counterName (kind, outcome)) =
      if c.count kind outcome = 0 then none else some (.nat (c.count kind outcome)) := by
  let keys := [EventKind.added, .updated, .deleted].flatMap fun k => Outcome.all.map (k, ·)
  have hkeys : eventCounters c =
      keys.flatMap fun k => counter (counterName k) (c.count k.1 k.2) := by
    simp only [eventCounters, keys, List.flatMap_assoc, List.flatMap_map, counterName]
  have hkey : (kind, outcome) ∈ keys := by
    cases kind <;> simp [keys, Outcome.mem_all]
  rw [hkeys, lookup_flatMap_counter (fun k => c.count k.1 k.2)]
  simp [hkey]

end Metrics

/-! ### One notification -/

namespace Synchronizer

/-- The call to the observer that a notification makes for: unless it is the end of a
listing or its outcome is filtered or malformed, the observer is shown the event, the
outcome and the index as it is afterwards. -/
def call? (s : Synchronizer) (n : Notification) : Option Observation := do
  let e ← n.event?
  let outcome ← (s.handle n).2
  if outcome = .filtered ∨ outcome = .malformed then none
  else some ⟨e, outcome, (s.handle n).1.index⟩

def isAnswer (kind : EventKind) (outcome : Outcome) (a : Notification × Option Outcome) : Bool :=
  a.1.event?.map Event.kind = some kind ∧ a.2 = some outcome

theorem count_handle (s : Synchronizer) (n : Notification) (kind : EventKind)
    (outcome : Outcome) :
    (s.handle n).1.metrics.events.count kind outcome =
      s.metrics.events.count kind outcome +
        if isAnswer kind outcome (n, (s.handle n).2) then 1 else 0 := by
  unfold isAnswer handle
  cases n.event? with
  | none => simp
  | some e =>
      simp only [apply, EventCounts.count_bump, Option.map_some, Option.some.injEq,
        decide_eq_true_eq]
      by_cases hanswer : e.kind = kind ∧ (s.index.apply s.filter e).2 = outcome
      · rw [if_pos ⟨hanswer.1.symm, hanswer.2.symm⟩, if_pos hanswer]
      · rw [if_neg fun h => hanswer ⟨h.1.symm, h.2.symm⟩, if_neg hanswer, Nat.add_zero]

theorem sum_count_handle (s : Synchronizer) (n : Notification) :
    ∑ kind, ∑ outcome, (s.handle n).1.metrics.events.count kind outcome =
      ∑ kind, ∑ outcome, s.metrics.events.count kind outcome + if !n.isSynced then 1 else 0 := by
  unfold handle
  cases he : n.event? with
  | none =>
      obtain rfl := Notification.event?_eq_none_iff.1 he
      rfl
  | some e =>
      have hevent : n.isSynced = false := by
        cases n with
        | synced => cases he
        | _ => rfl
      rw [hevent]
      exact EventCounts.sum_bump s.metrics.events e.kind (s.index.apply s.filter e).2

theorem call?_eq (s : Synchronizer) (n : Notification) :
    s.call? n = n.event?.bind s.observation? := by
  unfold call?
  cases he : n.event? with
  | none => rfl
  | some e =>
      simp only [handle, he, apply, Option.bind_eq_bind, Option.bind_some, observation?]
      cases hreported : (s.index.apply s.filter e).2.isReported with
      | false => simp [Outcome.isReported_eq_false_iff.1 hreported]
      | true =>
          have hshown := fun h => Bool.false_ne_true
            ((Outcome.isReported_eq_false_iff.2 h).symm.trans hreported)
          rw [if_neg hshown, if_pos rfl]

/-- What an observer is shown it takes a note of, if it takes notes at all and never
breaks down. -/
theorem observed_handle {s : Synchronizer} (hsteady : s.observer.IsSteady)
    (hnotes : s.observer.takesNotes = true) (n : Notification) :
    (s.handle n).1.observed = s.observed ++ (s.call? n).toList := by
  rw [call?_eq]
  unfold handle
  cases n.event? with
  | none => simp
  | some e =>
      have hcalm : s.breaksOn e = false := by
        unfold breaksOn
        cases s.observation? e with
        | none => rfl
        | some next => exact hsteady s.shown next
      simp [apply, hnotes, hcalm]

/-! ### Runs -/

def calls (s : Synchronizer) (run : List Notification) : List Observation :=
  (List.range run.length).filterMap fun k => run[k]?.bind (s.handleAll (run.take k)).call?

theorem calls_concat (s : Synchronizer) (run : List Notification) (n : Notification) :
    s.calls (run ++ [n]) = s.calls run ++ ((s.handleAll run).call? n).toList := by
  have hbefore : ∀ k ∈ List.range run.length,
      (run ++ [n])[k]?.bind (s.handleAll ((run ++ [n]).take k)).call? =
        run[k]?.bind (s.handleAll (run.take k)).call? := by
    intro k hk
    have hk : k < run.length := List.mem_range.1 hk
    rw [List.getElem?_append_left hk, List.take_append_of_le_length hk.le]
  have hlast : (run ++ [n])[run.length]?.bind
      (s.handleAll ((run ++ [n]).take run.length)).call? = (s.handleAll run).call? n := by
    rw [List.getElem?_concat_length, List.take_left, Option.bind_some]
  unfold calls
  rw [List.length_append, List.length_singleton, List.range_succ, List.filterMap_append,
    List.filterMap_congr hbefore]
  simp only [List.filterMap_cons, List.filterMap_nil, hlast]
  cases (s.handleAll run).call? n with
  | none => rfl
  | some call => rfl

theorem shown_handleAll (s : Synchronizer) (run : List Notification) :
    (s.handleAll run).shown = s.shown ++ s.calls run := by
  induction run using List.reverseRecOn with
  | nil => simp [calls]
  | append_singleton run n ih =>
      rw [handleAll_append, handleAll_cons, handleAll_nil, shown_handle, ih, calls_concat,
        call?_eq, List.append_assoc]

theorem observed_handleAll {s : Synchronizer} (hsteady : s.observer.IsSteady)
    (hnotes : s.observer.takesNotes = true) (run : List Notification) :
    (s.handleAll run).observed = s.observed ++ s.calls run := by
  induction run using List.reverseRecOn with
  | nil => simp [calls]
  | append_singleton run n ih =>
      have hobserver := s.observer_handleAll run
      rw [handleAll_append, handleAll_cons, handleAll_nil,
        observed_handle (by rwa [hobserver]) (by rwa [hobserver]), ih, calls_concat,
        List.append_assoc]

theorem count_handleAll (s : Synchronizer) (run : List Notification) (kind : EventKind)
    (outcome : Outcome) :
    (s.handleAll run).metrics.events.count kind outcome =
      s.metrics.events.count kind outcome + (s.outcomes run).countP (isAnswer kind outcome) := by
  induction run generalizing s with
  | nil => rfl
  | cons n run ih =>
      rw [handleAll_cons, ih, count_handle, outcomes, List.countP_cons, Nat.add_assoc,
        Nat.add_comm (ite ..)]

theorem sum_count_handleAll (s : Synchronizer) (run : List Notification) :
    ∑ kind, ∑ outcome, (s.handleAll run).metrics.events.count kind outcome =
      ∑ kind, ∑ outcome, s.metrics.events.count kind outcome +
        run.countP fun n => !n.isSynced := by
  induction run generalizing s with
  | nil => rfl
  | cons n run ih =>
      rw [handleAll_cons, ih, sum_count_handle, List.countP_cons, Nat.add_assoc,
        Nat.add_comm (ite ..)]

/-- From an empty index on, with any filter. Whoever observes, each counter is the number
of notifications that stand for an event of its kind and were answered with its outcome,
it is published as that number, or not at all if there was none, and all counters
together count the notifications that are not the end of a listing. The observer is
shown exactly the `calls`, and the one that takes a note of every call has exactly those,
in the order of the notifications: one for each event whose outcome is neither filtered
nor malformed, with the outcome that was answered and the index as it is after the
event. -/
theorem accounts_for_every_notification (f : NamespaceFilter) (run : List Notification) :
    (∀ o kind outcome,
      let counters := ((fresh f o).handleAll run).metrics.events
      let n := ((fresh f o).outcomes run).countP (isAnswer kind outcome)
      counters.count kind outcome = n ∧
      (Metrics.eventCounters counters).lookup (Metrics.counterName (kind, outcome)) =
        if n = 0 then none else some (.nat n)) ∧
    (∀ o, ∑ kind, ∑ outcome, ((fresh f o).handleAll run).metrics.events.count kind outcome =
      run.countP fun n => !n.isSynced) ∧
    (∀ o, ((fresh f o).handleAll run).shown = (fresh f o).calls run) ∧
    ((fresh f .recording).handleAll run).observed = (fresh f .recording).calls run := by
  refine ⟨fun o kind outcome => ?_, fun o => ?_, fun o => ?_, ?_⟩
  · intro counters n
    have hcount : counters.count kind outcome = n := by
      rw [count_handleAll]
      exact Nat.zero_add n
    exact ⟨hcount, by rw [Metrics.lookup_eventCounters, hcount]⟩
  · rw [sum_count_handleAll]
    simp [fresh]
  · exact shown_handleAll (fresh f o) run
  · exact observed_handleAll Observer.isSteady_recording rfl run

example :
    let run : List Notification := [
      .ofAdded ⟨"a", "x", "www"⟩, .ofAdded ⟨"b", "y", "www"⟩, .synced, .added .null,
      .ofAdded ⟨"a", "z", "www"⟩, .ofDeleted ⟨"a", "x", "www"⟩]
    ((fresh ⟨["a"]⟩ .recording).calls run).map (fun call =>
      (call.outcome, call.index.count .regular)) =
        [(.applied, 1), (.conflict, 1), (.applied, 0)] := by
  decide +kernel

end Synchronizer

end NameOwners
