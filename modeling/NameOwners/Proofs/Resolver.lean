import NameOwners.Resolver

/-!
What the steps of a resolver change and leave as it is. A delivery changes what the
synchronizer changes, and the task ends with it if the observer breaks down
(`Resolver.delivers_deliver`). The calls around it never touch the index, the
filter or the task (`Resolver.Keeps`), except for the one that starts it
(`Resolver.start_eq_ok_iff`).
-/

namespace NameOwners

def Synchronizer.breaksAt (s : Synchronizer) (n : Notification) : Bool :=
  match n.event? with
  | some e => s.breaksOn e
  | none => false

theorem Synchronizer.breaksAt_congr {s t : Synchronizer} (hobserver : s.observer = t.observer)
    (hindex : s.index = t.index) (hfilter : s.filter = t.filter) (hshown : s.shown = t.shown)
    (n : Notification) : s.breaksAt n = t.breaksAt n := by
  unfold breaksAt breaksOn observation?
  rw [hobserver, hindex, hfilter, hshown]

namespace Resolver

/-! ### Deliveries -/

/-- A resolver before and after the delivery of a notification. -/
structure Delivers (r : Resolver) (n : Notification) (r' : Resolver) : Prop where
  config : r'.config = r.config
  filter : r'.synchronizer.filter = r.synchronizer.filter
  observer : r'.synchronizer.observer = r.synchronizer.observer
  index : r'.index = (r.index.handle r.synchronizer.filter n).1
  shown : r'.synchronizer.shown = (r.synchronizer.handle n).1.shown
  synced : r'.synced = true ↔ r.synced = true ∨ n = .synced
  watch : r'.watch = if r.synchronizer.breaksAt n then .ended else r.watch
  isStopped : r'.isStopped = r.isStopped
  isCancelled : r'.isCancelled = r.isCancelled
  startup : r'.startup = r.startup
  syncWaits : r'.metrics.syncWaits = r.metrics.syncWaits

theorem delivers_deliver (r : Resolver) (n : Notification) : r.Delivers n (r.deliver n) := by
  cases he : n.event? with
  | none =>
      obtain rfl := Notification.event?_eq_none_iff.1 he
      simp only [deliver, Notification.event?, markSynced]
      split
      · rename_i hsynced
        exact ⟨rfl, rfl, rfl, rfl, rfl, by simp [hsynced], rfl, rfl, rfl, rfl, rfl⟩
      · exact ⟨rfl, rfl, rfl, rfl, rfl, by simp, rfl, rfl, rfl, rfl, rfl⟩
  | some e =>
      have hne : n ≠ .synced := by
        rintro rfl
        cases he
      have hbreaks : r.synchronizer.breaksAt n = r.synchronizer.breaksOn e := by
        rw [Synchronizer.breaksAt, he]
      have hshown : (r.synchronizer.apply e).1.shown = (r.synchronizer.handle n).1.shown := by
        rw [Synchronizer.handle, he]
      have hindex : (r.synchronizer.apply e).1.index =
          (r.index.handle r.synchronizer.filter n).1 := by
        rw [Index.handle, he]
        rfl
      simp only [deliver, he, applyEvent]
      split
      · rename_i h
        exact ⟨rfl, rfl, rfl, hindex, hshown, by simp [hne], by rw [hbreaks, if_pos h], rfl, rfl,
          rfl, rfl⟩
      · rename_i h
        split
        · exact ⟨rfl, rfl, rfl, hindex, hshown, by simp [hne], by rw [hbreaks, if_neg h], rfl, rfl,
            rfl, rfl⟩
        · exact ⟨rfl, rfl, rfl, hindex, hshown, by simp [hne], by rw [hbreaks, if_neg h], rfl, rfl,
            rfl, rfl⟩

/-! ### Calls -/

/-- A start is accepted if the resolver was not shut down and nobody has taken the
watch, which then runs. -/
theorem start_eq_ok_iff {r r' : Resolver} {now : Nat} :
    r.start now = .ok r' ↔ r.isStopped = false ∧ r.watch = .held ∧
      r' = { r with watch := .running, startup := .waiting now, joinable := true } := by
  unfold start
  split
  · rename_i hstopped
    simp [hstopped]
  · rename_i hstopped
    split
    · rename_i hwatch
      simp [hwatch]
    · rename_i hwatch
      simp [Bool.not_eq_true _ ▸ hstopped, Decidable.not_not.1 hwatch, eq_comm]

/-- A resolver that was shut down says so, whether it was started or not. -/
theorem start_eq_error_iff {r : Resolver} {now : Nat} {e : Error} :
    r.start now = .error e ↔ r.isStopped = true ∧ e = .stopped ∨
      r.isStopped = false ∧ r.watch ≠ .held ∧ e = .alreadyStarted := by
  unfold start
  split
  · rename_i hstopped
    simp [hstopped, eq_comm]
  · rename_i hstopped
    split
    · rename_i hwatch
      simp [Bool.not_eq_true _ ▸ hstopped, hwatch, eq_comm]
    · rename_i hwatch
      simp [Decidable.not_not.1 hwatch, hstopped]

theorem shutdown_of_isStopped {r : Resolver} (h : r.isStopped = true) (now : Nat) :
    r.shutdown now =
      (r.updateMetrics fun m => { m with repeatedShutdowns := m.repeatedShutdowns + 1 },
        .error .shutdownInProgress) := by
  rw [shutdown, if_pos h]

theorem isStopped_shutdown (r : Resolver) (now : Nat) : (r.shutdown now).1.isStopped = true := by
  unfold shutdown
  split
  · assumption
  · rfl

/-- The first shutdown is accepted, and no call that starts the resolver goes on waiting. -/
theorem shutdown_of_not_isStopped {r : Resolver} (h : r.isStopped = false) (now : Nat) :
    (r.shutdown now).2 = .ok () ∧
      ((r.shutdown now).1.startup = r.startup ∧ r.isStarting = false ∨
        r.isStarting = true ∧ ∃ elapsed, (r.shutdown now).1.startup = .returned elapsed) := by
  rw [shutdown, if_neg (Bool.not_eq_true _ ▸ h)]
  refine ⟨rfl, ?_⟩
  unfold isStarting
  cases r.startup with
  | waiting since => exact .inr ⟨rfl, _, rfl⟩
  | idle => exact .inl ⟨rfl, rfl⟩
  | returned elapsed => exact .inl ⟨rfl, rfl⟩

/-- A resolver before and after a call that is no business of the task. -/
structure Keeps (r r' : Resolver) : Prop where
  config : r'.config = r.config
  filter : r'.synchronizer.filter = r.synchronizer.filter
  observer : r'.synchronizer.observer = r.synchronizer.observer
  index : r'.index = r.index
  shown : r'.synchronizer.shown = r.synchronizer.shown
  observed : r'.synchronizer.observed = r.synchronizer.observed
  events : r'.metrics.events = r.metrics.events
  sizes : r'.metrics.sizes = r.metrics.sizes
  gauge : r'.metrics.synced = r.metrics.synced
  synced : r'.synced = r.synced
  watch : r'.watch = r.watch
  isStopped : r.isStopped = true → r'.isStopped = true
  /-- The task is told to stop when the resolver is shut down. -/
  isCancelled : r.isCancelled = r.isStopped → r'.isCancelled = r'.isStopped
  /-- A wait that ended because everything was listed is only noted when this is so. -/
  syncWaits : ∀ elapsed, (SyncWait.synced, elapsed) ∈ r'.metrics.syncWaits →
    (SyncWait.synced, elapsed) ∈ r.metrics.syncWaits ∨ r.synced = true

theorem Keeps.refl (r : Resolver) : r.Keeps r :=
  ⟨rfl, rfl, rfl, rfl, rfl, rfl, rfl, rfl, rfl, rfl, rfl, id, id, fun _ h => .inl h⟩

theorem keeps_checkStartup (r : Resolver) (now : Nat) : r.Keeps (r.checkStartup now) := by
  unfold checkStartup
  split
  · dsimp only
    split
    · rename_i hcheck
      exact ⟨rfl, rfl, rfl, rfl, rfl, rfl, rfl, rfl, rfl, rfl, rfl, id, id,
        fun _ _ => .inr hcheck.2⟩
    · split
      · refine ⟨rfl, rfl, rfl, rfl, rfl, rfl, rfl, rfl, rfl, rfl, rfl, id, id, fun elapsed h => ?_⟩
        rcases List.mem_append.1 h with h | h
        · exact .inl h
        · cases List.mem_singleton.1 h
      · exact .refl r
  · exact .refl r

theorem keeps_shutdown (r : Resolver) (now : Nat) : r.Keeps (r.shutdown now).1 := by
  unfold shutdown
  split
  · exact ⟨rfl, rfl, rfl, rfl, rfl, rfl, rfl, rfl, rfl, rfl, rfl, id, id, fun _ h => .inl h⟩
  · exact ⟨rfl, rfl, rfl, rfl, rfl, rfl, rfl, rfl, rfl, rfl, rfl, fun _ => rfl, fun _ => rfl,
      fun _ h => .inl h⟩

/-- The calls that wait for the task can change in any way. -/
theorem keeps_waits (r : Resolver) (waits : List Wait) (joinable : Bool) :
    r.Keeps { r with waits, joinable } :=
  ⟨rfl, rfl, rfl, rfl, rfl, rfl, rfl, rfl, rfl, rfl, rfl, id, id, fun _ h => .inl h⟩

theorem keeps_wait (r : Resolver) : r.Keeps r.wait := by
  unfold wait
  split
  · exact r.keeps_waits _ false
  · exact r.keeps_waits _ r.joinable

theorem keeps_wake (r : Resolver) : r.Keeps r.wake := by
  unfold wake
  split
  · exact r.keeps_waits _ false
  · exact .refl r

theorem keeps_abandon (r : Resolver) (call : Nat) : r.Keeps (r.abandon call) := by
  unfold abandon
  split
  · exact r.keeps_waits _ r.joinable
  · exact .refl r

/-! ### Calls that wait for the task -/

/-- A resolver before and after something that leaves the calls that wait for the task
alone. -/
structure SameWaits (r r' : Resolver) : Prop where
  waits : r'.waits = r.waits
  joinable : r'.joinable = r.joinable

theorem SameWaits.refl (r : Resolver) : r.SameWaits r := ⟨rfl, rfl⟩

theorem sameWaits_checkStartup (r : Resolver) (now : Nat) : r.SameWaits (r.checkStartup now) := by
  unfold checkStartup
  split
  · dsimp only
    split
    · exact ⟨rfl, rfl⟩
    · split
      · exact ⟨rfl, rfl⟩
      · exact .refl r
  · exact .refl r

theorem sameWaits_shutdown (r : Resolver) (now : Nat) : r.SameWaits (r.shutdown now).1 := by
  unfold shutdown
  split
  · exact ⟨rfl, rfl⟩
  · exact ⟨rfl, rfl⟩

theorem sameWaits_deliver (r : Resolver) (n : Notification) : r.SameWaits (r.deliver n) := by
  unfold deliver
  split
  · unfold markSynced
    split
    · exact .refl r
    · exact ⟨rfl, rfl⟩
  · unfold applyEvent
    dsimp only
    split
    · exact ⟨rfl, rfl⟩
    · split
      · exact ⟨rfl, rfl⟩
      · exact ⟨rfl, rfl⟩

/-! ### Everything but starting and stopping -/

/-- A resolver before and after something that neither starts nor stops it. -/
structure Proceeds (r r' : Resolver) : Prop where
  isStopped : r'.isStopped = r.isStopped
  isCancelled : r'.isCancelled = r.isCancelled
  held : r'.watch = .held ↔ r.watch = .held
  startup : r'.startup = r.startup ∨ r.isStarting = true ∧ ∃ elapsed, r'.startup = .returned elapsed

theorem Proceeds.refl (r : Resolver) : r.Proceeds r := ⟨rfl, rfl, Iff.rfl, .inl rfl⟩

theorem proceeds_checkStartup (r : Resolver) (now : Nat) : r.Proceeds (r.checkStartup now) := by
  unfold checkStartup
  split
  · rename_i since hwaiting
    have hstarting : r.isStarting = true := by rw [isStarting, hwaiting]
    dsimp only
    split
    · exact ⟨rfl, rfl, Iff.rfl, .inr ⟨hstarting, _, rfl⟩⟩
    · split
      · exact ⟨rfl, rfl, Iff.rfl, .inr ⟨hstarting, _, rfl⟩⟩
      · exact .refl r
  · exact .refl r

theorem proceeds_wait (r : Resolver) : r.Proceeds r.wait := by
  unfold wait
  split
  · exact ⟨rfl, rfl, Iff.rfl, .inl rfl⟩
  · exact ⟨rfl, rfl, Iff.rfl, .inl rfl⟩

theorem proceeds_wake (r : Resolver) : r.Proceeds r.wake := by
  unfold wake
  split
  · exact ⟨rfl, rfl, Iff.rfl, .inl rfl⟩
  · exact .refl r

theorem proceeds_abandon (r : Resolver) (call : Nat) : r.Proceeds (r.abandon call) := by
  unfold abandon
  split
  · exact ⟨rfl, rfl, Iff.rfl, .inl rfl⟩
  · exact .refl r

/-- The watch is not handed back when the task ends at a delivery. -/
theorem proceeds_deliver {r : Resolver} (hwatch : r.watch ≠ .held) (n : Notification) :
    r.Proceeds (r.deliver n) := by
  have hr := r.delivers_deliver n
  refine ⟨hr.isStopped, hr.isCancelled, ?_, .inl hr.startup⟩
  rw [hr.watch]
  split
  · simp [hwatch]
  · rfl

end Resolver

end NameOwners
