import Mathlib.Logic.Relation
import NameOwners.Proofs.System.Delivery
import NameOwners.Proofs.System.Lifecycle

/-!
What goes on by itself comes to rest. A step of the task takes a notification or ends
the task, and a step of the calls that wait lets one of them go, so each of them
leaves less to do (`toDo`), and a system that was given its workload in steps is quiet
(`isQuiet_settle`). To let a system settle, or to let time pass in it, is to let a
number of such steps and ticks happen (`OwnStep`); so they keep what the silent moves
keep. In such a system a call that starts the resolver returns in time
(`isStarting_awaitStart`).
-/

namespace NameOwners

namespace Resolver

/-- A starting call that goes on waiting when it looks at the clock has time left. -/
theorem elapsed_lt_of_checkStartup {r : Resolver} {now since : Nat}
    (h : (r.checkStartup now).startup = .waiting since) : now - since < syncTimeout := by
  unfold checkStartup at h
  split at h
  · rename_i begun hbegun
    dsimp only at h
    split at h
    · cases h
    · split at h
      · cases h
      · rename_i hintime
        obtain rfl := Startup.waiting.inj (hbegun.symm.trans h)
        exact Nat.lt_of_not_le hintime
  · rename_i hidle
    exact absurd h (hidle since)

end Resolver

namespace System

/-! ### Coming to rest -/

/-- How much there is left to do: every notification that waits is to be taken, the
task is to end, and every call that waits for it is to return. -/
def toDo (s : System) : Nat :=
  s.channel.queued.length +
    match s.resolver with
    | some r => (if r.watch = .running then 1 else 0) + r.waits.count .pending
    | none => 0

theorem toDo_le_workload (s : System) : s.toDo ≤ s.workload := by
  unfold toDo workload
  cases s.resolver with
  | none => exact Nat.le_add_right _ 2
  | some r =>
      dsimp only
      split
      · omega
      · omega

theorem canPoll_iff {s : System} :
    s.canPoll = true ↔ ∃ r, s.resolver = some r ∧ r.watch = .running ∧
      (r.isCancelled = true ∨ s.channel.queued ≠ [] ∨ s.channel.isOpen = false) := by
  unfold canPoll
  split
  · rename_i hnone
    simp [hnone]
  · rename_i r hr
    simp [hr, or_assoc]

theorem canWake_iff {s : System} :
    s.canWake = true ↔ ∃ r, s.resolver = some r ∧ .pending ∈ r.waits ∧ r.canJoin = true := by
  unfold canWake
  split
  · rename_i hnone
    simp [hnone]
  · rename_i r hr
    simp [hr, Resolver.hasPending]

/-- The task takes a notification, or it ends. -/
theorem toDo_poll_lt {s : System} (h : s.canPoll = true) : s.poll.toDo < s.toDo := by
  obtain ⟨r, hr, hwatch, hcause⟩ := canPoll_iff.1 h
  simp only [poll, hr, hwatch, ne_eq, not_true_eq_false, if_false]
  split
  · simp [toDo, hr, hwatch]
  · rename_i hcancelled
    split
    · rename_i n d hpop
      have hqueued := (Channel.eq_of_pop? hpop).2
      have hwaits := (r.sameWaits_deliver n).waits
      simp only [toDo, hr, hwatch, hwaits, hqueued, List.length_cons, if_true]
      split
      · omega
      · omega
    · rename_i hpop
      have hclosed : s.channel.isOpen = false := by
        have hqueued := queued_eq_nil_of_pop? hpop
        simpa [hcancelled, hqueued] using hcause
      simp [toDo, hr, hwatch, hclosed]

/-- The first call in line returns. -/
theorem toDo_wake_lt {s : System} (h : s.canWake = true) : s.wake.toDo < s.toDo := by
  obtain ⟨r, hr, hpending, hjoin⟩ := canWake_iff.1 h
  have hwake : r.wake =
      { r with waits := r.waits.set (r.waits.idxOf .pending) .joined, joinable := false } := by
    rw [Resolver.wake, if_pos (by simp [Resolver.hasPending, hpending, hjoin])]
  have hplace := List.idxOf_lt_length_of_mem hpending
  have hfirst : r.waits[r.waits.idxOf .pending] = .pending := List.getElem_idxOf hplace
  have hcount : 0 < r.waits.count .pending := List.count_pos_iff.2 hpending
  simp only [toDo, wake, modify, hr, Option.map_some, hwake, List.count_set hplace, hfirst]
  simp
  omega

theorem isQuiet_of_toDo_eq_zero {s : System} (h : s.toDo = 0) : s.isQuiet = true := by
  rw [isQuiet, Bool.and_eq_true, Bool.not_eq_true', Bool.not_eq_true']
  constructor
  · refine Bool.eq_false_iff.2 fun hpoll => ?_
    have := toDo_poll_lt hpoll
    omega
  · refine Bool.eq_false_iff.2 fun hwake => ?_
    have := toDo_wake_lt hwake
    omega

theorem isQuiet_work {fuel : Nat} {s : System} (h : s.toDo ≤ fuel) :
    (s.work fuel).isQuiet = true := by
  induction fuel generalizing s with
  | zero => exact isQuiet_of_toDo_eq_zero (Nat.le_zero.1 h)
  | succ fuel ih =>
      unfold work
      split
      · rename_i hpoll
        have := toDo_poll_lt hpoll
        exact ih (by omega)
      · rename_i hpoll
        split
        · rename_i hwake
          have := toDo_wake_lt hwake
          exact ih (by omega)
        · rename_i hwake
          simp [isQuiet, hpoll, hwake]

/-- A system that has settled has nothing left that goes on by itself. -/
theorem isQuiet_settle (s : System) : s.settle.isQuiet = true :=
  isQuiet_work s.toDo_le_workload

/-- At rest no call waits for a task that has ended. -/
theorem not_pending_of_isQuiet {s : System} {r : Resolver} (hr : s.resolver = some r)
    (hended : r.watch = .ended) (hquiet : s.isQuiet = true) : .pending ∉ r.waits := by
  intro hpending
  have hwake : s.canWake = true :=
    canWake_iff.2 ⟨r, hr, hpending, by simp [Resolver.canJoin, hended]⟩
  rw [isQuiet, hwake, Bool.not_true, Bool.and_false] at hquiet
  cases hquiet

/-! ### Steps of its own -/

/-- A step that a system does by itself. Time passes only when nothing else does. -/
inductive OwnStep (s : System) : System → Prop
  | poll : OwnStep s s.poll
  | wake : OwnStep s s.wake
  | tick (hquiet : s.isQuiet = true) : OwnStep s s.tick

/-- A system becomes another one by itself. -/
abbrev Becomes : System → System → Prop := Relation.ReflTransGen OwnStep

def Action.isOwn : Action → Bool
  | .poll | .wake | .tick => true
  | _ => false

theorem exists_action_of_ownStep {s t : System} (h : s.OwnStep t) :
    ∃ a : Action, a.isOwn = true ∧ s.step a = t := by
  cases h with
  | poll => exact ⟨.poll, rfl, rfl⟩
  | wake => exact ⟨.wake, rfl, rfl⟩
  | tick hquiet => exact ⟨.tick, rfl, if_pos hquiet⟩

/-- What becomes of a system by itself comes of a run that nobody disturbs. -/
theorem exists_run_of_becomes {s t : System} (h : s.Becomes t) :
    ∃ actions, actions.all Action.isOwn = true ∧ s.run actions = t := by
  induction h with
  | refl => exact ⟨[], rfl, rfl⟩
  | tail _ hstep ih =>
      obtain ⟨actions, hown, rfl⟩ := ih
      obtain ⟨a, ha, rfl⟩ := exists_action_of_ownStep hstep
      refine ⟨actions ++ [a], ?_, run_append ..⟩
      rw [List.all_append, hown, List.all_cons, ha]
      rfl

theorem becomes_work (fuel : Nat) (s : System) : s.Becomes (s.work fuel) := by
  induction fuel generalizing s with
  | zero => exact .refl
  | succ fuel ih =>
      unfold work
      split
      · exact (ih s.poll).head .poll
      · split
        · exact (ih s.wake).head .wake
        · exact .refl

theorem becomes_settle (s : System) : s.Becomes s.settle :=
  s.becomes_work _

/-- The clock stands still while a system settles, and then moves on. -/
theorem becomes_settle_tick (s : System) : s.Becomes s.settle.tick :=
  s.becomes_settle.tail (.tick s.isQuiet_settle)

theorem becomes_elapseUntilStarted (fuel : Nat) (s : System) :
    s.Becomes (s.elapseUntilStarted fuel) := by
  induction fuel generalizing s with
  | zero => exact s.becomes_settle
  | succ fuel ih =>
      unfold elapseUntilStarted
      split
      · exact s.becomes_settle_tick.trans (ih _)
      · exact .refl

theorem becomes_awaitStart (s : System) : s.Becomes s.awaitStart :=
  s.becomes_elapseUntilStarted _

theorem exists_move_of_ownStep {s t : System} {r : Resolver} (h : s.Built r) (ht : s.OwnStep t) :
    ∃ r', t.Built r' ∧ Move none s.channel r t.channel r' := by
  cases ht with
  | poll => exact exists_move_of_step h .poll
  | wake => exact exists_move_of_step h .wake
  | tick hquiet =>
      have hmove := exists_move_of_step h .tick
      rw [step, if_pos hquiet] at hmove
      exact hmove

/-- What the silent moves keep is kept by all that goes on by itself. -/
theorem kept_by_itself {P : Channel → Resolver → Prop}
    (hmove : ∀ {c r c' r'}, Move none c r c' r' → P c r → P c' r') {s t : System} {r : Resolver}
    (h : s.Built r) (hP : P s.channel r) (ht : s.Becomes t) :
    ∃ r', t.Built r' ∧ P t.channel r' := by
  induction ht with
  | refl => exact ⟨r, h, hP⟩
  | tail _ hstep ih =>
      obtain ⟨r₁, h₁, hP₁⟩ := ih
      obtain ⟨r₂, h₂, hm⟩ := exists_move_of_ownStep h₁ hstep
      exact ⟨r₂, h₂, hmove hm hP₁⟩

/-! ### The starting call returns -/

theorem clock_poll (s : System) : s.poll.clock = s.clock := by
  unfold poll
  split
  · rfl
  · split
    · rfl
    · split
      · rfl
      · split
        · rfl
        · split
          · rfl
          · rfl

theorem clock_work (fuel : Nat) (s : System) : (s.work fuel).clock = s.clock := by
  induction fuel generalizing s with
  | zero => rfl
  | succ fuel ih =>
      unfold work
      split
      · rw [ih, clock_poll]
      · split
        · exact ih s.wake
        · rfl

theorem clock_settle (s : System) : s.settle.clock = s.clock :=
  s.clock_work _

/-- The clock moves on only when nothing else does. -/
theorem isQuiet_of_clock_lt {s : System} {a : Action} (h : s.clock < (s.step a).clock) :
    s.isQuiet = true := by
  by_contra hbusy
  have hstill : (s.step a).clock = s.clock := by
    cases a with
    | tick => rw [step, if_neg hbusy]
    | build config observer =>
        simp only [step, build]
        split
        · rfl
        · split
          · rfl
          · rfl
    | send n =>
        simp only [step, send]
        split
        · rfl
        · rfl
    | start =>
        simp only [step, start]
        split
        · split
          · rfl
          · rfl
        · rfl
    | shutdown =>
        simp only [step]
        split
        · rfl
        · rfl
    | poll => exact s.clock_poll
    | _ => rfl
  exact Nat.ne_of_gt h hstill

/-- The call that started the resolver was made at a given time and still waits. -/
def WaitsSince (s : System) (since : Nat) : Prop :=
  ∃ r, s.resolver = some r ∧ r.startup = .waiting since

theorem isStarting_eq_true_iff {s : System} :
    s.isStarting = true ↔ ∃ since, s.WaitsSince since := by
  unfold isStarting WaitsSince
  cases s.resolver with
  | none => simp
  | some r =>
      cases hstartup : r.startup with
      | idle => simp [Resolver.isStarting, hstartup]
      | waiting since => simp [Resolver.isStarting, hstartup]
      | returned elapsed => simp [Resolver.isStarting, hstartup]

/-- No call that starts the resolver begins by itself. -/
theorem WaitsSince.of_becomes {s t : System} {r : Resolver} {since : Nat} (h : s.Built r)
    (ht : s.Becomes t) (hwaits : t.WaitsSince since) : s.WaitsSince since := by
  obtain ⟨r', hbuilt, hback⟩ := kept_by_itself
    (P := fun _ r' => ∀ since, r'.startup = .waiting since → r.startup = .waiting since)
    (fun hm hback since hstartup => by
      rcases hm.proceeds.startup with hsame | ⟨-, elapsed, hreturned⟩
      · exact hback since (hsame ▸ hstartup)
      · rw [hreturned] at hstartup
        cases hstartup)
    h (fun _ => id) ht
  obtain ⟨r'', hr'', hstartup⟩ := hwaits
  obtain rfl := hbuilt.eq_of_resolver hr''
  exact ⟨r, h.resolver, hback since hstartup⟩

theorem clock_tick (s : System) : s.tick.clock = s.clock + 1 := rfl

/-- However much goes on by itself, any time passes in the end. -/
theorem exists_run_of_time (s : System) (k : Nat) :
    ∃ actions, actions.all Action.isOwn = true ∧ (s.run actions).clock = s.clock + k := by
  induction k with
  | zero => exact ⟨[], rfl, rfl⟩
  | succ k ih =>
      obtain ⟨actions, hown, hclock⟩ := ih
      obtain ⟨more, hmore, htick⟩ := exists_run_of_becomes (s.run actions).becomes_settle_tick
      refine ⟨actions ++ more, by rw [List.all_append, hown, hmore]; rfl, ?_⟩
      rw [run_append, htick, clock_tick, clock_settle, hclock, Nat.add_assoc]

/-- A call that still waits after a tick has looked at the clock in time. -/
theorem WaitsSince.of_tick {s : System} {since : Nat} (h : s.tick.WaitsSince since) :
    s.tick.clock < since + syncTimeout := by
  obtain ⟨r', hr', hstartup⟩ := h
  obtain ⟨r, -, rfl⟩ := Option.map_eq_some_iff.1 hr'
  have helapsed := Resolver.elapsed_lt_of_checkStartup hstartup
  rw [clock_tick]
  omega

/-- The call that starts the resolver returns, in time: it waits no more once it has
waited for as long as it may. -/
theorem isStarting_elapseUntilStarted {fuel : Nat} {s : System} {r : Resolver} (h : s.Built r)
    (hwaits : ∀ since, s.WaitsSince since →
      s.clock < since + syncTimeout ∧ since + syncTimeout ≤ s.clock + fuel) :
    (s.elapseUntilStarted fuel).isStarting = false := by
  induction fuel generalizing s r with
  | zero =>
      refine Bool.eq_false_iff.2 fun hstarting => ?_
      obtain ⟨since, hsince⟩ := isStarting_eq_true_iff.1 hstarting
      obtain ⟨hintime, hover⟩ := hwaits since (hsince.of_becomes h s.becomes_settle)
      omega
  | succ fuel ih =>
      unfold elapseUntilStarted
      split
      · obtain ⟨r', hbuilt, -⟩ := kept_by_itself (P := fun _ _ => True) (fun _ => id) h trivial
          s.becomes_settle_tick
        refine ih hbuilt fun since hsince => ⟨hsince.of_tick, ?_⟩
        obtain ⟨-, hover⟩ := hwaits since (hsince.of_becomes h s.becomes_settle_tick)
        rw [clock_tick, clock_settle]
        omega
      · rename_i hstarting
        exact Bool.eq_false_iff.2 hstarting

theorem isStarting_awaitStart {s : System} {r : Resolver} (h : s.Built r)
    (hstartup : r.startup = .waiting s.clock) : s.awaitStart.isStarting = false := by
  refine isStarting_elapseUntilStarted h fun since hsince => ?_
  obtain ⟨r', hr', hwaiting⟩ := hsince
  obtain rfl := h.eq_of_resolver hr'
  obtain rfl := Startup.waiting.inj (hstartup.symm.trans hwaiting)
  exact ⟨Nat.lt_add_of_pos_right (by decide), Nat.le_refl _⟩

end System

end NameOwners
