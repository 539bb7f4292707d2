import NameOwners.Proofs.Startup
import NameOwners.Proofs.System.Settling

/-!
A call that starts the resolver returns in time. From the call on, a run tells when the
task first takes the end of a listing and when the resolver is first shut down
(`delay`). What happens in a system is one of the steps that `CallStep` knows, and no
step changes what has happened, so throughout the run the call is where these times
put it (`Paced`).
-/

namespace NameOwners

namespace System

/-! ### When something happens -/

/-- The time at which something of a kind first happens in a run. -/
def timeOf? (happens : System → Action → Bool) : System → List Action → Option Nat
  | _, [] => none
  | s, a :: actions => if happens s a then some s.clock else (s.step a).timeOf? happens actions

/-- How long after the beginning of a run something of a kind first happens in it. -/
def delay (happens : System → Action → Bool) (s : System) (actions : List Action) : ℕ∞ :=
  match s.timeOf? happens actions with
  | some t => ((t - s.clock : Nat) : ℕ∞)
  | none => ⊤

/-- After this action the task has taken the end of a listing. -/
def lists (s : System) (a : Action) : Bool :=
  (s.step a).channel.delivered.any Notification.isSynced

def shutsDown (_ : System) : Action → Bool
  | .shutdown => true
  | _ => false

variable {happens : System → Action → Bool}

theorem timeOf?_concat (s : System) (actions : List Action) (a : Action) :
    s.timeOf? happens (actions ++ [a]) = (s.timeOf? happens actions).or
      (if happens (s.run actions) a then some (s.run actions).clock else none) := by
  induction actions generalizing s with
  | nil => rfl
  | cons b actions ih =>
      rw [List.cons_append, timeOf?, timeOf?, run_cons]
      split
      · rfl
      · exact ih (s.step b)

theorem delay_concat (s : System) (actions : List Action) (a : Action) :
    s.delay happens (actions ++ [a]) = firstOf (s.delay happens actions)
      ((s.run actions).clock - s.clock) (happens (s.run actions) a) := by
  unfold delay firstOf
  rw [timeOf?_concat]
  cases s.timeOf? happens actions with
  | none =>
      cases happens (s.run actions) a with
      | false => rfl
      | true => rfl
  | some t => exact (if_neg (ENat.natCast_ne_top _)).symm

theorem delay_of_timeOf? {s : System} {actions : List Action} {t : Nat}
    (h : s.timeOf? happens actions = some t) :
    s.delay happens actions = (t - s.clock : Nat) := by
  rw [delay, h]

theorem delay_of_never {s : System} {actions : List Action}
    (h : s.timeOf? happens actions = none) : s.delay happens actions = ⊤ := by
  rw [delay, h]

/-! ### Steps -/

theorem exists_callStep {s : System} {r : Resolver} (h : s.Built r) (htaken : r.watch ≠ .held)
    (a : Action) : ∃ r', (s.step a).resolver = some r' ∧
      CallStep s.clock r (s.shutsDown a) (s.step a).clock r' := by
  cases a with
  | build config observer =>
      refine ⟨r, ?_⟩
      simp only [step, build]
      cases config.check with
      | error cause => exact ⟨h.resolver, .rest (.refl r)⟩
      | ok u =>
          simp only [Source.watch, h.watched]
          exact ⟨h.resolver, .rest (.refl r)⟩
  | send n =>
      refine ⟨r, ?_⟩
      simp only [step, send]
      split
      · exact ⟨h.resolver, .rest (.refl r)⟩
      · exact ⟨h.resolver, .rest (.refl r)⟩
  | close => exact ⟨r, h.resolver, .rest (.refl r)⟩
  | start =>
      simp only [step, h.resolver, start]
      cases hstart : r.start s.clock with
      | error e => exact ⟨r, h.resolver, .rest (.refl r)⟩
      | ok r' => exact absurd (Resolver.start_eq_ok_iff.1 hstart).2.1 htaken
  | shutdown =>
      simp only [step, h.resolver]
      exact ⟨_, rfl, .shutdown⟩
  | wait => exact ⟨_, resolver_modify h.resolver _, .rest r.sameCall_wait⟩
  | abandon call => exact ⟨_, resolver_modify h.resolver _, .rest (r.sameCall_abandon call)⟩
  | wake => exact ⟨_, resolver_modify h.resolver _, .rest r.sameCall_wake⟩
  | poll =>
      simp only [step, poll, h.resolver]
      split
      · exact ⟨r, h.resolver, .rest (.refl r)⟩
      · split
        · exact ⟨_, rfl, .rest ⟨rfl, rfl, rfl⟩⟩
        · split
          · exact ⟨_, rfl, .rest (r.sameCall_deliver _)⟩
          · split
            · exact ⟨r, h.resolver, .rest (.refl r)⟩
            · exact ⟨_, rfl, .rest ⟨rfl, rfl, rfl⟩⟩
  | tick =>
      simp only [step]
      split
      · exact ⟨_, resolver_modify h.resolver _, .look⟩
      · exact ⟨r, h.resolver, .rest (.refl r)⟩

/-- A system in which a call started the resolver at a given time, with the times, counted
from then on, at which everything was listed and the resolver shut down, if so far. -/
structure Paced (begun : Nat) (listed stopped : ℕ∞) (s : System) (r : Resolver) : Prop where
  follows : Follows s.channel r
  taken : r.watch ≠ .held
  clock : begun ≤ s.clock
  datesListed : Dates listed (s.clock - begun) r.synced
  datesStopped : Dates stopped (s.clock - begun) r.isStopped
  call : Undisputed listed stopped → CallAt begun (s.clock - begun) listed stopped r

theorem Follows.synced_eq {c : Channel} {r : Resolver} (h : Follows c r) :
    c.delivered.any Notification.isSynced = r.synced := by
  rw [Bool.eq_iff_iff, h.synced, List.any_eq_true]
  constructor
  · rintro ⟨n, hn, hsynced⟩
    cases n with
    | synced => exact hn
    | _ => cases hsynced
  · exact fun hn => ⟨.synced, hn, rfl⟩

theorem Paced.step {begun : Nat} {listed stopped : ℕ∞} {s : System} {r : Resolver}
    (hbuilt : s.Built r) (h : Paced begun listed stopped s r) (a : Action) :
    ∃ r', (s.step a).Built r' ∧ Paced begun (firstOf listed (s.clock - begun) (s.lists a))
      (firstOf stopped (s.clock - begun) (s.shutsDown a)) (s.step a) r' := by
  obtain ⟨r', hr', hstep⟩ := exists_callStep hbuilt h.taken a
  obtain ⟨r'', hbuilt', hmove⟩ := exists_move_of_step hbuilt a
  obtain rfl := Option.some.inj (hr'.symm.trans hbuilt'.resolver)
  have hfollows := h.follows.move hmove
  have hlists : s.lists a = r'.synced := hfollows.synced_eq
  have hstays : r'.synced = (r.synced || r'.synced) := by
    cases hsynced : r.synced with
    | false => rfl
    | true =>
        rw [Bool.true_or, hfollows.synced]
        exact (delivered_prefix_of_move hmove).subset (h.follows.synced.1 hsynced)
  have hle : s.clock - begun ≤ (s.step a).clock - begun := Nat.sub_le_sub_right hstep.le begun
  rw [hlists]
  refine ⟨r', hbuilt', hfollows, taken_of_move hmove h.taken, h.clock.trans hstep.le,
    h.datesListed.step hstays hle, h.datesStopped.step hstep.isStopped hle, fun hundisputed => ?_⟩
  have hcall := h.call hundisputed.of_firstOf
  exact CallAt.step hstep h.clock h.datesListed h.datesStopped hcall hundisputed

theorem Paced.run {s : System} {r : Resolver} (hbuilt : s.Built r) (h : Paced s.clock ⊤ ⊤ s r)
    (actions : List Action) :
    ∃ r', (s.run actions).Built r' ∧ Paced s.clock (s.delay lists actions)
      (s.delay shutsDown actions) (s.run actions) r' := by
  induction actions using List.reverseRecOn with
  | nil => exact ⟨r, hbuilt, h⟩
  | append_singleton actions a ih =>
      obtain ⟨r', hbuilt', hpaced⟩ := ih
      rw [delay_concat, delay_concat, run_append]
      exact hpaced.step hbuilt' a

/-! ### The beginning -/

/-- As long as nobody has taken the watch there is no call that starts the resolver. -/
def Unstarted (r : Resolver) : Prop :=
  r.watch = .held → r.startup = .idle ∧ r.metrics.syncWaits = []

theorem Unstarted.not_isStarting {r : Resolver} (h : Unstarted r) (hheld : r.watch = .held) :
    r.isStarting = false := by
  rw [Resolver.isStarting, (h hheld).1]

theorem Unstarted.keeps {r r' : Resolver} (h : Unstarted r) (hsame : r.SameCall r')
    (hwatch : r'.watch = r.watch) : Unstarted r' := by
  unfold Unstarted
  rw [hsame.startup, hsame.syncWaits, hwatch]
  exact h

theorem Unstarted.move {a : Option Answer} {c c' : Channel} {r r' : Resolver}
    (hm : Move a c r c' r') (h : Unstarted r) : Unstarted r' := by
  cases hm with
  | stay => exact h
  | push n hopen hwatch => exact h
  | close => exact h
  | refuse now hrefused => exact h
  | start now hstopped hwatch =>
      intro hheld
      cases hheld
  | check now =>
      intro hheld
      rw [(r.keeps_checkStartup now).watch] at hheld
      rw [Resolver.checkStartup_of_not_isStarting (h.not_isStarting hheld)]
      exact h hheld
  | shutdown now =>
      intro hheld
      rw [(r.keeps_shutdown now).watch] at hheld
      rw [Resolver.syncWaits_shutdown,
        Resolver.startup_shutdown_of_not_isStarting (h.not_isStarting hheld)]
      exact h hheld
  | wait => exact h.keeps r.sameCall_wait r.keeps_wait.watch
  | wake => exact h.keeps r.sameCall_wake r.keeps_wake.watch
  | abandon call => exact h.keeps (r.sameCall_abandon call) (r.keeps_abandon call).watch
  | deliver hwatch hcancelled hpop =>
      intro hheld
      have hrunning : r.watch ≠ .held := by simp [hwatch]
      exact absurd ((Resolver.proceeds_deliver hrunning _).held.1 hheld) hrunning
  | finish hwatch hend =>
      intro hheld
      cases hheld

theorem has_unstarted (actions : List Action) :
    (({} : System).run actions).Has fun _ => Unstarted :=
  has_run_of_moves (fun _ _ _ _ _ => ⟨rfl, rfl⟩) Unstarted.move actions

/-- The first start takes the watch, before anything was listed. -/
theorem paced_start {actions : List Action} {r : Resolver}
    (hr : (({} : System).run actions).resolver = some r) (hcreated : r.phase = .created) :
    (({} : System).run actions).answer? .start = some (.start (.ok ())) ∧
    let s := ({} : System).run (actions ++ [.start])
    ∃ r', s.Built r' ∧ Paced s.clock ⊤ ⊤ s r' := by
  obtain ⟨hbuilt, hfollows⟩ := (has_follows actions).of_resolver hr
  obtain ⟨-, hnothing⟩ := (has_unstarted actions).of_resolver hr
  obtain ⟨hstopped, hheld⟩ := Resolver.phase_eq_created_iff.1 hcreated
  let now := (({} : System).run actions).clock
  let started : Resolver :=
    { r with watch := .running, startup := .waiting now, joinable := true }
  have hstart : r.start now = .ok started :=
    Resolver.start_eq_ok_iff.2 ⟨hstopped, hheld, rfl⟩
  have hafter : ({} : System).run (actions ++ [.start]) =
      { ({} : System).run actions with resolver := some started } := by
    rw [run_append, run_cons, run_nil]
    simp only [step, hr, start, now, hstart]
  have hunlisted : r.synced = false := by
    rw [← Bool.not_eq_true, hfollows.synced, hfollows.untouched hheld]
    exact List.not_mem_nil
  have htaken : Watch.running ≠ .held := by decide
  constructor
  · rw [answer?_start hr, hstart]
    rfl
  · rw [hafter]
    refine ⟨started, ⟨rfl, hbuilt.watched⟩, hfollows.move (.start now hstopped hheld), htaken,
      Nat.le_refl now, ?_, ?_, fun _ => ?_⟩
    · exact .of_not_yet hunlisted
    · exact .of_not_yet hstopped
    · refine .waiting ?_ rfl (hnothing hheld).2
      rw [Nat.sub_self, returnsAt_top_left]
      decide

/-! ### What is queued beforehand -/

/-- A task that was not stopped has nothing left to take when the system is quiet. -/
theorem Follows.queued_eq_nil {s : System} {r : Resolver} (h : Follows s.channel r)
    (hbuilt : s.Built r) (htaken : r.watch ≠ .held) (hopen : r.isStopped = false)
    (hobserver : r.synchronizer.observer.IsSteady) (hquiet : s.isQuiet = true) :
    s.channel.queued = [] := by
  cases hwatch : r.watch with
  | held => exact absurd hwatch htaken
  | running =>
      by_contra hqueued
      have hpoll : s.canPoll = true :=
        canPoll_iff.2 ⟨r, hbuilt.resolver, hwatch, .inr (.inl hqueued)⟩
      rw [isQuiet, hpoll] at hquiet
      cases hquiet
  | ended =>
      rcases h.complete hwatch with hstopped | hnothing | hbroken
      · rw [hopen] at hstopped
        cases hstopped
      · exact hnothing
      · let fresh := Synchronizer.fresh r.config.filter r.synchronizer.observer
        exact absurd hbroken (fresh.not_breaksAtLast hobserver _)

/-- The end of a listing that waits for the task is taken before any time passes. -/
theorem Paced.listed_at_once {s : System} {r : Resolver} (hbuilt : s.Built r)
    (h : Paced s.clock ⊤ ⊤ s r) (hqueued : .synced ∈ s.channel.queued)
    (hobserver : r.synchronizer.observer.IsSteady) {actions : List Action}
    (hstopped : s.delay shutsDown actions ≠ 0) (hlater : s.clock < (s.run actions).clock) :
    s.delay lists actions = 0 := by
  induction actions using List.reverseRecOn with
  | nil => exact absurd hlater (Nat.lt_irrefl _)
  | append_singleton actions a ih =>
      rw [delay_concat] at hstopped ⊢
      rw [run_append] at hlater
      have hearlier : s.delay shutsDown actions ≠ 0 := by
        intro hstopped'
        rw [hstopped', firstOf_zero] at hstopped
        exact hstopped rfl
      suffices hlisted : s.delay lists actions = 0 by rw [hlisted, firstOf_zero]
      rcases Nat.lt_or_ge s.clock (s.run actions).clock with hmoved | hstill
      · exact ih hearlier hmoved
      -- The clock moves on for the first time, so there is nothing left to take.
      obtain ⟨r', hbuilt', hpaced⟩ := h.run hbuilt actions
      have hclock : (s.run actions).clock - s.clock = 0 := Nat.sub_eq_zero_of_le hstill
      have hquiet : (s.run actions).isQuiet = true :=
        isQuiet_of_clock_lt (Nat.lt_of_le_of_lt hstill hlater)
      have hopen : r'.isStopped = false := by
        refine Bool.eq_false_iff.2 fun hstop => hearlier ?_
        have hdates := hpaced.datesStopped
        rw [hstop, hclock] at hdates
        exact nonpos_iff_eq_zero.1 hdates
      have hnothing : (s.run actions).channel.queued = [] := by
        refine hpaced.follows.queued_eq_nil hbuilt' hpaced.taken hopen ?_ hquiet
        rwa [observer_run hbuilt hbuilt']
      have hsent : .synced ∈ (s.run actions).channel.sent := by
        rw [sent_run, Channel.sent]
        simp [hqueued]
      rw [Channel.sent, hnothing, List.append_nil] at hsent
      have hdates := hpaced.datesListed
      rw [hpaced.follows.synced.2 hsent, hclock] at hdates
      exact nonpos_iff_eq_zero.1 hdates

/-- Once the task has ended without the end of a listing it takes none. -/
theorem Paced.never_listed {s : System} {r r' : Resolver} (hbuilt : s.Built r)
    (h : Paced s.clock ⊤ ⊤ s r) {actions : List Action} (hbuilt' : (s.run actions).Built r')
    (hended : r'.watch = .ended) (hlisted : s.delay lists actions = ⊤) (more : List Action) :
    s.delay lists (actions ++ more) = ⊤ := by
  obtain ⟨r₁, hbuilt₁, hbefore⟩ := h.run hbuilt actions
  obtain rfl := hbuilt₁.eq_of_resolver hbuilt'.resolver
  obtain ⟨r₂, -, hafter⟩ := h.run hbuilt (actions ++ more)
  have hunsynced : r₁.synced = false := (hlisted ▸ hbefore.datesListed).eq_false
  have hsame : (s.run (actions ++ more)).channel.delivered = (s.run actions).channel.delivered := by
    rw [run_append, (frozen_run hbuilt' hended more).1]
  have hunsynced' : r₂.synced = false := by
    rw [← hafter.follows.synced_eq, hsame, hbefore.follows.synced_eq, hunsynced]
  have hdates := hafter.datesListed
  rwa [hunsynced'] at hdates

/-- In every run that began with nothing, from the call that starts the resolver on. The
call is accepted. Where no time is disputed, it returns at a shutdown, at its first look
that finds everything listed or at the deadline, whichever comes first, and waits until
then. A wait that ends by itself is noted, and one that is cut short is not, also if
everything was listed. The end of a listing that waits for the task when the call is made
is taken at once, and a task that has ended takes none. However much goes on, time
passes. -/
theorem start_returns_in_time (before during : List Action) {r₀ : Resolver}
    (hr₀ : (({} : System).run before).resolver = some r₀) (hcreated : r₀.phase = .created) :
    let begun := ({} : System).run (before ++ [.start])
    let s := begun.run during
    let elapsed := s.clock - begun.clock
    let listed := begun.delay lists during
    let stopped := begun.delay shutsDown during
    let seen := seenAt listed
    (({} : System).run before).answer? .start = some (.start (.ok ())) ∧
    ∃ r, s.resolver = some r ∧
      (Undisputed listed stopped →
        (elapsed < min stopped (min seen 5000) →
          r.startup = .waiting begun.clock ∧ r.metrics.syncWaits = []) ∧
        (min stopped (min seen 5000) ≤ elapsed →
          ∃ t : Nat, min stopped (min seen 5000) = t ∧ r.startup = .returned t ∧
            (seen < min stopped 5000 → r.metrics.syncWaits = [(.synced, t)]) ∧
            (5000 < min stopped seen → r.metrics.syncWaits = [(.timedOut, 5000)]) ∧
            (stopped < min seen 5000 → r.metrics.syncWaits = []))) ∧
      (.synced ∈ begun.channel.queued → r.synchronizer.observer.IsSteady →
        stopped ≠ 0 → 0 < elapsed → listed = 0) ∧
      (r.watch = .ended → listed = ⊤ → ∀ more, begun.delay lists (during ++ more) = ⊤) ∧
      ∀ k, ∃ more, more.all Action.isOwn = true ∧ (s.run more).clock = s.clock + k := by
  intro begun s elapsed listed stopped seen
  obtain ⟨haccepted, r₁, hbuilt₁, hpaced₁⟩ := paced_start hr₀ hcreated
  obtain ⟨r, hbuilt, hpaced⟩ := hpaced₁.run hbuilt₁ during
  refine ⟨haccepted, r, hbuilt.resolver, fun hundisputed => ?_,
    fun hqueued hobserver hopen hlater => ?_, fun hended hnever more => ?_, s.exists_run_of_time⟩
  · cases hpaced.call hundisputed with
    | waiting hopen hstartup hnothing =>
        exact ⟨fun _ => ⟨hstartup, hnothing⟩, fun hover => absurd hopen (not_lt.2 hover)⟩
    | returned hover ht hreturned hnoted =>
        refine ⟨fun hopen => absurd hopen (not_lt.2 (ht.trans_le (Nat.cast_le.2 hover))),
          fun _ => ⟨_, ht, hreturned, fun hseen => ?_, fun hexpired => ?_, fun hcut => ?_⟩⟩
        · rw [hnoted, noted_of_seen hseen ht]
        · rw [hnoted, noted_of_expired hexpired]
        · rw [hnoted, noted_of_cut hcut]
  · rw [observer_run hbuilt₁ hbuilt] at hobserver
    exact hpaced₁.listed_at_once hbuilt₁ hqueued hobserver hopen (Nat.lt_of_sub_pos hlater)
  · exact hpaced₁.never_listed hbuilt₁ hbuilt hended hnever more

/-- Everything is listed after 30 ms. A call that nobody disturbs sees it after 100 ms,
which is noted. If the resolver is shut down after 50 ms the call returns then, and
nothing is noted. -/
theorem start_returns_in_time_of_listed :
    let before : List Action := [.build {} .recording]
    let begun := ({} : System).run (before ++ [.start])
    let ticks (k : Nat) : List Action := List.replicate k .tick
    let listing : List Action := [.send .synced, .poll]
    let stop : List Action := [.shutdown, .poll]
    let patient := ticks 30 ++ listing ++ ticks 80
    let hasty := ticks 30 ++ listing ++ ticks 20 ++ stop ++ ticks 60
    (∃ r, (begun.run patient).resolver = some r ∧ r.startup = .returned 100 ∧
      r.metrics.syncWaits = [(.synced, 100)]) ∧
    ∃ r, (begun.run hasty).resolver = some r ∧ r.startup = .returned 50 ∧
      r.metrics.syncWaits = [] := by
  intro before begun ticks listing stop patient hasty
  have hr₀ : (({} : System).run before).resolver = some (.create {} .recording) := rfl
  have hseen : seenAt 30 = 100 := seenAt_natCast 30
  have hsteady (stopped : ℕ∞) (hoff : OffBeat stopped) : Undisputed 30 stopped :=
    ⟨offBeat_natCast (t := 30) (by decide), hoff, by decide⟩
  constructor
  · have hlisted : begun.delay lists patient = 30 := delay_of_timeOf? (by decide +kernel)
    have hstopped : begun.delay shutsDown patient = ⊤ := delay_of_never (by decide +kernel)
    have helapsed : (begun.run patient).clock - begun.clock = 110 := by decide +kernel
    obtain ⟨-, r, hr, hcall, -⟩ := start_returns_in_time before patient hr₀ rfl
    rw [hlisted, hstopped, helapsed, hseen] at hcall
    obtain ⟨-, hreturned⟩ := hcall (hsteady ⊤ offBeat_top)
    obtain ⟨t, ht, hstartup, hnoted, -⟩ := hreturned (by decide)
    obtain rfl : t = 100 := Nat.cast_inj.1 (ht.symm.trans (by decide : _ = ((100 : Nat) : ℕ∞)))
    exact ⟨r, hr, hstartup, hnoted (by decide)⟩
  · have hlisted : begun.delay lists hasty = 30 := delay_of_timeOf? (by decide +kernel)
    have hstopped : begun.delay shutsDown hasty = 50 := delay_of_timeOf? (by decide +kernel)
    have helapsed : (begun.run hasty).clock - begun.clock = 110 := by decide +kernel
    obtain ⟨-, r, hr, hcall, -⟩ := start_returns_in_time before hasty hr₀ rfl
    rw [hlisted, hstopped, helapsed, hseen] at hcall
    obtain ⟨-, hreturned⟩ := hcall (hsteady 50 (offBeat_natCast (by decide)))
    obtain ⟨t, ht, hstartup, -, -, hnoted⟩ := hreturned (by decide)
    obtain rfl : t = 50 := Nat.cast_inj.1 (ht.symm.trans (by decide : _ = ((50 : Nat) : ℕ∞)))
    exact ⟨r, hr, hstartup, hnoted (by decide)⟩

end System

end NameOwners
