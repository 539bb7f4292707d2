import NameOwners.Proofs.System.Settling

/-!
The calls that wait for the task. Until the watch is taken there is no task, and such a
call returns at once (`Attended.idle`). A call that lines up later returns because the
task has ended, and then the task had a reason to (`HasReason`). What becomes of a call
is followed step by step: it stays as it is, unless it is pending and is joined or
abandoned (`call_of_step`). So once the task has ended every call returns before any
time passes, unless it is abandoned (`joinsAtOnce_of_ended`).
-/

namespace NameOwners

namespace Resolver

variable {r : Resolver} {call k : Nat} {w : Wait}

/-! ### One call -/

theorem canJoin_of_running (hwatch : r.watch = .running) (hjoin : r.joinable = true) :
    r.canJoin = false := by
  simp [canJoin, hwatch, hjoin]

theorem hasPending_eq_false (h : .pending ∉ r.waits) : r.hasPending = false := by
  simpa [hasPending] using h

theorem wait_of_idle (hjoin : r.joinable = false) (hnone : .pending ∉ r.waits) :
    r.wait = { r with waits := r.waits ++ [.joined] } := by
  simp [wait, hasPending_eq_false hnone, canJoin, hjoin]

theorem joinable_wait (h : r.canJoin = false) : r.wait.joinable = r.joinable := by
  simp [wait, h]

theorem wake_of_not_canJoin (h : r.canJoin = false) : r.wake = r := by
  simp [wake, h]

theorem wake_of_not_pending (h : .pending ∉ r.waits) : r.wake = r := by
  simp [wake, hasPending_eq_false h]

theorem abandon_of_not_pending (h : .pending ∉ r.waits) : r.abandon call = r :=
  if_neg fun hpending => h (List.mem_of_getElem? hpending)

theorem joinable_abandon (r : Resolver) (call : Nat) : (r.abandon call).joinable = r.joinable := by
  unfold abandon
  split
  · rfl
  · rfl

/-- A call that is made joins at once or lines up. -/
theorem exists_call_wait (r : Resolver) : ∃ w, r.wait.waits[r.waits.length]? = some w ∧
    (w = .joined ∧ r.canJoin = true ∨ w = .pending) := by
  unfold wait
  split
  · rename_i hfree
    rw [Bool.and_eq_true] at hfree
    exact ⟨.joined, List.getElem?_concat_length, .inl ⟨rfl, hfree.2⟩⟩
  · exact ⟨.pending, List.getElem?_concat_length, .inr rfl⟩

theorem call_wait (h : r.waits[call]? = some w) : r.wait.waits[call]? = some w := by
  obtain ⟨hlt, -⟩ := List.getElem?_eq_some_iff.1 h
  unfold wait
  split
  · exact (List.getElem?_append_left hlt).trans h
  · exact (List.getElem?_append_left hlt).trans h

theorem call_wake (h : r.waits[call]? = some w) : r.wake.waits[call]? = some w ∨
    w = .pending ∧ r.wake.waits[call]? = some .joined ∧ r.canJoin = true := by
  unfold wake
  split
  · rename_i hjoins
    rw [Bool.and_eq_true] at hjoins
    obtain ⟨hlt, -⟩ := List.getElem?_eq_some_iff.1 h
    by_cases hfirst : r.waits.idxOf .pending = call
    · have hpending : r.waits[call] = .pending := by
        subst hfirst
        exact List.getElem_idxOf hlt
      rw [List.getElem?_eq_getElem hlt, hpending] at h
      obtain rfl := Option.some.inj h
      exact .inr ⟨rfl, by simp [hfirst, hlt], hjoins.2⟩
    · exact .inl ((List.getElem?_set_ne hfirst).trans h)
  · exact .inl h

theorem call_abandon (h : r.waits[call]? = some w) : (r.abandon k).waits[call]? = some w ∨
    w = .pending ∧ (r.abandon k).waits[call]? = some .abandoned ∧ k = call := by
  unfold abandon
  split
  · rename_i hpending
    obtain ⟨hlt, -⟩ := List.getElem?_eq_some_iff.1 h
    by_cases hcall : k = call
    · subst hcall
      rw [hpending] at h
      obtain rfl := Option.some.inj h
      exact .inr ⟨rfl, by simp [hlt], rfl⟩
    · exact .inl ((List.getElem?_set_ne hcall).trans h)
  · exact .inl h

end Resolver

namespace System

variable {a : Option Answer} {c c' : Channel} {s : System} {r r' : Resolver} {call : Nat} {w : Wait}

/-! ### Why the task has ended -/

/-- The task has a reason to end: a shutdown, the end of the channel after everything was
taken from it, or a breakdown of the observer. -/
def HasReason (c : Channel) (r : Resolver) : Prop :=
  r.isStopped = true ∨ c.isOpen = false ∧ c.queued = [] ∨
    (Synchronizer.fresh r.config.filter r.synchronizer.observer).BreaksAtLast c.delivered

theorem HasReason.keeps (h : HasReason c r) (hr : r.Keeps r') : HasReason c r' := by
  rw [HasReason, hr.config, hr.observer]
  exact h.imp_left hr.isStopped

/-- A resolver whose task can be waited for. -/
structure Attended (c : Channel) (r : Resolver) : Prop where
  follows : Follows c r
  reason : r.watch = .ended → HasReason c r
  joinable : r.watch = .running → r.joinable = true
  /-- Before there is a task nothing is waited for. -/
  idle : r.watch = .held → r.joinable = false ∧ .pending ∉ r.waits

theorem attended_create (c : Channel) (config : ResolverConfig) (observer : Observer)
    (h : c.delivered = []) : Attended c (.create config observer) :=
  ⟨follows_create c config observer h, nofun, nofun, fun _ => ⟨rfl, List.not_mem_nil⟩⟩

namespace Attended

theorem keeps (h : Attended c r) (hr : r.Keeps r')
    (hjoinable : r.watch = .running → r'.joinable = true)
    (hidle : r.watch = .held → r'.joinable = false ∧ .pending ∉ r'.waits) : Attended c r' := by
  refine ⟨h.follows.keeps hr, fun hended => ?_, ?_, ?_⟩
  · exact (h.reason (hr.watch ▸ hended)).keeps hr
  · rwa [hr.watch]
  · rwa [hr.watch]

theorem sameWaits (h : Attended c r) (hr : r.Keeps r') (hwaits : r.SameWaits r') :
    Attended c r' := by
  refine h.keeps hr ?_ ?_
  · rw [hwaits.joinable]
    exact h.joinable
  · rw [hwaits.joinable, hwaits.waits]
    exact h.idle

/-- As long as the task runs nobody joins it. -/
theorem watch_of_canJoin (h : Attended c r) (htaken : r.watch ≠ .held) (hjoin : r.canJoin = true) :
    r.watch = .ended := by
  cases hwatch : r.watch with
  | held => exact absurd hwatch htaken
  | running =>
      rw [Resolver.canJoin_of_running hwatch (h.joinable hwatch)] at hjoin
      cases hjoin
  | ended => rfl

theorem move (hm : Move a c r c' r') (h : Attended c r) : Attended c' r' := by
  have hfollows := h.follows.move hm
  cases hm with
  | stay => exact h
  | push n hopen hwatch =>
      exact ⟨hfollows, fun hended => absurd hended hwatch, h.joinable, h.idle⟩
  | close =>
      refine ⟨hfollows, fun hended => ?_, h.joinable, h.idle⟩
      exact (h.reason hended).imp_right (.imp_left fun hclosed => ⟨rfl, hclosed.2⟩)
  | refuse now hrefused => exact h
  | start now hstopped hwatch => exact ⟨hfollows, nofun, fun _ => rfl, nofun⟩
  | check now => exact h.sameWaits (r.keeps_checkStartup now) (r.sameWaits_checkStartup now)
  | shutdown now => exact h.sameWaits (r.keeps_shutdown now) (r.sameWaits_shutdown now)
  | wait =>
      refine h.keeps r.keeps_wait (fun hrunning => ?_) fun hheld => ?_
      · have hjoin := h.joinable hrunning
        rw [Resolver.joinable_wait (Resolver.canJoin_of_running hrunning hjoin), hjoin]
      · obtain ⟨hjoin, hnone⟩ := h.idle hheld
        rw [Resolver.wait_of_idle hjoin hnone]
        exact ⟨hjoin, by simpa using hnone⟩
  | wake =>
      refine h.keeps r.keeps_wake (fun hrunning => ?_) fun hheld => ?_
      · have hjoin := h.joinable hrunning
        rw [Resolver.wake_of_not_canJoin (Resolver.canJoin_of_running hrunning hjoin), hjoin]
      · rw [Resolver.wake_of_not_pending (h.idle hheld).2]
        exact h.idle hheld
  | abandon call =>
      refine h.keeps (r.keeps_abandon call) ?_ fun hheld => ?_
      · rw [r.joinable_abandon]
        exact h.joinable
      · rw [Resolver.abandon_of_not_pending (h.idle hheld).2]
        exact h.idle hheld
  | deliver hwatch hcancelled hpop =>
      rename_i n
      have hr := r.delivers_deliver n
      have hjoin := (r.sameWaits_deliver n).joinable.trans (h.joinable hwatch)
      refine ⟨hfollows, fun hended => ?_, fun _ => hjoin, fun hheld => ?_⟩
      · rw [hr.watch, hwatch] at hended
        split at hended
        · rename_i hbreaks
          rw [HasReason, hr.config, hr.observer]
          exact .inr (.inr (h.follows.breaksAtLast hpop hbreaks))
        · cases hended
      · rw [hr.watch, hwatch] at hheld
        split at hheld <;> cases hheld
  | finish hwatch hend =>
      refine ⟨hfollows, fun _ => ?_, nofun, nofun⟩
      exact hend.imp (fun hstop => h.follows.cancelled ▸ hstop) fun hclosed => .inl hclosed.symm

end Attended

theorem has_attended (actions : List Action) : (({} : System).run actions).Has Attended :=
  has_run_of_moves attended_create Attended.move actions

/-- The watch is taken exactly if a start was accepted. -/
theorem taken_iff {actions : List Action} (hr : (({} : System).run actions).resolver = some r) :
    r.watch ≠ .held ↔ .start (.ok ()) ∈ ({} : System).answers actions := by
  rcases has_remembers actions with ⟨hnone, -⟩ | ⟨r', hbuilt, h⟩
  · rw [hnone] at hr
    cases hr
  · obtain rfl := hbuilt.eq_of_resolver hr
    exact h.started

/-! ### What becomes of a call -/

/-- Nothing but waiting changes the calls that wait. -/
theorem exists_waits_of_step (h : s.Built r) (a : Action) :
    ∃ r', (s.step a).Built r' ∧ (r'.waits = r.waits ∨ a = .wait ∧ r' = r.wait ∨
      a = .wake ∧ r' = r.wake ∨ ∃ k, a = .abandon k ∧ r' = r.abandon k) := by
  obtain ⟨hr, hw⟩ := h
  cases a with
  | wait => exact ⟨_, ⟨resolver_modify hr _, hw⟩, .inr (.inl ⟨rfl, rfl⟩)⟩
  | wake => exact ⟨_, ⟨resolver_modify hr _, hw⟩, .inr (.inr (.inl ⟨rfl, rfl⟩))⟩
  | abandon k => exact ⟨_, ⟨resolver_modify hr _, hw⟩, .inr (.inr (.inr ⟨k, rfl, rfl⟩))⟩
  | close => exact ⟨r, ⟨hr, hw⟩, .inl rfl⟩
  | build config observer =>
      refine ⟨r, ?_, .inl rfl⟩
      simp only [step, build]
      cases config.check with
      | error cause => exact ⟨hr, hw⟩
      | ok u =>
          simp only [Source.watch, hw]
          exact ⟨hr, rfl⟩
  | send n =>
      refine ⟨r, ?_, .inl rfl⟩
      simp only [step, send]
      split
      · exact ⟨hr, hw⟩
      · exact ⟨hr, hw⟩
  | start =>
      simp only [step, hr, start]
      cases hstart : r.start s.clock with
      | error e => exact ⟨r, ⟨hr, hw⟩, .inl rfl⟩
      | ok r' =>
          obtain ⟨-, -, rfl⟩ := Resolver.start_eq_ok_iff.1 hstart
          exact ⟨_, ⟨rfl, hw⟩, .inl rfl⟩
  | shutdown =>
      simp only [step, hr]
      exact ⟨_, ⟨rfl, hw⟩, .inl (r.sameWaits_shutdown _).waits⟩
  | poll =>
      simp only [step, poll, hr]
      split
      · exact ⟨r, ⟨hr, hw⟩, .inl rfl⟩
      · split
        · exact ⟨_, ⟨rfl, hw⟩, .inl rfl⟩
        · split
          · exact ⟨_, ⟨rfl, hw⟩, .inl (r.sameWaits_deliver _).waits⟩
          · split
            · exact ⟨r, ⟨hr, hw⟩, .inl rfl⟩
            · exact ⟨_, ⟨rfl, hw⟩, .inl rfl⟩
  | tick =>
      simp only [step]
      split
      · exact ⟨_, ⟨resolver_modify hr _, hw⟩, .inl (r.sameWaits_checkStartup _).waits⟩
      · exact ⟨r, ⟨hr, hw⟩, .inl rfl⟩

/-- A call stays as it is, unless it is pending and either the task can be joined or the
call is abandoned. -/
theorem call_of_step (h : s.Built r) (hcall : r.waits[call]? = some w) (a : Action) :
    ∃ r' w', (s.step a).Built r' ∧ r'.waits[call]? = some w' ∧
      (w' = w ∨ w = .pending ∧
        (w' = .joined ∧ r.canJoin = true ∨ w' = .abandoned ∧ a = .abandon call)) := by
  obtain ⟨r', hbuilt, hsame | ⟨-, rfl⟩ | ⟨-, rfl⟩ | ⟨k, rfl, rfl⟩⟩ := exists_waits_of_step h a
  · exact ⟨r', w, hbuilt, by rw [hsame, hcall], .inl rfl⟩
  · exact ⟨_, w, hbuilt, Resolver.call_wait hcall, .inl rfl⟩
  · rcases Resolver.call_wake hcall with hstays | ⟨hpending, hjoined, hjoin⟩
    · exact ⟨_, w, hbuilt, hstays, .inl rfl⟩
    · exact ⟨_, .joined, hbuilt, hjoined, .inr ⟨hpending, .inl ⟨rfl, hjoin⟩⟩⟩
  · rcases Resolver.call_abandon (k := k) hcall with hstays | ⟨hpending, habandoned, rfl⟩
    · exact ⟨_, w, hbuilt, hstays, .inl rfl⟩
    · exact ⟨_, .abandoned, hbuilt, habandoned, .inr ⟨hpending, .inr ⟨rfl, rfl⟩⟩⟩

/-- A call that is not pending any more stays as it is, and none is abandoned by itself. -/
theorem call_of_run (h : s.Built r) (hcall : r.waits[call]? = some w) (more : List Action) :
    ∃ r' w', (s.run more).Built r' ∧ r'.waits[call]? = some w' ∧
      (w' = w ∨ w = .pending ∧ (w' = .joined ∨ w' = .abandoned ∧ .abandon call ∈ more)) := by
  induction more generalizing s r w with
  | nil => exact ⟨r, w, h, hcall, .inl rfl⟩
  | cons a more ih =>
      obtain ⟨r₁, w₁, hbuilt₁, hcall₁, hw₁⟩ := call_of_step h hcall a
      obtain ⟨r₂, w₂, hbuilt₂, hcall₂, hw₂⟩ := ih hbuilt₁ hcall₁
      refine ⟨r₂, w₂, hbuilt₂, hcall₂, ?_⟩
      rcases hw₁ with rfl | ⟨hpending, ⟨rfl, -⟩ | ⟨rfl, rfl⟩⟩
      · exact hw₂.imp_right fun h => ⟨h.1, h.2.imp_right fun h => ⟨h.1, .tail a h.2⟩⟩
      · obtain rfl : w₂ = .joined := hw₂.resolve_right fun h => nomatch h.1
        exact .inr ⟨hpending, .inl rfl⟩
      · obtain rfl : w₂ = .abandoned := hw₂.resolve_right fun h => nomatch h.1
        exact .inr ⟨hpending, .inr ⟨rfl, .head more⟩⟩

/-- A call that lined up after the watch was taken is joined to nothing but a task that
has ended. -/
theorem watch_of_joined (h : s.Built r) (hattended : Attended s.channel r)
    (htaken : r.watch ≠ .held) (hcall : r.waits[call]? = some w)
    (hw : w = .joined → r.watch = .ended) {more : List Action} (h' : (s.run more).Built r')
    (hjoined : r'.waits[call]? = some .joined) : r'.watch = .ended := by
  induction more generalizing s r w with
  | nil =>
      obtain rfl := h.eq_of_resolver h'.resolver
      exact hw (Option.some.inj (hcall.symm.trans hjoined))
  | cons a more ih =>
      obtain ⟨r₁, w₁, hbuilt₁, hcall₁, hw₁⟩ := call_of_step h hcall a
      obtain ⟨r₂, hbuilt₂, hm⟩ := exists_move_of_step h a
      obtain rfl := hbuilt₁.eq_of_resolver hbuilt₂.resolver
      refine ih hbuilt₁ (hattended.move hm) (taken_of_move hm htaken) hcall₁ (fun hjoined₁ => ?_) h'
      have hended : r.watch = .ended := by
        rcases hw₁ with rfl | ⟨-, ⟨-, hjoin⟩ | ⟨rfl, -⟩⟩
        · exact hw hjoined₁
        · exact hattended.watch_of_canJoin htaken hjoin
        · cases hjoined₁
      exact (frozen_of_move hm hended).1

/-- A call that is made after the watch was taken returns at once only if the task has
ended. -/
theorem exists_call_of_wait (h : s.Built r) (hattended : Attended s.channel r)
    (htaken : r.watch ≠ .held) :
    ∃ w, (s.step .wait).Built r.wait ∧ Attended (s.step .wait).channel r.wait ∧
      r.wait.watch ≠ .held ∧ r.wait.waits[r.waits.length]? = some w ∧ w ≠ .abandoned ∧
      (w = .joined → r.wait.watch = .ended) := by
  obtain ⟨w, hcall, hw⟩ := r.exists_call_wait
  have hwatch := r.keeps_wait.watch
  refine ⟨w, ⟨resolver_modify h.resolver _, h.watched⟩, hattended.move .wait,
    by rwa [hwatch], hcall, ?_, fun hjoined => ?_⟩
  · rcases hw with ⟨rfl, -⟩ | rfl <;> nofun
  · rcases hw with ⟨-, hjoin⟩ | rfl
    · exact hwatch.trans (hattended.watch_of_canJoin htaken hjoin)
    · cases hjoined

/-! ### After the task -/

/-- Once the task has ended the index never changes. -/
theorem index_of_ended (h : s.Built r) (hattended : Attended s.channel r)
    (hended : r.watch = .ended) (more : List Action) :
    ∃ r', (s.run more).Built r' ∧ Attended (s.run more).channel r' ∧ r'.watch = .ended ∧
      r'.index = r.index := by
  obtain ⟨r', hbuilt, hattended', hended', hconfig, hobserver⟩ := kept_by_run
    (P := fun c' r' => Attended c' r' ∧ r'.watch = .ended ∧ r'.config = r.config ∧
      r'.synchronizer.observer = r.synchronizer.observer)
    (fun hm h => ⟨h.1.move hm, (frozen_of_move hm h.2.1).1,
      (config_of_move hm).1.trans h.2.2.1, (config_of_move hm).2.trans h.2.2.2⟩)
    h ⟨hattended, hended, rfl, rfl⟩ more
  have hdelivered := (frozen_run h hended more).1
  refine ⟨r', hbuilt, hattended', hended', ?_⟩
  rw [hattended'.follows.index, hconfig, hobserver, hdelivered, hattended.follows.index]

/-- A call that waits for the task has returned. -/
def Joined (s : System) (call : Nat) : Prop :=
  ∃ r, s.resolver = some r ∧ r.waits[call]? = some .joined

/-- A call that waits for the task returns by itself while no time passes, and unless it is
abandoned no time passes before. -/
def JoinsAtOnce (s : System) (call : Nat) : Prop :=
  s.settle.Joined call ∧
    ∀ more, .abandon call ∉ more → s.clock < (s.run more).clock → (s.run more).Joined call

theorem Joined.step (h : s.Built r) (hjoined : s.Joined call) (a : Action) :
    (s.step a).Joined call := by
  obtain ⟨r', hr', hcall⟩ := hjoined
  obtain rfl := h.eq_of_resolver hr'
  obtain ⟨r₁, w, hbuilt₁, hcall₁, hw⟩ := call_of_step h hcall a
  obtain rfl : w = .joined := hw.resolve_right fun h => nomatch h.1
  exact ⟨r₁, hbuilt₁.resolver, hcall₁⟩

/-- At rest after the end of the task every call has returned that was not abandoned. -/
theorem joined_of_isQuiet (h : s.Built r) (hattended : Attended s.channel r)
    (hended : r.watch = .ended) (hcall : r.waits[call]? = some w) (hw : w ≠ .abandoned)
    {more : List Action} (hkept : .abandon call ∉ more) (hquiet : (s.run more).isQuiet = true) :
    (s.run more).Joined call := by
  obtain ⟨r₁, w₁, hbuilt₁, hcall₁, hw₁⟩ := call_of_run h hcall more
  obtain ⟨r₂, hbuilt₂, -, hended₂, -⟩ := index_of_ended h hattended hended more
  obtain rfl := hbuilt₁.eq_of_resolver hbuilt₂.resolver
  refine ⟨r₁, hbuilt₁.resolver, ?_⟩
  cases w₁ with
  | pending =>
      have hnone := not_pending_of_isQuiet hbuilt₁.resolver hended₂ hquiet
      exact absurd (List.mem_of_getElem? hcall₁) hnone
  | joined => exact hcall₁
  | abandoned =>
      rcases hw₁ with rfl | ⟨-, hjoined | ⟨-, habandoned⟩⟩
      · exact absurd rfl hw
      · cases hjoined
      · exact absurd habandoned hkept

theorem joinsAtOnce_of_ended (h : s.Built r) (hattended : Attended s.channel r)
    (hended : r.watch = .ended) (hcall : r.waits[call]? = some w) (hw : w ≠ .abandoned) :
    s.JoinsAtOnce call := by
  constructor
  · obtain ⟨more, hown, hsettled⟩ := exists_run_of_becomes s.becomes_settle
    rw [← hsettled]
    refine joined_of_isQuiet h hattended hended hcall hw (fun habandon => ?_) ?_
    · cases List.all_eq_true.1 hown _ habandon
    · rw [hsettled]
      exact s.isQuiet_settle
  · intro more hkept hlater
    induction more using List.reverseRecOn with
    | nil => exact absurd hlater (Nat.lt_irrefl _)
    | append_singleton more a ih =>
        have hkept' : .abandon call ∉ more :=
          fun habandon => hkept (List.mem_append_left _ habandon)
        rw [run_append, run_cons, run_nil] at hlater ⊢
        obtain ⟨r', hbuilt, -⟩ := index_of_ended h hattended hended more
        refine Joined.step hbuilt ?_ a
        rcases Nat.lt_or_ge s.clock (s.run more).clock with hmoved | hstill
        · exact ih hkept' hmoved
        · -- The clock moves on for the first time, so there was nothing left to do.
          have hquiet := isQuiet_of_clock_lt (Nat.lt_of_le_of_lt hstill hlater)
          exact joined_of_isQuiet h hattended hended hcall hw hkept' hquiet

/-- In every run that began with nothing, of a call that waits for the task, whatever
became of the calls before it. Before a start was accepted it returns at once, and there
is no other trace of it. Made later, it does not return before the task has ended, over a
shutdown, or at the end of the channel after all that was sent was delivered, or because
the observer broke down at the last notification. Once it has returned, the index never
changes and every later call returns at once. And it does return at once when the task has
ended, unless it was abandoned. -/
theorem waits_join_the_task (actions : List Action) {r : Resolver}
    (hr : (({} : System).run actions).resolver = some r) :
    let s := ({} : System).run actions
    let call := r.waits.length
    (.start (.ok ()) ∉ ({} : System).answers actions →
      s.step .wait = { s with resolver := some { r with waits := r.waits ++ [.joined] } }) ∧
    (.start (.ok ()) ∈ ({} : System).answers actions → ∀ more,
      let t := s.run (.wait :: more)
      ∃ r', t.resolver = some r' ∧
        (t.Joined call → r'.watch = .ended ∧
          (r'.isStopped = true ∨
            t.channel.isOpen = false ∧
              t.channel.delivered = ({} : System).accepted (actions ++ .wait :: more) ∨
            (Synchronizer.fresh r'.config.filter r'.synchronizer.observer).BreaksAtLast
              t.channel.delivered) ∧
          ∀ later, ∃ r'', (t.run later).resolver = some r'' ∧ r''.index = r'.index ∧
            ((t.run later).step .wait).JoinsAtOnce r''.waits.length) ∧
        (r'.watch = .ended → .abandon call ∉ more → t.JoinsAtOnce call)) := by
  intro s call
  obtain ⟨hbuilt, hattended⟩ := (has_attended actions).of_resolver hr
  rw [← taken_iff hr]
  refine ⟨fun hheld => ?_, ?_⟩
  · obtain ⟨hjoin, hnone⟩ := hattended.idle (Decidable.not_not.1 hheld)
    simp only [step, modify, s, hr, Option.map_some, Resolver.wait_of_idle hjoin hnone]
  · intro htaken more t
    obtain ⟨w, hbuilt₀, hattended₀, htaken₀, hcall₀, hkept₀, hjoined₀⟩ :=
      exists_call_of_wait hbuilt hattended htaken
    obtain ⟨r', hbuilt', hattended'⟩ : ∃ r', t.Built r' ∧ Attended t.channel r' :=
      kept_by_run Attended.move hbuilt₀ hattended₀ more
    refine ⟨r', hbuilt'.resolver, fun hjoined => ?_, fun hended hkept => ?_⟩
    · obtain ⟨r'', hr'', hjoined⟩ := hjoined
      obtain rfl := hbuilt'.eq_of_resolver hr''
      have hended := watch_of_joined hbuilt₀ hattended₀ htaken₀ hcall₀ hjoined₀ hbuilt' hjoined
      refine ⟨hended, ?_, fun later => ?_⟩
      · refine (hattended'.reason hended).imp_right (.imp_left fun hdrained => ⟨hdrained.1, ?_⟩)
        have hrun : ({} : System).run (actions ++ .wait :: more) = t := run_append ..
        rw [← sent_eq_accepted, hrun, Channel.sent, hdrained.2, List.append_nil]
      · obtain ⟨r₁, hbuilt₁, hattended₁, hended₁, hindex⟩ :=
          index_of_ended hbuilt' hattended' hended later
        obtain ⟨w₁, hbuilt₂, hattended₂, -, hcall₂, hkept₂, -⟩ :=
          exists_call_of_wait hbuilt₁ hattended₁ (by simp [hended₁])
        have hended₂ := r₁.keeps_wait.watch.trans hended₁
        exact ⟨r₁, hbuilt₁.resolver, hindex,
          joinsAtOnce_of_ended hbuilt₂ hattended₂ hended₂ hcall₂ hkept₂⟩
    · obtain ⟨r₁, w₁, hbuilt₁, hcall₁, hw₁⟩ := call_of_run hbuilt₀ hcall₀ more
      obtain rfl := hbuilt'.eq_of_resolver hbuilt₁.resolver
      refine joinsAtOnce_of_ended hbuilt' hattended' hended hcall₁ ?_
      rintro rfl
      rcases hw₁ with rfl | ⟨-, hjoined | ⟨-, habandoned⟩⟩
      · exact hkept₀ rfl
      · cases hjoined
      · exact hkept habandoned

/-- Of four calls the first is made before the start and returns at once, and the second is
abandoned. The third still waits when the last is made; after a shutdown both return, and
so does every call after them. -/
theorem waits_join_the_task_of_many_calls :
    let n : Notification := .ofAdded ⟨"ns", "x", "www"⟩
    let idle : List Action := [.build {} .recording]
    let begun : List Action := idle ++ [.wait, .start, .send n, .poll, .wait, .wait, .abandon 1]
    let more : List Action := [.poll, .shutdown, .send n, .poll, .wake, .wake]
    let t := ({} : System).run (begun ++ .wait :: more)
    (({} : System).run (idle ++ [.wait])).Joined 0 ∧ t.Joined 3 ∧
      ∃ r, t.resolver = some r ∧ r.waits = [.joined, .abandoned, .joined, .joined] ∧
        r.watch = .ended ∧ ∀ later, ∃ r', (t.run later).resolver = some r' ∧ r'.index = r.index ∧
          ((t.run later).step .wait).JoinsAtOnce r'.waits.length := by
  intro n idle begun more t
  have hanswers : ({} : System).answers begun = [.start (.ok ())] := rfl
  have hnew : (({} : System).run idle).resolver = some (.create {} .recording) := rfl
  have hbefore : (({} : System).run begun).resolver.map Resolver.waits =
      some [.joined, .abandoned, .pending] := by decide +kernel
  have hthen : t.resolver.map Resolver.waits =
      some [.joined, .abandoned, .joined, .joined] := by decide +kernel
  obtain ⟨r₀, hr₀, hwaits₀⟩ := Option.map_eq_some_iff.1 hbefore
  obtain ⟨r, hr, hwaits⟩ := Option.map_eq_some_iff.1 hthen
  have hlast : t.Joined 3 := ⟨r, hr, by rw [hwaits]; rfl⟩
  obtain ⟨hidle, -⟩ := waits_join_the_task idle hnew
  obtain ⟨-, hlater⟩ := waits_join_the_task begun hr₀
  obtain ⟨r', hr', hjoined, -⟩ := hlater (by simp [hanswers]) more
  rw [← run_append] at hr' hjoined
  rw [hwaits₀] at hjoined
  obtain ⟨hended, -, hafter⟩ := hjoined hlast
  obtain rfl := Option.some.inj (hr.symm.trans hr')
  refine ⟨?_, hlast, r, hr, hwaits, hended, hafter⟩
  rw [run_append, run_cons, run_nil, hidle nofun]
  exact ⟨_, rfl, rfl⟩

/-- An observer that breaks down ends the task, and a call returns although nobody shut the
resolver down, the channel is open and something still waits in it. -/
theorem wait_returns_after_breakdown :
    let n : Notification := .ofAdded ⟨"ns", "s", "svc."⟩
    let actions : List Action := [.build {} (.failingAt "boom."),
      .send (.ofAdded ⟨"ns", "r", "boom."⟩), .send n, .start, .poll]
    let s := ({} : System).run (actions ++ [.wait])
    .start (.ok ()) ∈ ({} : System).answers actions ∧ s.Joined 0 ∧
      .shutdown (.ok ()) ∉ ({} : System).answers (actions ++ [.wait]) ∧
      s.channel.isOpen = true ∧ s.channel.queued = [n] := by
  intro n actions s
  have hanswers : ({} : System).answers actions = [.start (.ok ())] := rfl
  refine ⟨by simp [hanswers], ⟨_, rfl, rfl⟩, ?_, rfl, rfl⟩
  rw [answers_append, hanswers]
  exact fun hmem => nomatch List.mem_singleton.1 hmem

end System

end NameOwners
