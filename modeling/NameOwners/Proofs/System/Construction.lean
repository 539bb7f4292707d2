import Mathlib.Data.List.DropRight
import NameOwners.Proofs.System.SyncWait

/-!
Building a resolver. The configuration is checked before anybody asks for the watch, so
an attempt that fails over its configuration leaves the source as it was, and of the
others the first is handed the channel (`status_run`). The channel keeps what is sent
for whoever that will be. So however many attempts have failed before, the resolver
that was built is delivered everything from the first notification on.
-/

namespace NameOwners

/-! ### Faults of a configuration -/

/-- A text is blank exactly if nothing is left of it once it is trimmed. -/
theorem Text.isBlankText_iff {s : String} : isBlankText s = true ↔ trim s.toList = [] := by
  have hfront : (∀ c ∈ s.toList.dropWhile isBlank, isBlank c = true) ↔
      ∀ c ∈ s.toList, isBlank c = true := by
    rw [← List.dropWhile_eq_nil_iff, List.dropWhile_idempotent, List.dropWhile_eq_nil_iff]
  rw [isBlankText, trim, List.reverse_eq_nil_iff, List.dropWhile_eq_nil_iff, List.all_eq_true]
  simp only [List.mem_reverse, hfront]

namespace ResolverConfig

def HasFault (c : ResolverConfig) : Prop :=
  c.minTtl = 0 ∨ c.failureThreshold = 0 ∨ ∃ ns ∈ c.namespaces, Text.trim ns.toList = []

/-- The fault that is reported: a limit before a namespace, and of the namespaces the
first. -/
inductive FirstFault (c : ResolverConfig) : ConfigError → Prop
  | minTtl (hzero : c.minTtl = 0) : FirstFault c .zeroMinTtl
  | failureThreshold (hminTtl : c.minTtl ≠ 0) (hzero : c.failureThreshold = 0) :
      FirstFault c .zeroFailureThreshold
  | namespaces {before after : List String} {ns : String} (hminTtl : c.minTtl ≠ 0)
      (hthreshold : c.failureThreshold ≠ 0) (hplace : c.namespaces = before ++ ns :: after)
      (hblank : Text.trim ns.toList = []) (hbefore : ∀ m ∈ before, Text.trim m.toList ≠ []) :
      FirstFault c (.blankNamespace ns)

variable {c : ResolverConfig}

theorem check_eq_error_iff {cause : ConfigError} : c.check = .error cause ↔ c.FirstFault cause := by
  unfold check
  constructor
  · intro h
    split at h
    · rename_i hzero
      cases h
      exact .minTtl hzero
    · rename_i hminTtl
      split at h
      · rename_i hzero
        cases h
        exact .failureThreshold hminTtl hzero
      · rename_i hthreshold
        split at h
        · rename_i ns hfind
          cases h
          obtain ⟨hblank, before, after, hplace, hbefore⟩ := List.find?_eq_some_iff_append.1 hfind
          refine .namespaces hminTtl hthreshold hplace (Text.isBlankText_iff.1 hblank) ?_
          intro m hm htrim
          have hother := hbefore m hm
          rw [Text.isBlankText_iff.2 htrim] at hother
          cases hother
        · cases h
  · intro h
    cases h with
    | minTtl hzero => rw [if_pos hzero]
    | failureThreshold hminTtl hzero => rw [if_neg hminTtl, if_pos hzero]
    | @namespaces before after ns hminTtl hthreshold hplace hblank hbefore =>
        have hfind : c.namespaces.find? Text.isBlankText = some ns := by
          refine List.find?_eq_some_iff_append.2
            ⟨Text.isBlankText_iff.2 hblank, before, after, hplace, fun m hm => ?_⟩
          rw [Bool.not_eq_true', Bool.eq_false_iff, ne_eq, Text.isBlankText_iff]
          exact hbefore m hm
        rw [if_neg hminTtl, if_neg hthreshold, hfind]

theorem check_eq_ok_iff : c.check = .ok () ↔ ¬c.HasFault := by
  unfold check HasFault
  simp only [not_or, not_exists, not_and, ← Text.isBlankText_iff]
  split
  · rename_i hzero
    simp [hzero]
  · rename_i hminTtl
    split
    · rename_i hzero
      simp [hzero]
    · rename_i hthreshold
      split
      · rename_i ns hfind
        have hblank := List.find?_some hfind
        exact iff_of_false nofun fun hsound =>
          hsound.2.2 ns (List.mem_of_find?_eq_some hfind) hblank
      · rename_i hfind
        exact iff_of_true rfl ⟨hminTtl, hthreshold, fun ns hns => List.find?_eq_none.1 hfind ns hns⟩

/-- There is something to report exactly if there is a fault. -/
theorem exists_firstFault_iff : (∃ cause, c.FirstFault cause) ↔ c.HasFault := by
  simp only [← check_eq_error_iff]
  rw [← not_iff_not, ← check_eq_ok_iff]
  cases c.check with
  | error cause => simp
  | ok u => simp

end ResolverConfig

namespace System

variable {s : System} {config : ResolverConfig} {observer : Observer}

/-! ### One attempt -/

/-- An attempt with a faulty configuration changes nothing. -/
theorem build_of_firstFault {cause : ConfigError} (h : config.FirstFault cause) :
    s.build config observer = (s, .error (.config cause)) := by
  rw [build, ResolverConfig.check_eq_error_iff.2 h]

theorem build_of_ready (observer : Observer) (h : ¬config.HasFault)
    (hready : s.source.status = .ready) :
    s.build config observer =
      ({ s with
          source := ⟨.watched, s.source.asked ++ [resyncPeriod]⟩
          resolver := some (.create config observer) }, .ok ()) := by
  simp only [build, ResolverConfig.check_eq_ok_iff.2 h, Source.watch, hready]

theorem build_of_watched (observer : Observer) (h : ¬config.HasFault)
    (hwatched : s.source.status = .watched) :
    s.build config observer =
      ({ s with source := ⟨.watched, s.source.asked ++ [resyncPeriod]⟩ },
        .error (.source .alreadyWatched)) := by
  simp only [build, ResolverConfig.check_eq_ok_iff.2 h, Source.watch, hwatched]

/-- The configuration is looked at first. -/
theorem build_eq_config_iff {cause : ConfigError} :
    (s.build config observer).2 = .error (.config cause) ↔ config.FirstFault cause := by
  rw [← ResolverConfig.check_eq_error_iff, build]
  cases config.check with
  | error fault => simp
  | ok u =>
      cases s.source.watch resyncPeriod with
      | mk source result =>
          cases result with
          | error reason => simp
          | ok v => simp

/-! ### Many attempts -/

/-- Among some actions is an attempt to build a resolver without a fault. -/
def Attempted (actions : List Action) : Prop :=
  ∃ config observer, .build config observer ∈ actions ∧ ¬config.HasFault

theorem attempted_concat_iff {actions : List Action} {a : Action} :
    Attempted (actions ++ [a]) ↔
      Attempted actions ∨ ∃ config observer, a = .build config observer ∧ ¬config.HasFault := by
  simp only [Attempted, List.mem_append, List.mem_singleton, or_and_right, exists_or, eq_comm]

/-- Nothing but an attempt asks for the watch. -/
theorem idle_step {a : Action} (hnone : s.resolver = none) (hready : s.source.status = .ready)
    (ha : ¬∃ config observer, a = .build config observer) :
    (s.step a).source.status = .ready ∧ (s.step a).resolver = none := by
  cases a with
  | build config observer => exact absurd ⟨config, observer, rfl⟩ ha
  | send n =>
      simp only [step, send]
      split
      · exact ⟨hready, hnone⟩
      · exact ⟨hready, hnone⟩
  | tick =>
      simp only [step]
      split
      · exact ⟨hready, by simp [tick, modify, hnone]⟩
      · exact ⟨hready, hnone⟩
  | _ => simp [step, close, poll, wake, modify, hnone, hready]

/-- Until the first attempt without a fault nobody has asked for the watch, and from then
on there is a resolver. -/
theorem status_run (actions : List Action) :
    let s := ({} : System).run actions
    ¬Attempted actions ∧ s.source.status = .ready ∧ s.resolver = none ∨
      Attempted actions ∧ ∃ r, s.Built r := by
  induction actions using List.reverseRecOn with
  | nil => exact .inl ⟨by simp [Attempted], rfl, rfl⟩
  | append_singleton actions a ih =>
      rw [attempted_concat_iff, run_append, run_cons, run_nil]
      rcases ih with ⟨hnever, hready, hnone⟩ | ⟨hattempted, r, hbuilt⟩
      · by_cases ha : ∃ config observer, a = .build config observer
        · obtain ⟨config, observer, rfl⟩ := ha
          by_cases hfault : config.HasFault
          · obtain ⟨cause, hfirst⟩ := ResolverConfig.exists_firstFault_iff.2 hfault
            rw [step, build_of_firstFault hfirst]
            refine .inl ⟨?_, hready, hnone⟩
            rintro (hattempted | ⟨config', observer', hbuild, hsound⟩)
            · exact hnever hattempted
            · cases hbuild
              exact hsound hfault
          · rw [step, build_of_ready observer hfault hready]
            exact .inr ⟨.inr ⟨config, observer, rfl, hfault⟩, _, rfl, rfl⟩
        · refine .inl ⟨?_, idle_step hnone hready ha⟩
          rintro (hattempted | ⟨config, observer, hbuild, -⟩)
          · exact hnever hattempted
          · exact ha ⟨config, observer, hbuild⟩
      · obtain ⟨r', hbuilt', -⟩ := exists_move_of_step hbuilt a
        exact .inr ⟨.inl hattempted, r', hbuilt'⟩

/-! ### What is sent -/

def Action.sends (actions : List Action) : List Notification :=
  actions.filterMap fun
    | .send n => some n
    | _ => none

theorem isOpen_of_idle_step {a : Action} (hnone : s.resolver = none)
    (h : (s.step a).channel.isOpen = true) : s.channel.isOpen = true := by
  cases a with
  | close => cases h
  | build config observer =>
      simp only [step, build] at h
      split at h
      · exact h
      · split at h
        · exact h
        · exact h
  | send n =>
      simp only [step, send] at h
      split at h
      · exact h
      · exact h
  | tick =>
      simp only [step] at h
      split at h
      · exact h
      · exact h
  | _ => simpa [step, poll, wake, modify, hnone] using h

/-- A channel that is closed is not opened again. -/
theorem isOpen_of_step {actions : List Action} {a : Action}
    (h : ((({} : System).run actions).step a).channel.isOpen = true) :
    (({} : System).run actions).channel.isOpen = true := by
  rcases has_follows actions with ⟨hnone, -⟩ | ⟨r, hbuilt, -⟩
  · exact isOpen_of_idle_step hnone h
  · obtain ⟨r', -, hm⟩ := exists_move_of_step hbuilt a
    by_contra hclosed
    rw [(closed_of_move hm (Bool.eq_false_iff.2 hclosed)).1] at h
    cases h

/-- Once nobody takes what is sent any more, nobody ever does. -/
theorem receives_of_step {actions : List Action} {a : Action}
    (h : ((({} : System).run actions).step a).receives = true) :
    (({} : System).run actions).receives = true := by
  rcases has_follows actions with ⟨hnone, -⟩ | ⟨r, hbuilt, -⟩
  · rw [receives, hnone]
  · obtain ⟨r', hbuilt', hm⟩ := exists_move_of_step hbuilt a
    simp only [receives, hbuilt.resolver, hbuilt'.resolver, decide_eq_true_eq] at h ⊢
    exact fun hended => h (frozen_of_move hm hended).1

/-- As long as the channel is open and somebody may take what is sent, everything is
accepted. -/
theorem accepted_eq_sends {actions : List Action}
    (hopen : (({} : System).run actions).channel.isOpen = true)
    (hreceives : (({} : System).run actions).receives = true) :
    ({} : System).accepted actions = Action.sends actions := by
  induction actions using List.reverseRecOn with
  | nil => rfl
  | append_singleton actions a ih =>
      rw [run_append, run_cons, run_nil] at hopen hreceives
      have hopen' := isOpen_of_step hopen
      have hreceives' := receives_of_step hreceives
      rw [accepted_append, ih hopen' hreceives', Action.sends, Action.sends,
        List.filterMap_append, accepted, accepted, List.append_nil]
      cases a with
      | send n => simp [acceptedBy, send, hopen', hreceives']
      | _ => rfl

theorem accepted_of_isOwn {actions : List Action} (h : actions.all Action.isOwn = true) :
    s.accepted actions = [] := by
  induction actions generalizing s with
  | nil => rfl
  | cons a actions ih =>
      rw [List.all_cons, Bool.and_eq_true] at h
      rw [accepted, ih h.2, List.append_nil]
      cases a with
      | send n => cases h.1
      | _ => rfl

theorem sent_of_becomes {t : System} (h : s.Becomes t) : t.channel.sent = s.channel.sent := by
  obtain ⟨actions, hown, rfl⟩ := exists_run_of_becomes h
  rw [sent_run, accepted_of_isOwn hown, List.append_nil]

/-- A start takes the watch, or finds it taken. -/
theorem taken_of_start {a : Option Answer} {result : Except Error Unit} {c c' : Channel}
    {r r' : Resolver} (hm : Move a c r c' r') (ha : a = some (.start result))
    (hopen : r.isStopped = false) : r'.watch ≠ .held ∧ r'.isStopped = false := by
  cases hm with
  | refuse now hrefused =>
      rcases Resolver.start_eq_error_iff.1 hrefused with ⟨hstopped, -⟩ | ⟨-, htaken, -⟩
      · rw [hopen] at hstopped
        cases hstopped
      · exact ⟨htaken, hopen⟩
  | start now hstopped hwatch => exact ⟨nofun, hstopped⟩
  | _ => cases ha

/-- A resolver that was not shut down is delivered everything, once it is started. -/
theorem delivered_of_start {actions : List Action} {r : Resolver}
    (hr : (({} : System).run actions).resolver = some r) (hopen : r.isStopped = false)
    (hobserver : r.synchronizer.observer.IsSteady) :
    ((({} : System).run actions).step .start).settle.channel.delivered =
      ({} : System).accepted actions := by
  obtain ⟨hbuilt, hfollows⟩ := (has_follows actions).of_resolver hr
  obtain ⟨r₁, hbuilt₁, hm⟩ := exists_move_of_step hbuilt .start
  obtain ⟨htaken₁, hopen₁⟩ := taken_of_start hm (answer?_start hr) hopen
  have hobserver₁ := (config_of_move hm).2
  let s₁ := (({} : System).run actions).step .start
  obtain ⟨r₂, hbuilt₂, hfollows₂, htaken₂, hopen₂, hobserver₂⟩ := kept_by_itself
    (P := fun c r' => Follows c r' ∧ r'.watch ≠ .held ∧ r'.isStopped = false ∧
      r'.synchronizer.observer = r.synchronizer.observer)
    (fun hm h => ⟨h.1.move hm, taken_of_move hm h.2.1,
      hm.proceeds.isStopped.trans h.2.2.1, (config_of_move hm).2.trans h.2.2.2⟩)
    hbuilt₁ ⟨hfollows.move hm, htaken₁, hopen₁, hobserver₁⟩ s₁.becomes_settle
  have hnothing : s₁.settle.channel.queued = [] :=
    hfollows₂.queued_eq_nil hbuilt₂ htaken₂ hopen₂ (by rwa [hobserver₂]) s₁.isQuiet_settle
  have hsent : s₁.settle.channel.sent = ({} : System).accepted actions := by
    rw [sent_of_becomes s₁.becomes_settle, sent_step, sent_eq_accepted]
    exact List.append_nil _
  rwa [Channel.sent, hnothing, List.append_nil] at hsent

/-- In every run that began with nothing, of which the attempt may come after any number
of others. It fails over its configuration exactly if this has a fault, of which the
first is reported, whether or not the source is still to be had; of the attempts without
a fault the first succeeds, and all others fail over the source. An attempt that fails
leaves channel, source and resolver as they were. After the one that succeeds, what the
channel has delivered and what still waits in it is all that was ever accepted, from the
first notification on, and nothing is refused as long as the channel is open and the
task has not ended; and once the resolver is started, unless it was shut down, all of it
is delivered. -/
theorem failed_attempts_leave_the_source (before : List Action) (config : ResolverConfig)
    (observer : Observer) :
    let s := ({} : System).run before
    let attempt := s.build config observer
    (∀ cause, attempt.2 = .error (.config cause) ↔ config.FirstFault cause) ∧
    ((∃ cause, attempt.2 = .error (.config cause)) ↔ config.HasFault) ∧
    (attempt.2 = .ok () ↔ ¬config.HasFault ∧ ¬Attempted before) ∧
    (attempt.2 = .error (.source .alreadyWatched) ↔ ¬config.HasFault ∧ Attempted before) ∧
    (attempt.2 ≠ .ok () → attempt.1.channel = s.channel ∧ attempt.1.resolver = s.resolver ∧
      attempt.1.source.status = s.source.status) ∧
    (attempt.2 = .ok () → ∀ more,
      let actions := before ++ .build config observer :: more
      let t := ({} : System).run actions
      let sent := ({} : System).accepted actions
      ∃ r, t.resolver = some r ∧ r.config = config ∧
        t.channel.delivered ++ t.channel.queued = sent ∧
        (t.channel.isOpen = true → r.watch ≠ .ended → sent = Action.sends actions) ∧
        (r.isStopped = false → observer.IsSteady →
          (t.step .start).settle.channel.delivered = sent)) := by
  intro s attempt
  refine ⟨fun cause => build_eq_config_iff, ?_, ?_⟩
  · simp only [attempt, build_eq_config_iff, ResolverConfig.exists_firstFault_iff]
  by_cases hfault : config.HasFault
  · obtain ⟨cause, hfirst⟩ := ResolverConfig.exists_firstFault_iff.2 hfault
    have hattempt : attempt = (s, .error (.config cause)) := build_of_firstFault hfirst
    simp [hattempt, hfault]
  · rcases status_run before with ⟨hnever, hready, hnone⟩ | ⟨hattempted, r, hbuilt⟩
    · have hattempt := build_of_ready observer hfault hready
      have hok : attempt.2 = .ok () := congrArg Prod.snd hattempt
      refine ⟨by simp [hok, hfault, hnever], by simp [hok, hnever],
        fun hfailed => absurd hok hfailed, fun _ more => ?_⟩
      have hafter : (s.step (.build config observer)).Built (.create config observer) := by
        rw [step, hattempt]
        exact ⟨rfl, rfl⟩
      obtain ⟨r, hbuilt, hconfig, hobserver⟩ := kept_by_run
        (P := fun _ r => r.config = config ∧ r.synchronizer.observer = observer)
        (fun hm h => ⟨(config_of_move hm).1.trans h.1, (config_of_move hm).2.trans h.2⟩)
        hafter ⟨rfl, rfl⟩ more
      rw [← run_cons, ← run_append] at hbuilt
      refine ⟨r, hbuilt.resolver, hconfig, sent_eq_accepted _, fun hopen htaking => ?_,
        fun hopen hsturdy => ?_⟩
      · refine accepted_eq_sends hopen ?_
        simpa [receives, hbuilt.resolver] using htaking
      · exact delivered_of_start hbuilt.resolver hopen (by rwa [hobserver])
    · have hattempt := build_of_watched observer hfault hbuilt.watched
      have hrefused : attempt.2 = .error (.source .alreadyWatched) := congrArg Prod.snd hattempt
      refine ⟨by simp [hrefused, hattempted], by simp [hrefused, hfault, hattempted],
        fun _ => ?_, fun hok => ?_⟩
      · simp only [attempt, s, hattempt, hbuilt.watched, and_self]
      · rw [hrefused] at hok
        cases hok

/-- Before the attempt that succeeds there are one that fails over a limit, before it
comes to the blank namespace, and one that fails over the first of two blank namespaces;
the one after it fails over the source. What was sent before, between and after them is
delivered. -/
theorem failed_attempts_leave_the_source_of_early_sends :
    let n : Notification := .ofAdded ⟨"ns", "x", "www"⟩
    let limit : ResolverConfig := { minTtl := 0, namespaces := [""] }
    let blank : ResolverConfig := { namespaces := ["ns", "\u00a0", ""] }
    let before : List Action := [.send n, .build limit .silent, .send .synced, .build blank .silent]
    let actions : List Action := before ++ .build {} .recording :: [.send n, .build limit .silent]
    ((({} : System).run before).build limit .silent).2 = .error (.config .zeroMinTtl) ∧
      ((({} : System).run actions).build blank .silent).2 =
        .error (.config (.blankNamespace "\u00a0")) ∧
      ((({} : System).run actions).build {} .silent).2 = .error (.source .alreadyWatched) ∧
      ((({} : System).run actions).step .start).settle.channel.delivered = [n, .synced, n] := by
  intro n limit blank before actions
  have hsound : ¬({} : ResolverConfig).HasFault := ResolverConfig.check_eq_ok_iff.1 rfl
  have hnever : ¬Attempted before := by
    rintro ⟨config, observer, hbuild, hsound⟩
    have hplace : config = limit ∧ observer = .silent ∨ config = blank ∧ observer = .silent := by
      simpa [before] using hbuild
    rcases hplace with ⟨rfl, -⟩ | ⟨rfl, -⟩
    · exact hsound (.inl rfl)
    · exact hsound (.inr (.inr ⟨"", by simp [blank], rfl⟩))
  obtain ⟨hlimit, -⟩ := failed_attempts_leave_the_source before limit .silent
  obtain ⟨hblank, -⟩ := failed_attempts_leave_the_source actions blank .silent
  obtain ⟨-, -, -, hlater, -⟩ := failed_attempts_leave_the_source actions {} .silent
  obtain ⟨-, -, hfirst, -, -, hafter⟩ := failed_attempts_leave_the_source before {} .recording
  obtain ⟨r, hr, -, -, hall, hdelivered⟩ :=
    hafter (hfirst.2 ⟨hsound, hnever⟩) [.send n, .build limit .silent]
  obtain rfl := Option.some.inj hr
  refine ⟨(hlimit _).2 (.minTtl rfl), (hblank _).2 ?_, hlater.2 ⟨hsound, ?_⟩, ?_⟩
  · have hplace : blank.namespaces = ["ns"] ++ "\u00a0" :: [""] := rfl
    exact .namespaces (by decide) (by decide) hplace rfl (by decide)
  · exact ⟨{}, .recording, by simp [actions], hsound⟩
  · rw [hdelivered rfl Observer.isSteady_recording, hall rfl (by decide)]
    rfl

end System

end NameOwners
