import NameOwners.Proofs.System.Move

/-!
The life of a resolver: created, started, stopped. The phase is put together from
the shutdown flag and from who has the watch, and both follow from the answers that
the resolver gave (`Remembers`): it was shut down if a shutdown was accepted, and
started if a start was. So it depends on the past answers alone what the next call
is answered, only one start and one shutdown are ever accepted, and a call that is
refused leaves everything as it was.
-/

namespace NameOwners

def Phase.rank : Phase → Nat
  | created => 0
  | started => 1
  | stopped => 2

theorem Phase.rank_le_stopped (p : Phase) : p.rank ≤ stopped.rank := by
  cases p <;> decide

namespace Resolver

variable {r r' : Resolver}

theorem phase_eq_created_iff : r.phase = .created ↔ r.isStopped = false ∧ r.watch = .held := by
  unfold phase
  cases r.isStopped <;> by_cases hwatch : r.watch = .held <;> simp [hwatch]

theorem phase_eq_started_iff : r.phase = .started ↔ r.isStopped = false ∧ r.watch ≠ .held := by
  unfold phase
  cases r.isStopped <;> by_cases hwatch : r.watch = .held <;> simp [hwatch]

theorem phase_eq_stopped_iff : r.phase = .stopped ↔ r.isStopped = true := by
  unfold phase
  cases r.isStopped <;> by_cases hwatch : r.watch = .held <;> simp [hwatch]

theorem Proceeds.phase_eq (h : r.Proceeds r') : r'.phase = r.phase := by
  simp only [phase, h.isStopped, h.held]

/-- A resolver before and after a call that is refused. -/
structure Untouched (r r' : Resolver) : Prop where
  phase : r'.phase = r.phase
  watch : r'.watch = r.watch
  joinable : r'.joinable = r.joinable
  isCancelled : r'.isCancelled = r.isCancelled
  startup : r'.startup = r.startup
  index : r'.index = r.index

end Resolver

namespace System

variable {past : List Answer} {a : Option Answer} {c c' : Channel} {r r' : Resolver}

theorem Move.proceeds (hm : Move none c r c' r') : r.Proceeds r' := by
  cases hm with
  | stay => exact .refl r
  | push n hopen hwatch => exact .refl r
  | close => exact .refl r
  | check now => exact r.proceeds_checkStartup now
  | wait => exact r.proceeds_wait
  | wake => exact r.proceeds_wake
  | abandon call => exact r.proceeds_abandon call
  | deliver hwatch hcancelled hpop =>
      exact Resolver.proceeds_deliver (by simp [hwatch]) _
  | finish hwatch hend => exact ⟨rfl, rfl, by simp [hwatch], .inl rfl⟩

/-! ### The answers of the past -/

/-- What a resolver has become under the calls that were answered so. -/
structure Remembers (past : List Answer) (r : Resolver) : Prop where
  stopped : r.isStopped = true ↔ .shutdown (.ok ()) ∈ past
  cancelled : r.isCancelled = r.isStopped
  started : r.watch ≠ .held ↔ .start (.ok ()) ∈ past
  starts : (Answer.starts past).countP Except.isOk = if r.watch = .held then 0 else 1
  shutdowns : r.isStopped = false ∧ Answer.shutdowns past = [] ∨
    r.isStopped = true ∧ ∃ n, Answer.shutdowns past =
      .ok () :: List.replicate n (.error .shutdownInProgress)

theorem remembers_create (config : ResolverConfig) (observer : Observer) :
    Remembers [] (.create config observer) := by
  constructor
  · simp [Resolver.create]
  · rfl
  · simp [Resolver.create]
  · rfl
  · exact .inl ⟨rfl, rfl⟩

namespace Remembers

theorem proceeds (h : Remembers past r) (hr : r.Proceeds r') : Remembers past r' := by
  constructor
  · rw [hr.isStopped, h.stopped]
  · rw [hr.isCancelled, hr.isStopped, h.cancelled]
  · rw [← h.started, ne_eq, hr.held]
  · rw [h.starts]
    simp only [hr.held]
  · rw [hr.isStopped]
    exact h.shutdowns

theorem refuse (h : Remembers past r) (e : Error) :
    Remembers (past ++ [Answer.start (.error e)]) r := by
  constructor
  · simp [h.stopped]
  · exact h.cancelled
  · simp [h.started]
  · rw [← h.starts]
    simp [Except.isOk, Except.toBool]
  · rw [Answer.shutdowns_concat_start]
    exact h.shutdowns

theorem start (h : Remembers past r) (hwatch : r.watch = .held) (now : Nat) :
    Remembers (past ++ [Answer.start (.ok ())])
      { r with watch := .running, startup := .waiting now, joinable := true } := by
  have hstarts := h.starts
  rw [if_pos hwatch] at hstarts
  constructor
  · simp [h.stopped]
  · exact h.cancelled
  · simp
  · simp [hstarts, Except.isOk, Except.toBool]
  · rw [Answer.shutdowns_concat_start]
    exact h.shutdowns

/-- A shutdown is accepted if it is the first. -/
theorem shutdown (h : Remembers past r) (now : Nat) :
    Remembers (past ++ [Answer.shutdown (r.shutdown now).2]) (r.shutdown now).1 := by
  have hkeeps := r.keeps_shutdown now
  refine ⟨?_, hkeeps.isCancelled h.cancelled, ?_, ?_, ?_⟩
  · cases hstopped : r.isStopped with
    | true => simp [r.isStopped_shutdown now, h.stopped.1 hstopped]
    | false =>
        obtain ⟨haccepted, -⟩ := Resolver.shutdown_of_not_isStopped hstopped now
        simp [haccepted, r.isStopped_shutdown now]
  · rw [hkeeps.watch, h.started]
    simp
  · rw [hkeeps.watch, ← h.starts, Answer.starts_concat_shutdown]
  · rw [Answer.shutdowns_concat_shutdown]
    right
    rcases h.shutdowns with ⟨hstopped, hnone⟩ | ⟨hstopped, n, hbefore⟩
    · obtain ⟨haccepted, -⟩ := Resolver.shutdown_of_not_isStopped hstopped now
      exact ⟨r.isStopped_shutdown now, 0, by rw [hnone, haccepted]; rfl⟩
    · refine ⟨r.isStopped_shutdown now, n + 1, ?_⟩
      rw [hbefore, Resolver.shutdown_of_isStopped hstopped, List.replicate_succ']
      rfl

theorem move (hm : Move a c r c' r') (h : Remembers past r) : Remembers (past ++ a.toList) r' := by
  cases a with
  | none =>
      rw [Option.toList_none, List.append_nil]
      exact h.proceeds hm.proceeds
  | some answer =>
      rw [Option.toList_some]
      cases hm with
      | refuse now hrefused => exact h.refuse _
      | start now hstopped hwatch => exact h.start hwatch now
      | shutdown now => exact h.shutdown now

end Remembers

theorem has_remembers (actions : List Action) :
    let s := ({} : System).run actions
    s.resolver = none ∧ s.channel.delivered = [] ∧ ({} : System).answers actions = [] ∨
      ∃ r, s.Built r ∧ Remembers (({} : System).answers actions) r :=
  has_answers_of_moves (P := fun past _ => Remembers past)
    (fun _ config observer _ => remembers_create config observer) Remembers.move actions

/-! ### From one moment to a later one -/

theorem rank_le_of_move (hm : Move a c r c' r') : r.phase.rank ≤ r'.phase.rank := by
  cases a with
  | none => exact Nat.le_of_eq (congrArg Phase.rank hm.proceeds.phase_eq.symm)
  | some answer =>
      cases hm with
      | refuse now hrefused => exact Nat.le_refl _
      | start now hstopped hwatch =>
          rw [Resolver.phase_eq_created_iff.2 ⟨hstopped, hwatch⟩]
          exact Nat.zero_le _
      | shutdown now =>
          rw [Resolver.phase_eq_stopped_iff.2 (r.isStopped_shutdown now)]
          exact r.phase.rank_le_stopped

theorem untouched_of_move {answer : Answer} {e : Error} (hm : Move (some answer) c r c' r')
    (hrefused : answer.result = .error e) : c' = c ∧ r.Untouched r' := by
  cases hm with
  | refuse now _ => exact ⟨rfl, rfl, rfl, rfl, rfl, rfl, rfl⟩
  | start now hstopped hwatch => cases hrefused
  | shutdown now =>
      cases hstopped : r.isStopped with
      | true =>
          rw [Resolver.shutdown_of_isStopped hstopped]
          exact ⟨rfl, rfl, rfl, rfl, rfl, rfl, rfl⟩
      | false =>
          obtain ⟨haccepted, -⟩ := Resolver.shutdown_of_not_isStopped hstopped now
          rw [Answer.result, haccepted] at hrefused
          cases hrefused

/-- The watch is not handed back. -/
theorem taken_of_move (hm : Move a c r c' r') (htaken : r.watch ≠ .held) :
    r'.watch ≠ .held := by
  cases a with
  | none => exact fun hheld => htaken (hm.proceeds.held.1 hheld)
  | some answer =>
      cases hm with
      | refuse now hrefused => exact htaken
      | start now hstopped hwatch => exact absurd hwatch htaken
      | shutdown now => rwa [(r.keeps_shutdown now).watch]

/-- The call that started a resolver at some time either waits, and then the
resolver was not shut down, or has returned. -/
def StartedAt (now : Nat) (r : Resolver) : Prop :=
  r.watch ≠ .held ∧
    (r.startup = .waiting now ∧ r.isStopped = false ∨ ∃ elapsed, r.startup = .returned elapsed)

theorem StartedAt.move {now : Nat} (hm : Move a c r c' r') (h : StartedAt now r) :
    StartedAt now r' := by
  obtain ⟨htaken, hstartup⟩ := h
  refine ⟨taken_of_move hm htaken, ?_⟩
  cases a with
  | none =>
      have hr := hm.proceeds
      rcases hr.startup with hsame | ⟨-, hreturned⟩
      · rw [hsame, hr.isStopped]
        exact hstartup
      · exact .inr hreturned
  | some answer =>
      cases hm with
      | refuse now' hrefused => exact hstartup
      | start now' hstopped hwatch => exact absurd hwatch htaken
      | shutdown now' =>
          -- The first shutdown ends the wait; at a later one there is none any more.
          cases hstopped : r.isStopped with
          | true =>
              rw [Resolver.shutdown_of_isStopped hstopped]
              exact hstartup.imp_left fun hwaits => absurd (hwaits.2.symm.trans hstopped) nofun
          | false =>
              obtain ⟨-, hstays⟩ := Resolver.shutdown_of_not_isStopped hstopped now'
              right
              rcases hstays with ⟨hsame, hidle⟩ | ⟨-, hreturned⟩
              · rcases hstartup with ⟨hwaits, -⟩ | hreturned
                · rw [Resolver.isStarting, hwaits] at hidle
                  cases hidle
                · rwa [hsame]
              · exact hreturned

theorem startedAt_of_accepted {s : System} (h : s.Built r)
    (haccepted : s.answer? .start = some (.start (.ok ()))) :
    r.watch = .held ∧ ∃ r', (s.step .start).Built r' ∧ StartedAt s.clock r' := by
  rw [answer?_start h.resolver] at haccepted
  cases hresult : r.start s.clock with
  | error e =>
      rw [hresult] at haccepted
      cases haccepted
  | ok r' =>
      have hafter : s.step .start = { s with resolver := some r' } := by
        simp only [step, h.resolver, start, hresult]
      obtain ⟨hstopped, hwatch, hstarted⟩ := Resolver.start_eq_ok_iff.1 hresult
      have htaken : Watch.running ≠ .held := by decide
      rw [hafter]
      refine ⟨hwatch, r', ⟨rfl, h.watched⟩, ?_⟩
      rw [hstarted]
      exact ⟨htaken, .inl ⟨rfl, hstopped⟩⟩

/-- What a start is answered at any moment of a run. -/
theorem Remembers.answer?_start {s : System} (h : Remembers past r) (hr : s.resolver = some r) :
    ∃ result, s.answer? .start = some (.start result) ∧
      (result = .error .stopped ↔ .shutdown (.ok ()) ∈ past) ∧
      (result = .error .alreadyStarted ↔
        .shutdown (.ok ()) ∉ past ∧ .start (.ok ()) ∈ past) ∧
      (result = .ok () ↔ .shutdown (.ok ()) ∉ past ∧ .start (.ok ()) ∉ past) := by
  refine ⟨_, System.answer?_start hr, ?_⟩
  cases hresult : r.start s.clock with
  | error e =>
      rcases Resolver.start_eq_error_iff.1 hresult with ⟨hstopped, rfl⟩ | ⟨hstopped, hwatch, rfl⟩
      · simp [Except.map, h.stopped.1 hstopped]
      · have hnever : .shutdown (.ok ()) ∉ past := by
          rw [← h.stopped, hstopped]
          exact Bool.false_ne_true
        simp [Except.map, hnever, h.started.1 hwatch]
  | ok r' =>
      obtain ⟨hstopped, hwatch, -⟩ := Resolver.start_eq_ok_iff.1 hresult
      have hnever : .shutdown (.ok ()) ∉ past := by
        rw [← h.stopped, hstopped]
        exact Bool.false_ne_true
      have hfirst : .start (.ok ()) ∉ past := by
        rw [← h.started, hwatch]
        exact fun hne => hne rfl
      simp [Except.map, hnever, hfirst]

/-- At every moment of every run that began with nothing, also while a call that
started the resolver still waits. The phase only moves forward, and it says which
calls were accepted; the task is told to stop exactly if the resolver was shut
down. Of all shutdowns the first is accepted and every later one refused. What a
start is answered depends on whether a shutdown or a start was accepted before;
the start that is accepted takes the watch and returns with that answer, at a
shutdown at the latest, and it is the only one. A call that is refused leaves
everything as it was. -/
theorem answers_follow_lifecycle (actions : List Action) (r : Resolver)
    (hr : (({} : System).run actions).resolver = some r) :
    let s := ({} : System).run actions
    let past := ({} : System).answers actions
    (∀ more, ∃ r', (s.run more).resolver = some r' ∧ r.phase.rank ≤ r'.phase.rank) ∧
    (r.phase = .created ↔ .shutdown (.ok ()) ∉ past ∧ .start (.ok ()) ∉ past) ∧
    (r.phase = .started ↔ .shutdown (.ok ()) ∉ past ∧ .start (.ok ()) ∈ past) ∧
    (r.phase = .stopped ↔ .shutdown (.ok ()) ∈ past) ∧
    (r.isCancelled = true ↔ r.isStopped = true) ∧
    (Answer.shutdowns past = [] ∨ ∃ n, Answer.shutdowns past =
      .ok () :: List.replicate n (.error .shutdownInProgress)) ∧
    (∃ result, s.answer? .start = some (.start result) ∧
      (result = .error .stopped ↔ .shutdown (.ok ()) ∈ past) ∧
      (result = .error .alreadyStarted ↔
        .shutdown (.ok ()) ∉ past ∧ .start (.ok ()) ∈ past) ∧
      (result = .ok () ↔ .shutdown (.ok ()) ∉ past ∧ .start (.ok ()) ∉ past) ∧
      (result = .ok () → r.watch = .held ∧ ∀ more, ∃ r',
        ((s.step .start).run more).resolver = some r' ∧ StartedAt s.clock r')) ∧
    (Answer.starts past).countP Except.isOk ≤ 1 ∧
    (r.watch ≠ .held ↔ .start (.ok ()) ∈ past) ∧
    (∀ a answer e, s.answer? a = some answer → answer.result = .error e →
      (s.step a).channel = s.channel ∧ ∃ r', (s.step a).resolver = some r' ∧ r.Untouched r') := by
  intro s past
  obtain ⟨hbuilt, h⟩ : s.Built r ∧ Remembers past r := by
    rcases has_remembers actions with ⟨hnone, -⟩ | ⟨r', hbuilt, h⟩
    · rw [hnone] at hr
      cases hr
    · obtain rfl : r' = r := Option.some.inj (hbuilt.resolver.symm.trans hr)
      exact ⟨hbuilt, h⟩
  have hstopped : r.isStopped = false ↔ .shutdown (.ok ()) ∉ past := by
    rw [← h.stopped, Bool.not_eq_true]
  obtain ⟨result, hanswer, hresult⟩ := h.answer?_start hr
  refine ⟨fun more => ?_, ?_, ?_, ?_, ?_, ?_, ⟨result, hanswer, hresult.1, hresult.2.1,
    hresult.2.2, ?_⟩, ?_, ?_, fun a answer e ha hrefused => ?_⟩
  · obtain ⟨r', hbuilt', hrank⟩ := kept_by_run (P := fun _ r' => r.phase.rank ≤ r'.phase.rank)
      (fun hm hrank => Nat.le_trans hrank (rank_le_of_move hm)) hbuilt (Nat.le_refl _) more
    exact ⟨r', hbuilt'.resolver, hrank⟩
  · rw [Resolver.phase_eq_created_iff, hstopped, ← h.started, ne_eq, Decidable.not_not]
  · rw [Resolver.phase_eq_started_iff, hstopped, h.started]
  · rw [Resolver.phase_eq_stopped_iff, h.stopped]
  · rw [h.cancelled]
  · exact h.shutdowns.imp And.right And.right
  · rintro rfl
    obtain ⟨hwatch, r', hbuilt', hstarted⟩ := startedAt_of_accepted hbuilt hanswer
    refine ⟨hwatch, fun more => ?_⟩
    obtain ⟨r'', hbuilt'', hlater⟩ := kept_by_run (P := fun _ => StartedAt s.clock)
      StartedAt.move hbuilt' hstarted more
    exact ⟨r'', hbuilt''.resolver, hlater⟩
  · rw [h.starts]
    split <;> decide
  · exact h.started
  · obtain ⟨r', hbuilt', hm⟩ := exists_move_of_step hbuilt a
    rw [ha] at hm
    obtain ⟨hchannel, huntouched⟩ := untouched_of_move hm hrefused
    exact ⟨hchannel, r', hbuilt'.resolver, huntouched⟩

/-- A second start while the first one still waits is refused, and so is everything
after the shutdown that ends the wait; nothing else than one start and one shutdown
was accepted, and the first start has returned. -/
theorem answers_follow_lifecycle_of_overlapping_starts :
    let begun : List Action := [.build {} .recording]
    let rest : List Action := [.poll, .start, .shutdown, .shutdown, .start]
    let later := begun ++ .start :: rest
    ({} : System).answers later = [.start (.ok ()), .start (.error .alreadyStarted),
      .shutdown (.ok ()), .shutdown (.error .shutdownInProgress), .start (.error .stopped)] ∧
    ∃ r r', (({} : System).run begun).resolver = some r ∧ r.phase = .created ∧
      (({} : System).run later).resolver = some r' ∧ r'.phase = .stopped ∧
      StartedAt 0 r' ∧ r'.isCancelled = true := by
  intro begun rest later
  have hanswers : ({} : System).answers later = [.start (.ok ()), .start (.error .alreadyStarted),
      .shutdown (.ok ()), .shutdown (.error .shutdownInProgress), .start (.error .stopped)] := rfl
  obtain ⟨-, hcreated, -, -, -, -, ⟨result, hanswer, -, -, hok, haccepted⟩, -⟩ :=
    answers_follow_lifecycle begun _ rfl
  obtain ⟨-, hlater⟩ := haccepted (hok.2 ⟨nofun, nofun⟩)
  obtain ⟨r', hr', hstarted⟩ := hlater rest
  obtain ⟨-, -, -, hstopped, htoken, -⟩ := answers_follow_lifecycle later r' hr'
  have hphase : r'.phase = .stopped := hstopped.2 (by rw [hanswers]; simp)
  exact ⟨hanswers, _, r', rfl, hcreated.2 ⟨nofun, nofun⟩, hr', hphase, hstarted,
    htoken.2 (Resolver.phase_eq_stopped_iff.1 hphase)⟩

end System

end NameOwners
