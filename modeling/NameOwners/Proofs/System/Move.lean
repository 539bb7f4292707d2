import Mathlib.Data.List.Induction
import NameOwners.Proofs.Resolver
import NameOwners.Proofs.System.Answers

/-!
What can happen to a resolver and the channel that feeds it. Whatever a system
does, what it has built stays, and channel and resolver take one of the moves
listed here (`exists_move_of_step`), which says at the same time what a call is
answered. A fact about all runs is therefore proved of a new resolver and of each
move, once and for all runs (`has_run_of_moves`); it may speak of the answers that
were given (`has_answers_of_moves`).
-/

namespace NameOwners.System

/-- The moves of a channel and its resolver, with what each of them presupposes
and what is answered if it is a call. -/
inductive Move : Option Answer → Channel → Resolver → Channel → Resolver → Prop
  | stay {c : Channel} {r : Resolver} : Move none c r c r
  | push {c : Channel} {r : Resolver} (n : Notification) (hopen : c.isOpen = true)
      (hwatch : r.watch ≠ .ended) : Move none c r (c.push n) r
  | close {c : Channel} {r : Resolver} : Move none c r c.close r
  | refuse {c : Channel} {r : Resolver} {e : Error} (now : Nat)
      (hrefused : r.start now = .error e) : Move (some (.start (.error e))) c r c r
  | start {c : Channel} {r : Resolver} (now : Nat) (hstopped : r.isStopped = false)
      (hwatch : r.watch = .held) :
      Move (some (.start (.ok ()))) c r c
        { r with watch := .running, startup := .waiting now, joinable := true }
  | check {c : Channel} {r : Resolver} (now : Nat) : Move none c r c (r.checkStartup now)
  | shutdown {c : Channel} {r : Resolver} (now : Nat) :
      Move (some (.shutdown (r.shutdown now).2)) c r c (r.shutdown now).1
  | wait {c : Channel} {r : Resolver} : Move none c r c r.wait
  | wake {c : Channel} {r : Resolver} : Move none c r c r.wake
  | abandon {c : Channel} {r : Resolver} (call : Nat) : Move none c r c (r.abandon call)
  | deliver {c d : Channel} {r : Resolver} {n : Notification} (hwatch : r.watch = .running)
      (hcancelled : r.isCancelled = false) (hpop : c.pop? = some (n, d)) :
      Move none c r d (r.deliver n)
  | finish {c : Channel} {r : Resolver} (hwatch : r.watch = .running)
      (hend : r.isCancelled = true ∨ c.queued = [] ∧ c.isOpen = false) :
      Move none c r c { r with watch := .ended }

/-- What a move means to the task: it leaves the task and its channel alone, unless something
is sent, the channel is closed, or the task begins, takes a notification or ends. -/
inductive Effect : Channel → Resolver → Channel → Resolver → Prop
  | keeps {c : Channel} {r r' : Resolver} (hr : r.Keeps r') : Effect c r c r'
  | push {c : Channel} {r : Resolver} (n : Notification) (hopen : c.isOpen = true)
      (hwatch : r.watch ≠ .ended) : Effect c r (c.push n) r
  | close {c : Channel} {r : Resolver} : Effect c r c.close r
  | start {c : Channel} {r : Resolver} (now : Nat) (hstopped : r.isStopped = false)
      (hwatch : r.watch = .held) :
      Effect c r c { r with watch := .running, startup := .waiting now, joinable := true }
  | deliver {c d : Channel} {r : Resolver} {n : Notification} (hwatch : r.watch = .running)
      (hcancelled : r.isCancelled = false) (hpop : c.pop? = some (n, d)) :
      Effect c r d (r.deliver n)
  | finish {c : Channel} {r : Resolver} (hwatch : r.watch = .running)
      (hend : r.isCancelled = true ∨ c.queued = [] ∧ c.isOpen = false) :
      Effect c r c { r with watch := .ended }

theorem Move.effect {a : Option Answer} {c c' : Channel} {r r' : Resolver}
    (hm : Move a c r c' r') : Effect c r c' r' := by
  cases hm with
  | stay => exact .keeps (.refl r)
  | push n hopen hwatch => exact .push n hopen hwatch
  | close => exact .close
  | refuse now hrefused => exact .keeps (.refl r)
  | start now hstopped hwatch => exact .start now hstopped hwatch
  | check now => exact .keeps (r.keeps_checkStartup now)
  | shutdown now => exact .keeps (r.keeps_shutdown now)
  | wait => exact .keeps r.keeps_wait
  | wake => exact .keeps r.keeps_wake
  | abandon call => exact .keeps (r.keeps_abandon call)
  | deliver hwatch hcancelled hpop => exact .deliver hwatch hcancelled hpop
  | finish hwatch hend => exact .finish hwatch hend

/-- A system whose source has handed out the channel to a resolver. -/
structure Built (s : System) (r : Resolver) : Prop where
  resolver : s.resolver = some r
  watched : s.source.status = .watched

theorem Built.eq_of_resolver {s : System} {r r' : Resolver} (h : s.Built r)
    (hr : s.resolver = some r') : r = r' :=
  Option.some.inj (h.resolver.symm.trans hr)

theorem resolver_modify {s : System} {r : Resolver} (h : s.resolver = some r)
    (f : Resolver → Resolver) : (s.modify f).resolver = some (f r) := by
  rw [modify, h]
  rfl

theorem queued_eq_nil_of_pop? {c : Channel} (h : c.pop? = none) : c.queued = [] := by
  unfold Channel.pop? at h
  split at h
  · assumption
  · cases h

/-- Whatever happens to a system with a resolver is a move. -/
theorem exists_move_of_step {s : System} {r : Resolver} (h : s.Built r) (a : Action) :
    ∃ r', (s.step a).Built r' ∧ Move (s.answer? a) s.channel r (s.step a).channel r' := by
  obtain ⟨hr, hw⟩ := h
  cases a with
  | build config observer =>
      refine ⟨r, ?_⟩
      simp only [step, build]
      cases config.check with
      | error cause => exact ⟨⟨hr, hw⟩, .stay⟩
      | ok u =>
          -- A channel that is watched already is not handed out again.
          simp only [Source.watch, hw]
          exact ⟨⟨hr, rfl⟩, .stay⟩
  | send n =>
      refine ⟨r, ?_⟩
      simp only [step, send]
      split
      · rename_i hsend
        simp only [receives, hr, Bool.and_eq_true, decide_eq_true_eq] at hsend
        exact ⟨⟨hr, hw⟩, .push n hsend.1 hsend.2⟩
      · exact ⟨⟨hr, hw⟩, .stay⟩
  | close => exact ⟨r, ⟨hr, hw⟩, .close⟩
  | start =>
      simp only [step, answer?, hr, Option.map_some, start]
      cases hstart : r.start s.clock with
      | error e => exact ⟨r, ⟨hr, hw⟩, .refuse s.clock hstart⟩
      | ok r' =>
          obtain ⟨hstopped, hwatch, rfl⟩ := Resolver.start_eq_ok_iff.1 hstart
          exact ⟨_, ⟨rfl, hw⟩, .start s.clock hstopped hwatch⟩
  | shutdown =>
      simp only [step, answer?, hr, Option.map_some]
      exact ⟨_, ⟨rfl, hw⟩, .shutdown s.clock⟩
  | wait => exact ⟨_, ⟨resolver_modify hr _, hw⟩, .wait⟩
  | abandon call => exact ⟨_, ⟨resolver_modify hr _, hw⟩, .abandon call⟩
  | wake => exact ⟨_, ⟨resolver_modify hr _, hw⟩, .wake⟩
  | tick =>
      simp only [step]
      split
      · exact ⟨_, ⟨resolver_modify hr _, hw⟩, .check (s.clock + 1)⟩
      · exact ⟨r, ⟨hr, hw⟩, .stay⟩
  | poll =>
      simp only [step, poll, hr]
      split
      · exact ⟨r, ⟨hr, hw⟩, .stay⟩
      · rename_i hrunning
        have hrunning : r.watch = .running := Decidable.not_not.1 hrunning
        split
        · rename_i hcancelled
          exact ⟨_, ⟨rfl, hw⟩, .finish hrunning (.inl hcancelled)⟩
        · rename_i hcancelled
          split
          · rename_i n d hpop
            exact ⟨_, ⟨rfl, hw⟩, .deliver hrunning (Bool.not_eq_true _ ▸ hcancelled) hpop⟩
          · rename_i hpop
            split
            · exact ⟨r, ⟨hr, hw⟩, .stay⟩
            · rename_i hclosed
              exact ⟨_, ⟨rfl, hw⟩, .finish hrunning
                (.inr ⟨queued_eq_nil_of_pop? hpop, Bool.not_eq_true _ ▸ hclosed⟩)⟩

/-- A system without a resolver has delivered nothing yet, and builds one at most. -/
theorem step_of_no_resolver {s : System} (h : s.resolver = none) (a : Action) :
    (s.step a).channel.delivered = s.channel.delivered ∧
      ((s.step a).resolver = none ∨
        ∃ config observer, (s.step a).Built (.create config observer)) := by
  cases a with
  | build config observer =>
      simp only [step, build]
      cases config.check with
      | error cause => exact ⟨rfl, .inl h⟩
      | ok u =>
          cases hs : s.source.status with
          | ready =>
              simp only [Source.watch, hs, true_and]
              exact .inr ⟨config, observer, rfl, rfl⟩
          | watched =>
              simp only [Source.watch, hs, true_and]
              exact .inl h
          | failing reason =>
              simp only [Source.watch, hs, true_and]
              exact .inl h
  | send n =>
      simp only [step, send]
      split
      · exact ⟨rfl, .inl h⟩
      · exact ⟨rfl, .inl h⟩
  | close => exact ⟨rfl, .inl h⟩
  | tick =>
      simp only [step]
      split
      · exact ⟨rfl, .inl (by rw [tick, modify, h]; rfl)⟩
      · exact ⟨rfl, .inl h⟩
  | start => simp [step, h]
  | shutdown => simp [step, h]
  | wait => simp [step, modify, h]
  | abandon call => simp [step, modify, h]
  | wake => simp [step, wake, modify, h]
  | poll => simp [step, poll, h]

/-! ### Runs -/

/-- The state of a system that began with nothing: it has no resolver and has
delivered nothing, or it is built and has a property of its channel and resolver. -/
def Has (P : Channel → Resolver → Prop) (s : System) : Prop :=
  s.resolver = none ∧ s.channel.delivered = [] ∨ ∃ r, s.Built r ∧ P s.channel r

theorem Has.of_resolver {P : Channel → Resolver → Prop} {s : System} {r : Resolver}
    (h : s.Has P) (hr : s.resolver = some r) : s.Built r ∧ P s.channel r := by
  rcases h with ⟨hnone, -⟩ | ⟨r', hbuilt, hP⟩
  · rw [hnone] at hr
    cases hr
  · obtain rfl := hbuilt.eq_of_resolver hr
    exact ⟨hbuilt, hP⟩

/-- What holds of every new resolver, of which nothing was asked yet, and is kept by
every move while its answer joins the others, holds throughout all runs. As long as
there is no resolver nothing is answered. -/
theorem has_answers_of_moves {P : List Answer → Channel → Resolver → Prop}
    (hcreate : ∀ c config observer, c.delivered = [] → P [] c (.create config observer))
    (hmove : ∀ {past a c r c' r'}, Move a c r c' r' → P past c r → P (past ++ a.toList) c' r')
    (actions : List Action) :
    let s := ({} : System).run actions
    s.resolver = none ∧ s.channel.delivered = [] ∧ ({} : System).answers actions = [] ∨
      ∃ r, s.Built r ∧ P (({} : System).answers actions) s.channel r := by
  induction actions using List.reverseRecOn with
  | nil => exact .inl ⟨rfl, rfl, rfl⟩
  | append_singleton actions a ih =>
      have hrun : ({} : System).run (actions ++ [a]) = (({} : System).run actions).step a :=
        run_append ..
      rw [hrun, answers_concat]
      rcases ih with ⟨hnone, hdelivered, hnothing⟩ | ⟨r, hbuilt, hP⟩
      · rw [hnothing, answer?_of_no_resolver hnone]
        obtain ⟨hsame, hnone' | ⟨config, observer, hbuilt⟩⟩ := step_of_no_resolver hnone a
        · exact .inl ⟨hnone', hsame.trans hdelivered, rfl⟩
        · exact .inr ⟨_, hbuilt, hcreate _ config observer (hsame.trans hdelivered)⟩
      · obtain ⟨r', hbuilt', hm⟩ := exists_move_of_step hbuilt a
        exact .inr ⟨r', hbuilt', hmove hm hP⟩

/-- What holds of every new resolver and is kept by every move holds throughout
all runs. -/
theorem has_run_of_moves {P : Channel → Resolver → Prop}
    (hcreate : ∀ c config observer, c.delivered = [] → P c (.create config observer))
    (hmove : ∀ {a c r c' r'}, Move a c r c' r' → P c r → P c' r') (actions : List Action) :
    (({} : System).run actions).Has P :=
  (has_answers_of_moves (P := fun _ => P) hcreate hmove actions).imp_left
    fun hnone => ⟨hnone.1, hnone.2.1⟩

/-- Of a system that is built, every run keeps what every move keeps. -/
theorem kept_by_run {P : Channel → Resolver → Prop}
    (hmove : ∀ {a c r c' r'}, Move a c r c' r' → P c r → P c' r') {s : System} {r : Resolver}
    (h : s.Built r) (hP : P s.channel r) (actions : List Action) :
    ∃ r', (s.run actions).Built r' ∧ P (s.run actions).channel r' := by
  induction actions generalizing s r with
  | nil => exact ⟨r, h, hP⟩
  | cons a actions ih =>
      obtain ⟨r', hbuilt, hm⟩ := exists_move_of_step h a
      exact ih hbuilt (hmove hm hP)

end NameOwners.System
