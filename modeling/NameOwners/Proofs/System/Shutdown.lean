import NameOwners.Proofs.System.Lifecycle

/-!
A shutdown freezes the resolver. The task looks whether it is told to stop before
it takes the next notification, and it is told together with the shutdown flag. So
from an accepted shutdown on nothing is delivered, not even what waits in the
channel, and only deliveries change what others can see of a resolver (`Frozen`).
-/

namespace NameOwners.System

/-- A resolver that was shut down stands as it stood at an earlier moment. -/
structure Frozen (c : Channel) (r : Resolver) (c' : Channel) (r' : Resolver) : Prop where
  isStopped : r'.isStopped = true
  isCancelled : r'.isCancelled = true
  delivered : c'.delivered = c.delivered
  index : r'.index = r.index
  synced : r'.synced = r.synced
  shown : r'.synchronizer.shown = r.synchronizer.shown
  observed : r'.synchronizer.observed = r.synchronizer.observed
  events : r'.metrics.events = r.metrics.events

namespace Frozen

variable {a : Option Answer} {c c₁ c₂ : Channel} {r r₁ r₂ : Resolver}

theorem keeps (h : Frozen c r c₁ r₁) (hr : r₁.Keeps r₂) : Frozen c r c₁ r₂ := by
  have hstopped : r₂.isStopped = true := hr.isStopped h.isStopped
  have htoken : r₂.isCancelled = r₂.isStopped :=
    hr.isCancelled (h.isCancelled.trans h.isStopped.symm)
  exact ⟨hstopped, htoken.trans hstopped, h.delivered, hr.index.trans h.index,
    hr.synced.trans h.synced, hr.shown.trans h.shown, hr.observed.trans h.observed,
    hr.events.trans h.events⟩

theorem move (hm : Move a c₁ r₁ c₂ r₂) (h : Frozen c r c₁ r₁) : Frozen c r c₂ r₂ := by
  cases hm.effect with
  | keeps hr => exact h.keeps hr
  | push n hopen hwatch => exact { h with }
  | close => exact { h with }
  | start now hstopped hwatch =>
      rw [h.isStopped] at hstopped
      cases hstopped
  | deliver hwatch hcancelled hpop =>
      rw [h.isCancelled] at hcancelled
      cases hcancelled
  | finish hwatch hend => exact { h with }

end Frozen

/-- Once a shutdown was accepted in a run that began with nothing, the index, whether
the resolver is synced, what the observer was shown and took a note of, and the counters
of events stay as they are, whatever happens next: nothing more is taken from the channel. This
holds at every moment of the life of a resolver, also while the call that started it
waits and if it was never started. -/
theorem frozen_after_shutdown (actions more : List Action)
    (h : .shutdown (.ok ()) ∈ ({} : System).answers actions) :
    ∃ r r', (({} : System).run actions).resolver = some r ∧
      (({} : System).run (actions ++ more)).resolver = some r' ∧
      r'.index = r.index ∧ r'.synced = r.synced ∧
      r'.synchronizer.shown = r.synchronizer.shown ∧
      r'.synchronizer.observed = r.synchronizer.observed ∧
      r'.metrics.events = r.metrics.events ∧
      (({} : System).run (actions ++ more)).channel.delivered =
        (({} : System).run actions).channel.delivered := by
  obtain ⟨-, -, hnothing⟩ | ⟨r, hbuilt, hr⟩ := has_remembers actions
  · rw [hnothing] at h
    cases h
  · have hstopped : r.isStopped = true := hr.stopped.2 h
    have hcancelled : r.isCancelled = true := hr.cancelled.trans hstopped
    obtain ⟨r', hbuilt', hfrozen⟩ := kept_by_run Frozen.move hbuilt
      ⟨hstopped, hcancelled, rfl, rfl, rfl, rfl, rfl, rfl⟩ more
    rw [run_append]
    exact ⟨r, r', hbuilt.resolver, hbuilt'.resolver, hfrozen.index, hfrozen.synced,
      hfrozen.shown, hfrozen.observed, hfrozen.events, hfrozen.delivered⟩

/-- A shutdown while the starting call waits leaves a registration in the channel. The
resolver never indexes it, although the task is polled, a start is tried again and
more is sent. -/
theorem frozen_after_shutdown_of_starting_resolver :
    let n : Notification := .ofAdded ⟨"ns", "x", "www"⟩
    let actions : List Action :=
      [.build {} .recording, .start, .send .synced, .poll, .send n, .shutdown]
    let more : List Action := [.poll, .start, .send n, .wait, .poll, .wake, .tick, .shutdown]
    .shutdown (.ok ()) ∈ ({} : System).answers actions ∧
    (({} : System).run actions).channel.queued = [n] ∧
    ∃ r, (({} : System).run (actions ++ more)).resolver = some r ∧ r.index = {} ∧
      r.synced = true ∧ (({} : System).run (actions ++ more)).channel.delivered = [.synced] := by
  intro n actions more
  have hanswers : ({} : System).answers actions = [.start (.ok ()), .shutdown (.ok ())] := rfl
  have haccepted : .shutdown (.ok ()) ∈ ({} : System).answers actions := by
    rw [hanswers]
    simp
  obtain ⟨r, r', hr, hr', hindex, hsynced, -, -, -, hdelivered⟩ :=
    frozen_after_shutdown actions more haccepted
  obtain rfl := Option.some.inj hr
  exact ⟨haccepted, rfl, r', hr', hindex, hsynced, hdelivered⟩

end NameOwners.System
