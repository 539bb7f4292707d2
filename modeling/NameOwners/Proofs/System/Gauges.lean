import NameOwners.Proofs.Index.Applied
import NameOwners.Proofs.System.Delivery

/-!
The published numbers are never stale. The task publishes the sizes of the index when
the first listing ends and after every event that was applied, and an event that was
not applied leaves the index alone (`Index.apply_eq_self_iff`). So between two
deliveries the numbers are those of the index; only an observer that breaks down
keeps the task from publishing, and then it was the last delivery.
-/

namespace NameOwners

/-- The published sizes are those of the index; or none were published, and the index
is empty and its listing has not ended. -/
def Resolver.SizesCurrent (r : Resolver) (taken : List Notification) : Prop :=
  r.metrics.sizes = none ∧ r.index = {} ∧ .synced ∉ taken ∨
    r.metrics.sizes = some (r.index.count .regular, r.index.count .wildcard)

namespace System

/-- What is published of a resolver fits to it, unless the task ended with its observer. -/
structure GaugesCurrent (c : Channel) (r : Resolver) : Prop where
  gauge : r.metrics.synced = r.synced
  sizes : r.SizesCurrent c.delivered ∨ r.watch = .ended ∧
    (Synchronizer.fresh r.config.filter r.synchronizer.observer).BreaksAtLast c.delivered

theorem gaugesCurrent_create (c : Channel) (config : ResolverConfig) (observer : Observer)
    (h : c.delivered = []) : GaugesCurrent c (.create config observer) :=
  ⟨rfl, .inl (.inl ⟨rfl, rfl, by simp [h]⟩)⟩

namespace GaugesCurrent

variable {c d : Channel} {r r' : Resolver}

theorem keeps (h : GaugesCurrent c r) (hr : r.Keeps r') : GaugesCurrent c r' := by
  refine ⟨hr.gauge.trans (h.gauge.trans hr.synced.symm), ?_⟩
  rw [Resolver.SizesCurrent, hr.sizes, hr.index, hr.watch, hr.config, hr.observer]
  exact h.sizes

/-- The end of a listing publishes the sizes, the first time only. -/
theorem markSynced (h : GaugesCurrent c r) (hc : Follows c r) (hwatch : r.watch = .running) :
    GaugesCurrent d r.markSynced := by
  unfold Resolver.markSynced
  split
  · rename_i hsynced
    refine ⟨h.gauge, .inl (.inr ?_)⟩
    rcases h.sizes with (⟨-, -, hbefore⟩ | hsizes) | ⟨hended, -⟩
    · exact absurd (hc.synced.1 hsynced) hbefore
    · exact hsizes
    · rw [hwatch] at hended
      cases hended
  · exact ⟨rfl, .inl (.inr rfl)⟩

theorem applyEvent (h : GaugesCurrent c r) (hc : Follows c r) (hwatch : r.watch = .running)
    {n : Notification} {e : Event} (he : n.event? = some e) (hpop : c.pop? = some (n, d)) :
    GaugesCurrent d (r.applyEvent e) := by
  have hne : n ≠ .synced := by
    rintro rfl
    cases he
  unfold Resolver.applyEvent
  dsimp only
  split
  · rename_i hbreaks
    refine ⟨h.gauge, .inr ⟨rfl, hc.breaksAtLast hpop ?_⟩⟩
    rw [Synchronizer.breaksAt, he]
    exact hbreaks
  · split
    · exact ⟨h.gauge, .inl (.inr rfl)⟩
    · rename_i houtcome
      have hindex : (r.synchronizer.apply e).1.index = r.index :=
        Index.apply_eq_self_iff.2 houtcome
      refine ⟨h.gauge, .inl ?_⟩
      rcases h.sizes with (⟨hnone, hempty, hbefore⟩ | hsizes) | ⟨hended, -⟩
      · refine .inl ⟨hnone, hindex.trans hempty, ?_⟩
        rw [(Channel.eq_of_pop? hpop).1]
        simp [hbefore, hne.symm]
      · right
        rw [Resolver.index, hindex]
        exact hsizes
      · rw [hwatch] at hended
        cases hended

theorem deliver (h : GaugesCurrent c r) (hc : Follows c r) (hwatch : r.watch = .running)
    {n : Notification} (hpop : c.pop? = some (n, d)) : GaugesCurrent d (r.deliver n) := by
  unfold Resolver.deliver
  cases he : n.event? with
  | none =>
      obtain rfl := Notification.event?_eq_none_iff.1 he
      exact h.markSynced hc hwatch
  | some e => exact h.applyEvent hc hwatch he hpop

theorem move {a : Option Answer} {c' : Channel} (hm : Move a c r c' r') (hc : Follows c r)
    (h : GaugesCurrent c r) : GaugesCurrent c' r' := by
  cases hm.effect with
  | keeps hr => exact h.keeps hr
  | push n hopen hwatch => exact ⟨h.gauge, h.sizes⟩
  | close => exact ⟨h.gauge, h.sizes⟩
  | start now hstopped hwatch =>
      refine ⟨h.gauge, h.sizes.imp id ?_⟩
      rintro ⟨hended, -⟩
      rw [hwatch] at hended
      cases hended
  | deliver hwatch hcancelled hpop => exact h.deliver hc hwatch hpop
  | finish hwatch hend =>
      refine ⟨h.gauge, h.sizes.imp id ?_⟩
      rintro ⟨hended, -⟩
      rw [hwatch] at hended
      cases hended

end GaugesCurrent

/-- At every moment of every run that began with nothing, what is published of the
resolver fits to it. The gauge for the listing is set exactly if the resolver is
synced. The gauges for the sizes show those of the index, or they were never set, the
index is empty and no end of a listing was delivered. There is one exception, which
is not between two deliveries: the observer has broken down at the last one, and
nothing is ever delivered again. -/
theorem gauges_never_stale (actions : List Action) (r : Resolver)
    (hr : (({} : System).run actions).resolver = some r) :
    let taken := (({} : System).run actions).channel.delivered
    (r.metrics.synced = true ↔ r.synced = true) ∧
    (r.SizesCurrent taken ∨
      (Synchronizer.fresh r.config.filter r.synchronizer.observer).BreaksAtLast taken ∧
        ∀ more, (({} : System).run (actions ++ more)).channel.delivered = taken) := by
  intro taken
  have hhas := has_run_of_moves (P := fun c r => Follows c r ∧ GaugesCurrent c r)
    (fun c config observer hnothing => ⟨follows_create c config observer hnothing,
      gaugesCurrent_create c config observer hnothing⟩)
    (fun hm h => ⟨h.1.move hm, h.2.move hm h.1⟩) actions
  rcases hhas with ⟨hnone, -⟩ | ⟨r', hbuilt, -, hgauges⟩
  · rw [hnone] at hr
    cases hr
  · obtain rfl : r' = r := Option.some.inj (hbuilt.resolver.symm.trans hr)
    refine ⟨by rw [hgauges.gauge], hgauges.sizes.imp id ?_⟩
    rintro ⟨hended, hbroken⟩
    refine ⟨hbroken, fun more => ?_⟩
    rw [run_append]
    exact (frozen_run hbuilt hended more).1

/-- A listing with one name ends, and an update then moves the name to a wildcard. Its
removal and its addition are one event, after which both sizes show the new index. -/
theorem gauges_never_stale_of_moved_name :
    let actions : List Action :=
      [.build {} .recording, .start, .send (.ofAdded ⟨"ns", "x", "www"⟩), .poll, .send .synced,
        .poll, .send (.ofUpdated ⟨"ns", "x", "www"⟩ ⟨"ns", "x", "*.www"⟩), .poll]
    ∃ r, (({} : System).run actions).resolver = some r ∧ r.metrics.synced = true ∧
      r.metrics.sizes = some (r.index.count .regular, r.index.count .wildcard) ∧
      r.index.count .regular = 0 ∧ r.index.count .wildcard = 1 := by
  intro actions
  have hdelivered : (({} : System).run actions).channel.delivered =
      [.ofAdded ⟨"ns", "x", "www"⟩, .synced,
        .ofUpdated ⟨"ns", "x", "www"⟩ ⟨"ns", "x", "*.www"⟩] := rfl
  obtain ⟨r, hr⟩ : ∃ r, (({} : System).run actions).resolver = some r := ⟨_, rfl⟩
  obtain ⟨hgauge, hsizes⟩ := gauges_never_stale actions r hr
  obtain rfl := Option.some.inj hr
  refine ⟨_, rfl, hgauge.2 rfl, ?_, by decide +kernel, by decide +kernel⟩
  rcases hsizes with (⟨-, -, hbefore⟩ | hsizes) | ⟨hbroken, -⟩
  · rw [hdelivered] at hbefore
    exact absurd (by simp) hbefore
  · exact hsizes
  · exact absurd hbroken (Synchronizer.not_breaksAtLast Observer.isSteady_recording _)

end System

end NameOwners
