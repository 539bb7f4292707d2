import NameOwners.Proofs.Resolver
import NameOwners.Proofs.Run
import NameOwners.Proofs.System.Move

/-!
The task delivers what was sent: it loses nothing, repeats nothing and keeps the
order. At every moment the notifications that were taken from the channel are a
beginning of what was sent, and the index is what a synchronizer makes of them
(`Follows`). Only a shutdown, or an observer that breaks down at a notification,
ends the task before it has taken everything.
-/

namespace NameOwners

/-- The observer breaks down at the last one of some notifications. -/
def Synchronizer.BreaksAtLast (s : Synchronizer) (run : List Notification) : Prop :=
  ∃ before n, run = before ++ [n] ∧ (s.handleAll before).breaksAt n = true

/-- The call that started a resolver has returned, because a look at the clock
found that everything was listed. -/
def Resolver.HasSeenSync (r : Resolver) : Prop :=
  ∃ elapsed, r.startup = .returned elapsed ∧ (SyncWait.synced, elapsed) ∈ r.metrics.syncWaits

theorem Synchronizer.not_breaksAtLast {s : Synchronizer}
    (h : s.observer.IsSteady) (run : List Notification) : ¬s.BreaksAtLast run := by
  rintro ⟨before, n, -, hbreaks⟩
  unfold breaksAt at hbreaks
  split at hbreaks
  · obtain ⟨next, -, hbreaks⟩ := (Option.any_eq_true _ _).1 hbreaks
    rw [observer_handleAll, h] at hbreaks
    cases hbreaks
  · cases hbreaks

theorem Channel.delivered_prefix_sent (c : Channel) : c.delivered <+: c.sent :=
  List.prefix_append _ _

theorem Channel.eq_of_pop? {c d : Channel} {n : Notification} (h : c.pop? = some (n, d)) :
    d.delivered = c.delivered ++ [n] ∧ c.queued = n :: d.queued := by
  unfold pop? at h
  split at h
  · cases h
  · rename_i m rest hqueued
    cases h
    exact ⟨rfl, hqueued⟩

theorem Channel.isOpen_of_pop? {c d : Channel} {n : Notification} (h : c.pop? = some (n, d)) :
    d.isOpen = c.isOpen := by
  unfold pop? at h
  split at h
  · cases h
  · cases h
    rfl

namespace System

/-! ### What was sent -/

/-- The notification that an action sends, if it is accepted. -/
def acceptedBy (s : System) : Action → List Notification
  | .send n => if (s.send n).2 then [n] else []
  | _ => []

def accepted : System → List Action → List Notification
  | _, [] => []
  | s, a :: actions => s.acceptedBy a ++ (s.step a).accepted actions

theorem accepted_append (s : System) (actions more : List Action) :
    s.accepted (actions ++ more) = s.accepted actions ++ (s.run actions).accepted more := by
  induction actions generalizing s with
  | nil => rfl
  | cons a actions ih => rw [List.cons_append, accepted, ih, accepted, List.append_assoc, run_cons]

theorem accepted_replicate_tick (s : System) (k : Nat) :
    s.accepted (List.replicate k .tick) = [] := by
  induction k generalizing s with
  | zero => rfl
  | succ k ih => simp only [List.replicate_succ, accepted, acceptedBy, ih, List.append_nil]

theorem sent_poll (s : System) : s.poll.channel.sent = s.channel.sent := by
  unfold poll
  split
  · rfl
  · split
    · rfl
    · split
      · rfl
      · split
        · rename_i hpop
          exact Channel.sent_pop hpop
        · split
          · rfl
          · rfl

theorem sent_build (s : System) (config : ResolverConfig) (observer : Observer) :
    (s.build config observer).1.channel.sent = s.channel.sent := by
  unfold build
  split
  · rfl
  · split
    · rfl
    · rfl

theorem sent_step (s : System) (a : Action) :
    (s.step a).channel.sent = s.channel.sent ++ s.acceptedBy a := by
  cases a with
  | send n =>
      simp only [step, acceptedBy, send]
      split
      · simp
      · simp
  | build config observer =>
      simp only [step, acceptedBy, List.append_nil]
      exact s.sent_build config observer
  | poll =>
      simp only [step, acceptedBy, List.append_nil]
      exact s.sent_poll
  | start =>
      simp only [step, acceptedBy, List.append_nil]
      split
      · rw [start]
        split
        · rfl
        · rfl
      · rfl
  | shutdown =>
      simp only [step, acceptedBy, List.append_nil]
      split
      · rfl
      · rfl
  | tick =>
      simp only [step, acceptedBy, List.append_nil]
      split
      · rfl
      · rfl
  | close => simp [step, acceptedBy, close]
  | wait => simp [step, acceptedBy, modify]
  | abandon call => simp [step, acceptedBy, modify]
  | wake => simp [step, acceptedBy, wake, modify]

theorem sent_run (s : System) (actions : List Action) :
    (s.run actions).channel.sent = s.channel.sent ++ s.accepted actions := by
  induction actions generalizing s with
  | nil => simp [accepted]
  | cons a actions ih => rw [run_cons, ih, sent_step, accepted, List.append_assoc]

theorem sent_eq_accepted (actions : List Action) :
    (({} : System).run actions).channel.sent = ({} : System).accepted actions :=
  sent_run {} actions

/-! ### What is delivered -/

/-- A resolver follows its channel: it is as a synchronizer is that handled what
was taken from the channel. -/
structure Follows (c : Channel) (r : Resolver) : Prop where
  filter : r.synchronizer.filter = r.config.filter
  index : r.index =
    ((Synchronizer.fresh r.config.filter r.synchronizer.observer).handleAll c.delivered).index
  shown : r.synchronizer.shown =
    ((Synchronizer.fresh r.config.filter r.synchronizer.observer).handleAll c.delivered).shown
  synced : r.synced = true ↔ .synced ∈ c.delivered
  cancelled : r.isCancelled = r.isStopped
  /-- Nothing is taken before the task runs. -/
  untouched : r.watch = .held → c.delivered = []
  /-- The task ends on a shutdown, or when nothing is left to take, or with its observer. -/
  complete : r.watch = .ended → r.isStopped = true ∨ c.queued = [] ∨
    (Synchronizer.fresh r.config.filter r.synchronizer.observer).BreaksAtLast c.delivered
  seen : ∀ elapsed, (SyncWait.synced, elapsed) ∈ r.metrics.syncWaits → r.synced = true

theorem follows_create (c : Channel) (config : ResolverConfig) (observer : Observer)
    (h : c.delivered = []) : Follows c (.create config observer) := by
  refine ⟨rfl, ?_, ?_, ?_, rfl, fun _ => h, ?_, ?_⟩
  · rw [h]
    rfl
  · rw [h]
    rfl
  · rw [h]
    simp [Resolver.create]
  · intro hended
    cases hended
  · intro elapsed hmem
    cases hmem

namespace Follows

variable {c d : Channel} {r r' : Resolver}

theorem keeps (h : Follows c r) (hr : r.Keeps r') : Follows c r' := by
  constructor
  · rw [hr.filter, hr.config, h.filter]
  · rw [hr.index, hr.config, hr.observer, h.index]
  · rw [hr.shown, hr.config, hr.observer, h.shown]
  · rw [hr.synced, h.synced]
  · exact hr.isCancelled h.cancelled
  · rw [hr.watch]
    exact h.untouched
  · rw [hr.watch, hr.config, hr.observer]
    exact fun hended => (h.complete hended).imp_left hr.isStopped
  · intro elapsed hmem
    rw [hr.synced]
    exact (hr.syncWaits elapsed hmem).elim (h.seen elapsed) id

/-- If the observer breaks down at the next notification, so does that of a synchronizer
that handled everything from the start. -/
theorem breaksAtLast (h : Follows c r) {n : Notification} (hpop : c.pop? = some (n, d))
    (hbreaks : r.synchronizer.breaksAt n = true) :
    (Synchronizer.fresh r.config.filter r.synchronizer.observer).BreaksAtLast d.delivered := by
  refine ⟨c.delivered, n, (Channel.eq_of_pop? hpop).1, ?_⟩
  rw [← hbreaks]
  refine Synchronizer.breaksAt_congr ?_ h.index.symm ?_ h.shown.symm n
  · exact Synchronizer.observer_handleAll _ _
  · rw [Synchronizer.filter_handleAll, h.filter]
    rfl

theorem deliver (h : Follows c r) {n : Notification} (hwatch : r.watch = .running)
    (hpop : c.pop? = some (n, d)) : Follows d (r.deliver n) := by
  obtain ⟨hdelivered, -⟩ := Channel.eq_of_pop? hpop
  have hr := r.delivers_deliver n
  have hindex := h.index
  constructor
  · rw [hr.filter, hr.config, h.filter]
  · rw [hr.index, hr.config, hr.observer, hdelivered, Synchronizer.handleAll_append,
      Synchronizer.handleAll_cons, Synchronizer.handleAll_nil, Synchronizer.index_handle,
      Synchronizer.filter_handleAll, ← hindex, h.filter]
    rfl
  · rw [hr.shown, hr.config, hr.observer, hdelivered, Synchronizer.handleAll_append,
      Synchronizer.handleAll_cons, Synchronizer.handleAll_nil]
    refine Synchronizer.shown_handle_congr hindex ?_ h.shown n
    rw [Synchronizer.filter_handleAll, h.filter]
    rfl
  · rw [hr.synced, h.synced, hdelivered]
    simp [eq_comm]
  · rw [hr.isCancelled, hr.isStopped, h.cancelled]
  · intro hheld
    rw [hr.watch, hwatch] at hheld
    split at hheld <;> cases hheld
  · intro hended
    rw [hr.watch, hwatch] at hended
    split at hended
    · rename_i hbreaks
      rw [hr.config, hr.observer]
      exact .inr (.inr (h.breaksAtLast hpop hbreaks))
    · cases hended
  · intro elapsed hmem
    rw [hr.syncWaits] at hmem
    exact hr.synced.2 (.inl (h.seen elapsed hmem))

theorem move {a : Option Answer} {c' : Channel} (hm : Move a c r c' r') (h : Follows c r) :
    Follows c' r' := by
  cases hm.effect with
  | keeps hr => exact h.keeps hr
  | push n hopen hwatch =>
      exact ⟨h.filter, h.index, h.shown, h.synced, h.cancelled, h.untouched,
        fun hended => absurd hended hwatch, h.seen⟩
  | close =>
      exact ⟨h.filter, h.index, h.shown, h.synced, h.cancelled, h.untouched, h.complete, h.seen⟩
  | start now hstopped hwatch =>
      exact ⟨h.filter, h.index, h.shown, h.synced, h.cancelled, nofun, nofun, h.seen⟩
  | deliver hwatch hcancelled hpop => exact h.deliver hwatch hpop
  | finish hwatch hend =>
      exact ⟨h.filter, h.index, h.shown, h.synced, h.cancelled, nofun,
        fun _ => hend.imp (fun hstop => h.cancelled ▸ hstop) fun hclosed => .inl hclosed.1, h.seen⟩

end Follows

theorem has_follows (actions : List Action) : (({} : System).run actions).Has Follows :=
  has_run_of_moves follows_create Follows.move actions

/-! ### From one moment to a later one -/

theorem delivered_prefix_of_move {a : Option Answer} {c c' : Channel} {r r' : Resolver}
    (hm : Move a c r c' r') : c.delivered <+: c'.delivered := by
  cases hm with
  | deliver hwatch hcancelled hpop =>
      rw [(Channel.eq_of_pop? hpop).1]
      exact List.prefix_append _ _
  | _ => exact List.prefix_rfl

/-- Once the task has ended the channel stands still. -/
theorem frozen_of_move {a : Option Answer} {c c' : Channel} {r r' : Resolver}
    (hm : Move a c r c' r') (hended : r.watch = .ended) :
    r'.watch = .ended ∧ c'.delivered = c.delivered ∧ c'.sent = c.sent := by
  cases hm.effect with
  | keeps hr => exact ⟨hr.watch.trans hended, rfl, rfl⟩
  | push n hopen hwatch => exact absurd hended hwatch
  | close => exact ⟨hended, rfl, rfl⟩
  | start now hstopped hwatch =>
      rw [hwatch] at hended
      cases hended
  | deliver hwatch hcancelled hpop =>
      rw [hwatch] at hended
      cases hended
  | finish hwatch hend => exact ⟨rfl, rfl, rfl⟩

theorem delivered_prefix_run {s : System} {r : Resolver} (h : s.Built r) (more : List Action) :
    s.channel.delivered <+: (s.run more).channel.delivered := by
  obtain ⟨r', -, hbegins⟩ := kept_by_run (P := fun c _ => s.channel.delivered <+: c.delivered)
    (fun hm hc => hc.trans (delivered_prefix_of_move hm)) h List.prefix_rfl more
  exact hbegins

theorem frozen_run {s : System} {r : Resolver} (h : s.Built r) (hended : r.watch = .ended)
    (more : List Action) :
    (s.run more).channel.delivered = s.channel.delivered ∧
      (s.run more).channel.sent = s.channel.sent := by
  obtain ⟨r', -, -, hdelivered, hsent⟩ := kept_by_run
    (P := fun c r => r.watch = .ended ∧ c.delivered = s.channel.delivered ∧
      c.sent = s.channel.sent)
    (fun hm hc =>
      let ⟨hended', hdelivered, hsent⟩ := frozen_of_move hm hc.1
      ⟨hended', hdelivered.trans hc.2.1, hsent.trans hc.2.2⟩)
    h ⟨hended, rfl, rfl⟩ more
  exact ⟨hdelivered, hsent⟩

/-- Nothing is sent any more through a closed channel. -/
theorem closed_of_move {a : Option Answer} {c c' : Channel} {r r' : Resolver}
    (hm : Move a c r c' r') (h : c.isOpen = false) :
    c'.isOpen = false ∧ c'.sent = c.sent := by
  cases hm with
  | push n hopen hwatch =>
      rw [h] at hopen
      cases hopen
  | close => exact ⟨rfl, rfl⟩
  | deliver hwatch hcancelled hpop =>
      exact ⟨(Channel.isOpen_of_pop? hpop).trans h, Channel.sent_pop hpop⟩
  | _ => exact ⟨h, rfl⟩

/-- Whom a resolver serves is settled when it is built. -/
theorem config_of_move {a : Option Answer} {c c' : Channel} {r r' : Resolver}
    (hm : Move a c r c' r') :
    r'.config = r.config ∧ r'.synchronizer.observer = r.synchronizer.observer := by
  cases hm.effect with
  | keeps hr => exact ⟨hr.config, hr.observer⟩
  | deliver hwatch hcancelled hpop =>
      exact ⟨(r.delivers_deliver _).config, (r.delivers_deliver _).observer⟩
  | _ => exact ⟨rfl, rfl⟩

theorem observer_run {s : System} {r r' : Resolver} (h : s.Built r) {actions : List Action}
    (h' : (s.run actions).Built r') : r'.synchronizer.observer = r.synchronizer.observer := by
  obtain ⟨r'', hbuilt, hobserver⟩ := kept_by_run
    (P := fun _ r' => r'.synchronizer.observer = r.synchronizer.observer)
    (fun hm h => (config_of_move hm).2.trans h) h rfl actions
  obtain rfl := hbuilt.eq_of_resolver h'.resolver
  exact hobserver

/-- A beginning of a list that has an element which comes first at some place
reaches up to this place. -/
theorem prefix_of_mem_of_not_mem {α : Type} {l before after : List α} {x : α}
    (h : l <+: before ++ x :: after) (hx : x ∈ l) (hbefore : x ∉ before) :
    before ++ [x] <+: l := by
  have hlength : before.length < l.length := by
    refine Nat.lt_of_not_le fun hle => hbefore ?_
    have hshort : l <+: before :=
      List.prefix_of_prefix_length_le h (List.prefix_append _ _) hle
    exact hshort.subset hx
  refine List.prefix_of_prefix_length_le ⟨after, by simp⟩ h ?_
  rw [List.length_append, List.length_singleton]
  exact hlength

/-- At every moment of every run that began with nothing: what was taken from the
channel is a beginning of what was sent, stays taken, and is nothing until the
task runs; the index is what a synchronizer makes of it, and the resolver is
synced exactly if it contains the end of a listing. If the task has ended without
a shutdown and its observer did not break down at the last notification, then all
that was sent was taken. And when the starting call has returned on seeing the
sync, all that was sent up to the first end of a listing was taken. -/
theorem delivers_what_was_sent (actions : List Action) :
    let s := ({} : System).run actions
    let taken := s.channel.delivered
    taken <+: ({} : System).accepted actions ∧
    (∀ more, taken <+: (({} : System).run (actions ++ more)).channel.delivered) ∧
    ((∀ r, s.resolver = some r → r.watch = .held) → taken = []) ∧
    ∀ r, s.resolver = some r →
      let fresh := Synchronizer.fresh r.config.filter r.synchronizer.observer
      r.index = (fresh.handleAll taken).index ∧
      (r.synced = true ↔ .synced ∈ taken) ∧
      (r.watch = .ended → r.isStopped = false → ¬fresh.BreaksAtLast taken →
        ∀ more, (({} : System).run (actions ++ more)).channel.delivered =
          ({} : System).accepted (actions ++ more)) ∧
      (r.HasSeenSync → ∀ before after,
        ({} : System).accepted actions = before ++ .synced :: after → .synced ∉ before →
          before ++ [.synced] <+: taken) := by
  intro s taken
  have hsent : ∀ actions, (({} : System).run actions).channel.sent =
      ({} : System).accepted actions := fun actions => sent_run {} actions
  have hbegins : taken <+: ({} : System).accepted actions := by
    rw [← hsent]
    exact s.channel.delivered_prefix_sent
  rcases has_follows actions with ⟨hnone, hnothing⟩ | ⟨r, hbuilt, hfollows⟩
  · refine ⟨hbegins, fun more => ?_, fun _ => hnothing, fun r hr => ?_⟩
    · change s.channel.delivered <+: _
      rw [hnothing]
      exact List.nil_prefix
    · rw [hnone] at hr
      cases hr
  · refine ⟨hbegins, fun more => ?_, fun hheld => ?_, ?_⟩
    · rw [run_append]
      exact delivered_prefix_run hbuilt more
    · exact hfollows.untouched (hheld r hbuilt.resolver)
    · intro r' hr'
      obtain rfl : r = r' := Option.some.inj (hbuilt.resolver.symm.trans hr')
      refine ⟨hfollows.index, hfollows.synced, fun hended hstopped hbreaks more => ?_, ?_⟩
      · have hqueued : s.channel.queued = [] := by
          rcases hfollows.complete hended with hstop | hempty | hbroken
          · rw [hstopped] at hstop
            cases hstop
          · exact hempty
          · exact absurd hbroken hbreaks
        -- From now on nothing is taken, and nothing is accepted either.
        obtain ⟨hdelivered, hsame⟩ := frozen_run hbuilt hended more
        rw [← hsent, run_append, hdelivered, hsame, Channel.sent, hqueued, List.append_nil]
      · rintro ⟨elapsed, -, hseen⟩ before after hall hbefore
        rw [hall] at hbegins
        exact prefix_of_mem_of_not_mem hbegins (hfollows.synced.1 (hfollows.seen elapsed hseen))
          hbefore

/-- A starting call that saw the sync after 100 ms finds the listing before it
taken, and a task whose channel was closed has taken all, also what was sent
before it began. -/
theorem delivers_what_was_sent_until_closed :
    let n : Notification := .ofAdded ⟨"ns", "x", "www"⟩
    let begun : List Action := [.send n, .build {} .recording, .start, .send .synced, .poll, .poll]
    let seen : List Action := begun ++ List.replicate 100 .tick
    let closed : List Action := begun ++ [.send n, .close, .poll, .poll]
    (∃ r, (({} : System).run seen).resolver = some r ∧ r.HasSeenSync ∧
      [n, .synced] <+: (({} : System).run seen).channel.delivered) ∧
    ∃ r, (({} : System).run closed).resolver = some r ∧ r.watch = .ended ∧ r.isStopped = false ∧
      (({} : System).run closed).channel.delivered = [n, .synced, n] := by
  intro n begun seen closed
  constructor
  · have hlook : (({} : System).run seen).resolver.any (fun r => r.startup = .returned 100 ∧
        (SyncWait.synced, 100) ∈ r.metrics.syncWaits) = true := by decide +kernel
    obtain ⟨hsome, hlook⟩ := (Option.any_eq_true_iff_get ..).1 hlook
    obtain ⟨r, hr⟩ := Option.isSome_iff_exists.1 hsome
    have hseen : r.HasSeenSync := by
      simp only [hr, Option.get_some, decide_eq_true_eq] at hlook
      exact ⟨100, hlook⟩
    have hsent : ({} : System).accepted seen = [n] ++ .synced :: [] := by
      rw [accepted_append, accepted_replicate_tick]
      rfl
    obtain ⟨-, -, -, h⟩ := delivers_what_was_sent seen
    exact ⟨r, hr, hseen, (h r hr).2.2.2 hseen [n] [] hsent (by simp [n, Notification.ofAdded])⟩
  · obtain ⟨r, hr, hwatch, hstopped, hobserver⟩ : ∃ r,
        (({} : System).run closed).resolver = some r ∧ r.watch = .ended ∧ r.isStopped = false ∧
          r.synchronizer.observer = .recording := ⟨_, rfl, rfl, rfl, rfl⟩
    have hsent : ({} : System).accepted closed = [n, .synced, n] := rfl
    obtain ⟨-, -, -, h⟩ := delivers_what_was_sent closed
    have hbreaks : ¬(Synchronizer.fresh r.config.filter r.synchronizer.observer).BreaksAtLast
        (({} : System).run closed).channel.delivered := by
      rw [hobserver]
      exact Synchronizer.not_breaksAtLast Observer.isSteady_recording _
    have htaken := (h r hr).2.2.1 hwatch hstopped hbreaks []
    rw [List.append_nil, hsent] at htaken
    exact ⟨r, hr, hwatch, hstopped, htaken⟩

/-- An observer that breaks down ends the task, and what waits in the channel is
lost: no beginning of what was sent explains this resolver and is all of it. -/
theorem no_complete_delivery_after_breakdown :
    let actions : List Action :=
      [.build {} (.failingAt "boom."), .send .synced, .send (.ofAdded ⟨"ns", "r", "boom."⟩),
        .send (.ofAdded ⟨"ns", "s", "svc."⟩), .start, .poll, .poll, .poll]
    ∃ r, (({} : System).run actions).resolver = some r ∧ r.watch = .ended ∧ r.isStopped = false ∧
      ¬∃ taken, taken <+: ({} : System).accepted actions ∧
        r.index = ((Synchronizer.fresh r.config.filter r.synchronizer.observer).handleAll
          taken).index ∧
        (r.synced = true ↔ .synced ∈ taken) ∧ taken = ({} : System).accepted actions := by
  intro actions
  refine ⟨_, rfl, rfl, rfl, ?_⟩
  rintro ⟨taken, -, hindex, -, rfl⟩
  have howner := congrArg (fun i => i.owner? .regular "svc." "ns") hindex
  exact absurd howner (by decide)

end System

end NameOwners
