import NameOwners.CommandLine.Program
import NameOwners.Proofs.Notification.Lines
import NameOwners.Proofs.System.Settling

/-!
A replay prints what the plain handling of its notifications makes. Everything is
sent before the resolver is built and the channel is closed behind it, so the task
can only end when it has taken all (`Drains`), and the calls around it leave the
index alone. The end of a listing changes no index, wherever it comes and whether it
is sent for want of another. So a replay shows the index of a fold over the lines
(`replay_eq`), and lines that are no notification or tell the end of a listing do
not matter to the program.
-/

namespace NameOwners

namespace System

/-! ### A closed channel is drained -/

variable {a : Option Answer} {c c' : Channel} {r r' : Resolver}

/-- A resolver without an observer that was started on a closed channel and not shut
down. -/
structure Drains (config : ResolverConfig) (ns : List Notification) (c : Channel)
    (r : Resolver) : Prop where
  follows : Follows c r
  sent : c.sent = ns
  closed : c.isOpen = false
  config : r.config = config
  observer : r.synchronizer.observer = .silent
  begun : r.watch ≠ .held
  isStopped : r.isStopped = false

namespace Drains

variable {config : ResolverConfig} {ns : List Notification}

theorem move (hm : Move none c r c' r') (h : Drains config ns c r) : Drains config ns c' r' := by
  obtain ⟨hclosed, hsent⟩ := closed_of_move hm h.closed
  obtain ⟨hconfig, hobserver⟩ := config_of_move hm
  exact ⟨h.follows.move hm, hsent.trans h.sent, hclosed, hconfig.trans h.config,
    hobserver.trans h.observer, fun hheld => h.begun (hm.proceeds.held.1 hheld),
    hm.proceeds.isStopped.trans h.isStopped⟩

/-- At rest the task has ended, and it has taken all that was sent. -/
theorem delivered_of_isQuiet {s : System} (hr : s.resolver = some r)
    (h : Drains config ns s.channel r) (hquiet : s.isQuiet = true) :
    r.watch = .ended ∧ s.channel.delivered = ns := by
  have hpoll : s.canPoll = false := by
    rw [isQuiet, Bool.and_eq_true, Bool.not_eq_true'] at hquiet
    exact hquiet.1
  have hended : r.watch = .ended := by
    cases hwatch : r.watch with
    | held => exact absurd hwatch h.begun
    | running =>
        rw [canPoll_iff.2 ⟨r, hr, hwatch, .inr (.inr h.closed)⟩] at hpoll
        cases hpoll
    | ended => rfl
  refine ⟨hended, ?_⟩
  rcases h.follows.complete hended with hstopped | hqueued | hbroken
  · rw [h.isStopped] at hstopped
    cases hstopped
  · rw [← h.sent, Channel.sent, hqueued, List.append_nil]
  · refine absurd hbroken (Synchronizer.not_breaksAtLast ?_ _)
    rw [Synchronizer.fresh, h.observer]
    exact Observer.isSteady_silent

end Drains

/-! ### Running to the end -/

/-- The starting call is accepted and returns. When the resolver is shut down after it,
everything was taken from the channel and is in the index, and no call still waits
for the task. -/
theorem exists_runToEnd {s : System} {r : Resolver} (h : s.Built r) (hfollows : Follows s.channel r)
    (hclosed : s.channel.isOpen = false) (hobserver : r.synchronizer.observer = .silent)
    (hheld : r.watch = .held) (hstopped : r.isStopped = false) :
    ∃ begun t r', s.start r = (begun, .ok ()) ∧ begun.awaitStart.isStarting = false ∧
      s.runToEnd r = .ok t ∧ t.resolver = some r' ∧ t.channel.delivered = s.channel.sent ∧
      r'.index = ({} : Index).handleAll r.config.filter s.channel.sent ∧ .pending ∉ r'.waits := by
  have hstart : r.start s.clock =
      .ok { r with watch := .running, startup := .waiting s.clock, joinable := true } :=
    Resolver.start_eq_ok_iff.2 ⟨hstopped, hheld, rfl⟩
  let r₁ : Resolver := { r with watch := .running, startup := .waiting s.clock, joinable := true }
  let begun : System := { s with resolver := some r₁ }
  have hbegun : s.start r = (begun, .ok ()) := by rw [start, hstart]
  have hbuilt : begun.Built r₁ := ⟨rfl, h.watched⟩
  have hdrains : Drains r.config s.channel.sent begun.channel r₁ :=
    ⟨hfollows.move (.start s.clock hstopped hheld), rfl, hclosed, rfl, hobserver, by simp [r₁],
      hstopped⟩
  -- The call that waits for the task lines up once the starting call has returned.
  obtain ⟨r₂, hbuilt₂, hdrains₂⟩ :=
    kept_by_itself Drains.move hbuilt hdrains begun.becomes_awaitStart
  have hbuilt₃ : (begun.awaitStart.modify Resolver.wait).Built r₂.wait :=
    ⟨resolver_modify hbuilt₂.resolver _, hbuilt₂.watched⟩
  let rested : System := (begun.awaitStart.modify Resolver.wait).settle
  obtain ⟨r₄, hbuilt₄, hdrains₄⟩ : ∃ r₄, rested.Built r₄ ∧
      Drains r.config s.channel.sent rested.channel r₄ :=
    kept_by_itself Drains.move hbuilt₃ (hdrains₂.move .wait) (becomes_settle _)
  have hquiet : rested.isQuiet = true := isQuiet_settle _
  obtain ⟨hended, hdelivered⟩ := hdrains₄.delivered_of_isQuiet hbuilt₄.resolver hquiet
  have hwaits := not_pending_of_isQuiet hbuilt₄.resolver hended hquiet
  refine ⟨begun, rested.modify fun r => (r.shutdown rested.clock).1,
    (r₄.shutdown rested.clock).1, hbegun, isStarting_awaitStart hbuilt rfl, ?_,
    resolver_modify hbuilt₄.resolver _, hdelivered, ?_, ?_⟩
  · rw [runToEnd, hbegun]
    rfl
  · rw [(r₄.keeps_shutdown _).index, hdrains₄.follows.index, hdelivered, hdrains₄.config,
      Synchronizer.index_handleAll_fresh]
  · rw [(r₄.sameWaits_shutdown _).waits]
    exact hwaits

theorem sendAll_eq {s : System} (hopen : s.channel.isOpen = true) (hreceives : s.receives = true)
    (ns : List Notification) : s.sendAll ns =
      { s with channel := { s.channel with queued := s.channel.queued ++ ns } } := by
  induction ns generalizing s with
  | nil => simp [sendAll]
  | cons n ns ih =>
      have hsend : (s.send n).1 = { s with channel := s.channel.push n } := by
        rw [send, hopen, hreceives]
        rfl
      have hrest := ih (s := { s with channel := s.channel.push n }) hopen hreceives
      rw [sendAll, List.foldl_cons, hsend]
      exact hrest.trans (by simp [Channel.push])

end System

/-- The index of a replay is that of the plain handling of its notifications. The end of
the listing that may be added to them leaves no trace. -/
theorem replay_eq {config : ResolverConfig} (hvalid : config.check = .ok ())
    (ns : List Notification) :
    replay config ns = .ok (({} : Index).handleAll config.filter ns) := by
  let channel : Channel := { queued := Notification.withSynced ns, isOpen := false }
  let s : System :=
    { source := ⟨.watched, [resyncPeriod]⟩, channel, resolver := some (.create config .silent) }
  have hbuild : (({} : System).sendAll (Notification.withSynced ns)).close.buildResolver config
      .silent = .ok (s, .create config .silent) := by
    rw [System.sendAll_eq rfl rfl, System.buildResolver, System.build, hvalid]
    rfl
  obtain ⟨-, t, r, -, -, hend, hr, -, hindex, -⟩ := System.exists_runToEnd (s := s)
    (r := .create config .silent) ⟨rfl, rfl⟩ (System.follows_create _ _ _ rfl) rfl rfl rfl rfl
  rw [replay, hbuild]
  change (System.runToEnd s (.create config .silent) >>= fun t => _) = _
  rw [hend]
  change Except.ok ((t.resolver.map Resolver.index).getD {}) = _
  rw [hr, Option.map_some, Option.getD_some, hindex]
  exact congrArg Except.ok (Index.handleAll_withSynced _ _ _)

/-! ### The program -/

namespace CommandLine

/-- The program is asked to replay a text, with a configuration that it can load and that
makes sense. -/
structure Replays (s : Surroundings) (config : Config) (text : String) : Prop where
  asked : ∃ o, Command.read s.arguments = .ok (.replay o) ∧ loadConfig s o.config = .ok config ∧
    eventsText s o.events = .ok text
  logged : checkLog s config.telemetry = .ok ()
  valid : config.resolver.check = .ok ()

variable {s s' : Surroundings} {config : Config} {text text' : String}

theorem run_eq_of_replays (h : Replays s config text) :
    run s =
      { exitCode := 0
        output := (({} : Index).handleAll config.resolver.filter
          (Notification.ofLines text)).snapshot.pretty ++ "\n" } := by
  obtain ⟨o, hread, hload, htext⟩ := h.asked
  have houtput : replayOutput s o =
      .ok ((({} : Index).handleAll config.resolver.filter
        (Notification.ofLines text)).snapshot.pretty ++ "\n") := by
    simp only [replayOutput, hload, h.logged, htext, replay_eq h.valid, bind, Except.bind,
      Except.mapError]
  simp only [run, hread, houtput]

/-- The program prints the index that the plain handling of the notifications among the
lines makes, in their order, whoever observes it. So what it prints stays the same
when lines that are blank, that are no notification or that tell the end of a listing
are put in or left out anywhere. -/
theorem replay_prints_handled_lines (h : Replays s config text) :
    (∀ o, run s =
      { exitCode := 0
        output := ((Synchronizer.fresh config.resolver.filter o).handleAll
          (Notification.ofLines text)).index.snapshot.pretty ++ "\n" }) ∧
    ∀ s' text', Replays s' config text' →
      (Notification.lines text').filter (fun line => !Notification.isIdleLine line) =
        (Notification.lines text).filter (fun line => !Notification.isIdleLine line) →
      run s' = run s := by
  refine ⟨fun o => ?_, fun s' text' h' hlines => ?_⟩
  · rw [run_eq_of_replays h, Synchronizer.index_handleAll_fresh]
  · rw [run_eq_of_replays h', run_eq_of_replays h, Notification.handleAll_ofLines_congr hlines]

/-- A registration with blank lines, the end of the listing and a broken line around it. -/
theorem replay_prints_handled_lines_of_noisy_input :
    let plain := "[\"ADDED\",[[\"x\",\"n\"],[\"w\"]]]"
    let noisy := "\n \u3000\n[\"SYNCED\"]\n" ++ plain ++ "\n[\n"
    let given (text : String) : Surroundings := ⟨[], [], text.toUTF8, fun _ => none⟩
    run (given noisy) = run (given plain) ∧ run (given plain) =
      { exitCode := 0
        output := (({} : Index).add ⟨"n", "x", "w"⟩).1.snapshot.pretty ++ "\n" } := by
  intro plain noisy given
  have hreplays (text : String) : Replays (given text) {} text := by
    refine ⟨⟨{}, rfl, rfl, ?_⟩, rfl, rfl⟩
    have htext : String.fromUTF8? text.toUTF8 = some text := by
      unfold String.fromUTF8?
      exact dif_pos text.isValidUTF8
    simp only [eventsText, textOf, given, Option.bind_some, htext]
  obtain ⟨hprints, hsame⟩ := replay_prints_handled_lines (hreplays plain)
  refine ⟨hsame _ noisy (hreplays noisy) (by decide +kernel), ?_⟩
  rw [hprints .silent]
  decide +kernel

end CommandLine

end NameOwners
