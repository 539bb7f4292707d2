import Mathlib.Algebra.Order.Floor.Div
import Mathlib.Data.ENat.Lattice
import NameOwners.Proofs.Resolver

/-!
The call that starts a resolver, against the clock. Every 100 ms it looks whether
everything was listed, after 5000 ms it gives up, and a shutdown cuts it short. So the
times of the listing and of the shutdown, counted from the call and `⊤` if they never
come, tell when it returns (`returnsAt`) and what is noted of its wait (`noted`), unless
one of them falls on a moment at which the call looks (`Undisputed`). `CallAt` says
where the call is at a moment if these are the times so far. It holds when the call
begins, and whatever happens to the resolver keeps it (`CallAt.step`).
-/

namespace NameOwners

/-! ### When the call returns -/

/-- When the call sees that everything was listed: at its first look after that, if there
is one before the deadline. -/
def seenAt (listed : ℕ∞) : ℕ∞ :=
  if listed ≤ 4900 then ((100 * max 1 (listed.toNat ⌈/⌉ 100) : Nat) : ℕ∞) else ⊤

noncomputable def returnsAt (listed stopped : ℕ∞) : ℕ∞ :=
  min stopped (min (seenAt listed) 5000)

/-- What is noted of the call: nothing if it is cut short. -/
noncomputable def noted (listed stopped : ℕ∞) : List (SyncWait × Nat) :=
  if seenAt listed < min stopped 5000 then [(.synced, (seenAt listed).toNat)]
  else if 5000 < min stopped (seenAt listed) then [(.timedOut, 5000)]
  else []

/-- The call does not look at this time, unless it is when it begins. -/
def OffBeat (t : ℕ∞) : Prop :=
  ∀ k : Nat, t = 100 * k → k = 0

/-- Times that tell what becomes of the call whatever comes first within a moment. -/
structure Undisputed (listed stopped : ℕ∞) : Prop where
  offBeat_listed : OffBeat listed
  offBeat_stopped : OffBeat stopped
  /-- A listing that is completed after the last look but one may be found at the deadline. -/
  inTime : ¬(4900 < listed ∧ listed ≤ 5000)

variable {listed stopped : ℕ∞}

theorem offBeat_top : OffBeat ⊤ := by
  intro k hk
  exact absurd hk.symm (by exact_mod_cast ENat.natCast_ne_top (100 * k))

theorem offBeat_natCast {t : Nat} (h : t % 100 ≠ 0) : OffBeat t := by
  intro k hk
  have hk : t = 100 * k := by exact_mod_cast hk
  exact absurd (hk ▸ Nat.mul_mod_right 100 k) h

theorem seenAt_top : seenAt ⊤ = ⊤ :=
  if_neg (by decide)

theorem seenAt_natCast (t : Nat) :
    seenAt t = if t ≤ 4900 then ((100 * max 1 ((t + 99) / 100) : Nat) : ℕ∞) else ⊤ := by
  have hle : (t : ℕ∞) ≤ 4900 ↔ t ≤ 4900 := by norm_cast
  simp only [seenAt, ENat.toNat_natCast, Nat.ceilDiv_eq_add_pred_div, hle]
  rfl

theorem seenAt_cases (listed : ℕ∞) : seenAt listed = ⊤ ∨
    ∃ k : Nat, 0 < k ∧ k < 50 ∧ seenAt listed = ((100 * k : Nat) : ℕ∞) := by
  cases listed with
  | top => exact .inl seenAt_top
  | coe t =>
      rw [seenAt_natCast]
      split
      · exact .inr ⟨max 1 ((t + 99) / 100), by omega, by omega, rfl⟩
      · exact .inl rfl

theorem lt_seenAt {t : Nat} (h : OffBeat t) : (t : ℕ∞) < seenAt t := by
  rw [seenAt_natCast]
  split
  · have hoff : t = 100 * (t / 100) → t / 100 = 0 := fun heq => h _ (by exact_mod_cast heq)
    rw [Nat.cast_lt]
    omega
  · exact ENat.natCast_lt_top t

theorem seenAt_le {t k : Nat} (hin : t ≤ 4900) (hk : 0 < k) (h : t ≤ 100 * k) :
    seenAt t ≤ ((100 * k : Nat) : ℕ∞) := by
  rw [seenAt_natCast, if_pos hin, Nat.cast_le]
  omega

/-- Unless it is cut short, the call returns when it looks. -/
theorem exists_min_seenAt (listed : ℕ∞) :
    ∃ k : Nat, 0 < k ∧ min (seenAt listed) 5000 = 100 * k := by
  rcases seenAt_cases listed with htop | ⟨k, hk, hlt, heq⟩
  · refine ⟨50, by omega, ?_⟩
    rw [htop, top_inf_eq]
    rfl
  · refine ⟨k, hk, ?_⟩
    rw [heq, min_eq_left (by norm_cast; omega)]
    push_cast
    rfl

theorem returnsAt_top_left (stopped : ℕ∞) : returnsAt ⊤ stopped = min stopped 5000 := by
  rw [returnsAt, seenAt_top, top_inf_eq]

theorem returnsAt_top_right (listed : ℕ∞) : returnsAt listed ⊤ = min (seenAt listed) 5000 :=
  top_inf_eq _

theorem noted_of_seen {t : Nat} (h : seenAt listed < min stopped 5000)
    (ht : returnsAt listed stopped = t) : noted listed stopped = [(.synced, t)] := by
  obtain ⟨hopen, hintime⟩ := lt_min_iff.1 h
  have hreturns : returnsAt listed stopped = seenAt listed := by
    rw [returnsAt, min_eq_left hintime.le, min_eq_right hopen.le]
  rw [noted, if_pos h, ← hreturns, ht, ENat.toNat_natCast]

theorem noted_of_expired (h : 5000 < min stopped (seenAt listed)) :
    noted listed stopped = [(.timedOut, 5000)] := by
  have hunseen : ¬seenAt listed < min stopped 5000 := fun hseen =>
    lt_asymm (lt_min_iff.1 h).2 (lt_min_iff.1 hseen).2
  rw [noted, if_neg hunseen, if_pos h]

theorem noted_of_cut (h : stopped < min (seenAt listed) 5000) : noted listed stopped = [] := by
  obtain ⟨hbefore, hintime⟩ := lt_min_iff.1 h
  have hunseen : ¬seenAt listed < min stopped 5000 := fun hseen =>
    lt_asymm hbefore (lt_min_iff.1 hseen).1
  have hunexpired : ¬5000 < min stopped (seenAt listed) := fun hexpired =>
    lt_asymm hintime (lt_min_iff.1 hexpired).1
  rw [noted, if_neg hunseen, if_neg hunexpired]

/-! ### As time goes on -/

/-- When the listing is completed the call returns later, if it has not returned. -/
theorem returned_before_listed {t : Nat} (hoff : OffBeat t) (hover : returnsAt t stopped ≤ t) :
    returnsAt ⊤ stopped ≤ t := by
  rw [returnsAt_top_left]
  by_contra hopen
  obtain ⟨hstopped, hintime⟩ := lt_min_iff.1 (not_le.1 hopen)
  exact absurd hover (not_le.2 (lt_min hstopped (lt_min (lt_seenAt hoff) hintime)))

/-- A listing that is completed after the call has returned comes too late for it. -/
theorem eq_of_late_listing {t : Nat} (hoff : OffBeat t) (hover : returnsAt ⊤ stopped ≤ t) :
    returnsAt t stopped = returnsAt ⊤ stopped ∧ noted t stopped = noted ⊤ stopped := by
  rw [returnsAt_top_left] at hover ⊢
  have hlater : min stopped 5000 < seenAt t := hover.trans_lt (lt_seenAt hoff)
  constructor
  · rw [returnsAt, min_left_comm, min_eq_right hlater.le]
  · have hexpired : 5000 < min stopped (seenAt t) ↔ 5000 < stopped := by
      rw [lt_min_iff, and_iff_left_iff_imp]
      intro hstopped
      rwa [min_eq_right hstopped.le] at hlater
    simp only [noted, seenAt_top, not_top_lt, if_false, min_top_right, hlater.not_gt, hexpired]

/-- A shutdown ends the wait. -/
theorem eq_of_shutdown {t : Nat} (hwaits : t < returnsAt listed ⊤) :
    returnsAt listed t = t ∧ noted listed t = [] := by
  rw [returnsAt_top_right] at hwaits
  exact ⟨min_eq_left hwaits.le, noted_of_cut hwaits⟩

/-- A shutdown after the call has returned comes too late for it. -/
theorem eq_of_late_shutdown {t : Nat} (hoff : OffBeat t) (hover : returnsAt listed ⊤ ≤ t) :
    returnsAt listed t = returnsAt listed ⊤ ∧ noted listed t = noted listed ⊤ := by
  rw [returnsAt_top_right] at hover ⊢
  have hearlier : min (seenAt listed) 5000 < t := by
    refine lt_of_le_of_ne hover fun heq => ?_
    obtain ⟨k, hk, hlook⟩ := exists_min_seenAt listed
    exact hk.ne' (hoff k (heq.symm.trans hlook))
  refine ⟨min_eq_right hearlier.le, ?_⟩
  have hseen : seenAt listed < min (t : ℕ∞) 5000 ↔ seenAt listed < 5000 := by
    rw [lt_min_iff, and_iff_right_iff_imp]
    intro hlt
    rwa [min_eq_left hlt.le] at hearlier
  have hexpired : 5000 < min (t : ℕ∞) (seenAt listed) ↔ 5000 < seenAt listed := by
    rw [lt_min_iff, and_iff_right_iff_imp]
    intro hlt
    rwa [min_eq_right hlt.le] at hearlier
  simp only [noted, top_inf_eq, hseen, hexpired]

/-- A call that waits sees at its next look that everything was listed. -/
theorem eq_of_listed {t : Nat} (hlisted : listed ≤ t)
    (hintime : ¬(4900 < listed ∧ listed ≤ 5000)) (hlook : (t + 1) % 100 = 0)
    (hwaits : t < returnsAt listed ⊤) :
    returnsAt listed ⊤ = (t + 1 : Nat) ∧ noted listed ⊤ = [(.synced, t + 1)] := by
  rw [returnsAt_top_right] at hwaits
  obtain ⟨hunseen, hopen⟩ := lt_min_iff.1 hwaits
  have hopen : t < 5000 := by exact_mod_cast hopen
  cases listed with
  | top => exact absurd hlisted (not_le.2 (ENat.natCast_lt_top t))
  | coe listed =>
      have hlisted : listed ≤ t := by exact_mod_cast hlisted
      have hearly : listed ≤ 4900 := by
        have hdeadline : 4900 < listed → ¬listed ≤ 5000 := by
          exact_mod_cast fun hlate hle => hintime ⟨hlate, hle⟩
        omega
      have hseen : seenAt listed = (t + 1 : Nat) ∧ t + 1 < 5000 := by
        have hlook' : seenAt listed ≤ ((100 * ((t + 1) / 100) : Nat) : ℕ∞) :=
          seenAt_le hearly (by omega) (by omega)
        rcases seenAt_cases listed with htop | ⟨k, -, hk, heq⟩
        · rw [htop] at hlook'
          exact absurd (top_le_iff.1 hlook') (ENat.natCast_ne_top _)
        · rw [heq, Nat.cast_le] at hlook'
          rw [heq, Nat.cast_lt] at hunseen
          rw [heq, Nat.cast_inj]
          omega
      have hbefore : seenAt listed < 5000 := by
        rw [hseen.1]
        exact_mod_cast hseen.2
      have hreturns : returnsAt listed ⊤ = (t + 1 : Nat) := by
        rw [returnsAt_top_right, min_eq_left hbefore.le, hseen.1]
      exact ⟨hreturns, noted_of_seen (by rwa [top_inf_eq]) hreturns⟩

/-- A call that waits goes on to wait unless it looks and sees everything listed, or the
deadline is reached. -/
theorem succ_lt_returnsAt {t : Nat} (hunlisted : (t + 1) % 100 = 0 → listed = ⊤)
    (hopen : t + 1 < 5000) (hwaits : t < returnsAt listed ⊤) :
    ((t + 1 : Nat) : ℕ∞) < returnsAt listed ⊤ := by
  rw [returnsAt_top_right, lt_min_iff] at hwaits ⊢
  refine ⟨?_, by exact_mod_cast hopen⟩
  rcases seenAt_cases listed with htop | ⟨k, hk, -, heq⟩
  · rw [htop]
    exact ENat.natCast_lt_top _
  · have hunseen := hwaits.1
    rw [heq, Nat.cast_lt] at hunseen ⊢
    refine lt_of_le_of_ne hunseen fun hlook => ?_
    rw [hunlisted (by omega), seenAt_top] at heq
    exact ENat.natCast_ne_top _ heq.symm

/-! ### Times so far -/

/-- A time tells when something happened if it has happened by now, and is `⊤` if not. -/
def Dates (t : ℕ∞) (now : Nat) (done : Bool) : Prop :=
  if done then t ≤ now else t = ⊤

/-- The time at which something first happened, given the time so far and whether it
happens now. -/
def firstOf (t : ℕ∞) (now : Nat) (happens : Bool) : ℕ∞ :=
  if t = ⊤ then if happens then now else ⊤ else t

theorem firstOf_false (t : ℕ∞) (now : Nat) : firstOf t now false = t := by
  unfold firstOf
  split
  · rename_i ht
    exact ht.symm
  · rfl

theorem firstOf_zero (now : Nat) (happens : Bool) : firstOf 0 now happens = 0 :=
  if_neg (ENat.natCast_ne_top 0)

namespace Dates

variable {t : ℕ∞} {now now' : Nat} {done done' : Bool}

theorem of_not_yet (h : done = false) : Dates ⊤ now done := by
  rw [h]
  rfl

theorem eq_top_of_lt (h : Dates t now done) (hlater : now < t) : t = ⊤ := by
  cases done with
  | false => exact h
  | true => exact absurd hlater (not_lt.2 h)

theorem eq_false (h : Dates ⊤ now done) : done = false := by
  cases done with
  | false => rfl
  | true => exact absurd (top_le_iff.1 (show ⊤ ≤ (now : ℕ∞) from h)) (ENat.natCast_ne_top now)

/-- What has happened does not happen for the first time again. -/
theorem firstOf_eq_self_of_done (h : Dates t now true) (happens : Bool) :
    firstOf t now happens = t :=
  if_neg (ne_top_of_le_ne_top (ENat.natCast_ne_top now) h)

theorem firstOf_eq_self (h : Dates t now done) : firstOf t now done = t := by
  cases done with
  | false => exact firstOf_false t now
  | true => exact h.firstOf_eq_self_of_done true

theorem step (h : Dates t now done) {happens : Bool} (hdone : done' = (done || happens))
    (hle : now ≤ now') : Dates (firstOf t now happens) now' done' := by
  subst hdone
  cases done with
  | true =>
      have hle' : (now : ℕ∞) ≤ now' := Nat.cast_le.2 hle
      rw [h.firstOf_eq_self_of_done]
      exact (show t ≤ now from h).trans hle'
  | false =>
      obtain rfl : t = ⊤ := h
      cases happens with
      | false => exact firstOf_false ⊤ now
      | true => exact Nat.cast_le.2 hle

end Dates

theorem OffBeat.of_firstOf {t : ℕ∞} {now : Nat} {happens : Bool}
    (h : OffBeat (firstOf t now happens)) : OffBeat t := by
  by_cases ht : t = ⊤
  · rw [ht]
    exact offBeat_top
  · rwa [firstOf, if_neg ht] at h

theorem Undisputed.of_firstOf {listed stopped : ℕ∞} {now : Nat} {lists stops : Bool}
    (h : Undisputed (firstOf listed now lists) (firstOf stopped now stops)) :
    Undisputed listed stopped := by
  refine ⟨h.offBeat_listed.of_firstOf, h.offBeat_stopped.of_firstOf, ?_⟩
  by_cases ht : listed = ⊤
  · rw [ht]
    exact fun hlate => absurd hlate.2 (by decide)
  · have hintime := h.inTime
    rwa [firstOf, if_neg ht] at hintime

/-! ### What happens to the call -/

namespace Resolver

theorem syncWaits_shutdown (r : Resolver) (now : Nat) :
    (r.shutdown now).1.metrics.syncWaits = r.metrics.syncWaits := by
  unfold shutdown
  split
  · rfl
  · rfl

theorem startup_shutdown_of_waiting {r : Resolver} {now since : Nat} (hopen : r.isStopped = false)
    (h : r.startup = .waiting since) : (r.shutdown now).1.startup = .returned (now - since) := by
  rw [shutdown, if_neg (Bool.not_eq_true _ ▸ hopen), h]

theorem startup_shutdown_of_not_isStarting {r : Resolver} (h : r.isStarting = false) (now : Nat) :
    (r.shutdown now).1.startup = r.startup := by
  unfold shutdown
  split
  · rfl
  · cases hstartup : r.startup with
    | waiting since =>
        rw [isStarting, hstartup] at h
        cases h
    | idle => rfl
    | returned elapsed => rfl

theorem checkStartup_of_waiting {r : Resolver} {now since : Nat} (h : r.startup = .waiting since) :
    r.checkStartup now =
      if (now - since) % 100 = 0 ∧ r.synced then r.finishStartup .synced (now - since)
      else if 5000 ≤ now - since then r.finishStartup .timedOut (now - since)
      else r := by
  rw [checkStartup, h]
  rfl

theorem checkStartup_of_not_isStarting {r : Resolver} (h : r.isStarting = false) (now : Nat) :
    r.checkStartup now = r := by
  unfold checkStartup
  cases hstartup : r.startup with
  | waiting since =>
      rw [isStarting, hstartup] at h
      cases h
  | idle => rfl
  | returned elapsed => rfl

/-- A resolver before and after something that does not touch the call that starts it. -/
structure SameCall (r r' : Resolver) : Prop where
  isStopped : r'.isStopped = r.isStopped
  startup : r'.startup = r.startup
  syncWaits : r'.metrics.syncWaits = r.metrics.syncWaits

theorem SameCall.refl (r : Resolver) : r.SameCall r := ⟨rfl, rfl, rfl⟩

theorem sameCall_wait (r : Resolver) : r.SameCall r.wait := by
  unfold wait
  split
  · exact ⟨rfl, rfl, rfl⟩
  · exact ⟨rfl, rfl, rfl⟩

theorem sameCall_wake (r : Resolver) : r.SameCall r.wake := by
  unfold wake
  split
  · exact ⟨rfl, rfl, rfl⟩
  · exact .refl r

theorem sameCall_abandon (r : Resolver) (call : Nat) : r.SameCall (r.abandon call) := by
  unfold abandon
  split
  · exact ⟨rfl, rfl, rfl⟩
  · exact .refl r

theorem sameCall_deliver (r : Resolver) (n : Notification) : r.SameCall (r.deliver n) :=
  let hr := r.delivers_deliver n
  ⟨hr.isStopped, hr.startup, hr.syncWaits⟩

end Resolver

/-- What an action at some time does to the call that starts a resolver: whether it is a
shutdown, and time and resolver after it. -/
inductive CallStep (now : Nat) (r : Resolver) : Bool → Nat → Resolver → Prop
  | rest {r' : Resolver} (hsame : r.SameCall r') : CallStep now r false now r'
  | look : CallStep now r false (now + 1) (r.checkStartup (now + 1))
  | shutdown : CallStep now r true now (r.shutdown now).1

namespace CallStep

variable {now now' : Nat} {stops : Bool} {r r' : Resolver}

theorem le (h : CallStep now r stops now' r') : now ≤ now' := by
  cases h with
  | rest hsame => exact Nat.le_refl now
  | look => exact Nat.le_succ now
  | shutdown => exact Nat.le_refl now

theorem isStopped (h : CallStep now r stops now' r') : r'.isStopped = (r.isStopped || stops) := by
  cases h with
  | rest hsame => rw [hsame.isStopped, Bool.or_false]
  | look => rw [(r.proceeds_checkStartup (now + 1)).isStopped, Bool.or_false]
  | shutdown => rw [r.isStopped_shutdown now, Bool.or_true]

end CallStep

/-! ### Where the call is -/

/-- Where a call is that was made at a given time and a while ago, if everything was listed
and the resolver was shut down at these times, counted from the call, or not yet. -/
inductive CallAt (begun elapsed : Nat) (listed stopped : ℕ∞) (r : Resolver) : Prop
  | waiting (hopen : elapsed < returnsAt listed stopped) (hstartup : r.startup = .waiting begun)
      (hnothing : r.metrics.syncWaits = [])
  | returned {t : Nat} (hover : t ≤ elapsed) (ht : returnsAt listed stopped = t)
      (hstartup : r.startup = .returned t) (hnoted : r.metrics.syncWaits = noted listed stopped)

namespace CallAt

variable {begun elapsed now now' : Nat} {stops : Bool} {r r' : Resolver}

theorem keeps (h : CallAt begun elapsed listed stopped r) (hstartup : r'.startup = r.startup)
    (hwaits : r'.metrics.syncWaits = r.metrics.syncWaits) :
    CallAt begun elapsed listed stopped r' := by
  cases h with
  | waiting hopen hwaiting hnothing =>
      exact .waiting hopen (hstartup.trans hwaiting) (hwaits.trans hnothing)
  | returned hover ht hreturned hnoted =>
      exact .returned hover ht (hstartup.trans hreturned) (hwaits.trans hnoted)

theorem list (h : CallAt begun elapsed ⊤ stopped r) (hoff : OffBeat elapsed) :
    CallAt begun elapsed elapsed stopped r := by
  cases h with
  | waiting hopen hwaiting hnothing =>
      refine .waiting ?_ hwaiting hnothing
      exact not_le.1 fun hover => hopen.not_ge (returned_before_listed hoff hover)
  | returned hover ht hreturned hnoted =>
      have hdone : returnsAt ⊤ stopped ≤ elapsed := ht.trans_le (Nat.cast_le.2 hover)
      obtain ⟨hsame, hsamenote⟩ := eq_of_late_listing hoff hdone
      exact .returned hover (hsame.trans ht) hreturned (hnoted.trans hsamenote.symm)

theorem shutdown (h : CallAt begun (now - begun) listed ⊤ r) (hopen : r.isStopped = false)
    (hoff : OffBeat (now - begun : Nat)) :
    CallAt begun (now - begun) listed (now - begun : Nat) (r.shutdown now).1 := by
  cases h with
  | waiting hwaits hwaiting hnothing =>
      obtain ⟨hreturns, hnoted⟩ := eq_of_shutdown hwaits
      refine .returned (Nat.le_refl _) hreturns ?_ ?_
      · exact Resolver.startup_shutdown_of_waiting hopen hwaiting
      · rw [Resolver.syncWaits_shutdown, hnothing, hnoted]
  | returned hover ht hreturned hnoted =>
      have hdone : returnsAt listed ⊤ ≤ (now - begun : Nat) := ht.trans_le (Nat.cast_le.2 hover)
      have hidle : r.isStarting = false := by rw [Resolver.isStarting, hreturned]
      obtain ⟨hsame, hsamenote⟩ := eq_of_late_shutdown hoff hdone
      refine .returned hover (hsame.trans ht) ?_ ?_
      · rw [Resolver.startup_shutdown_of_not_isStarting hidle, hreturned]
      · rw [Resolver.syncWaits_shutdown, hnoted, hsamenote]

theorem finish {result : SyncWait} {t : Nat} (hnothing : r.metrics.syncWaits = [])
    (ht : returnsAt listed stopped = t) (hnoted : noted listed stopped = [(result, t)]) :
    CallAt begun t listed stopped (r.finishStartup result t) := by
  refine .returned (Nat.le_refl t) ht rfl ?_
  change r.metrics.syncWaits ++ [(result, t)] = _
  rw [hnothing, hnoted, List.nil_append]

theorem check (h : CallAt begun elapsed listed stopped r) (hnow : now - begun = elapsed + 1)
    (hintime : ¬(4900 < listed ∧ listed ≤ 5000)) (hlisted : Dates listed elapsed r.synced)
    (hstopped : Dates stopped elapsed r.isStopped) :
    CallAt begun (elapsed + 1) listed stopped (r.checkStartup now) := by
  cases h with
  | waiting hopen hwaiting hnothing =>
      obtain rfl : stopped = ⊤ := hstopped.eq_top_of_lt (lt_min_iff.1 hopen).1
      rw [Resolver.checkStartup_of_waiting hwaiting, hnow]
      split
      · rename_i hlook
        rw [hlook.2] at hlisted
        obtain ⟨ht, hnoted⟩ := eq_of_listed hlisted hintime hlook.1 hopen
        exact finish hnothing ht hnoted
      · rename_i hlook
        have hunlisted : (elapsed + 1) % 100 = 0 → listed = ⊤ := by
          intro hgrid
          have hunsynced : r.synced = false := Bool.eq_false_iff.2 fun h => hlook ⟨hgrid, h⟩
          rwa [hunsynced] at hlisted
        split
        · -- The deadline is a look, at which nothing was listed.
          have hbefore : (elapsed : ℕ∞) < 5000 := (lt_min_iff.1 (lt_min_iff.1 hopen).2).2
          have hbefore : elapsed < 5000 := by exact_mod_cast hbefore
          obtain rfl : elapsed = 4999 := by omega
          obtain rfl := hunlisted rfl
          have hexpired : 5000 < min (⊤ : ℕ∞) (seenAt ⊤) := by
            rw [seenAt_top]
            decide
          exact finish hnothing (returnsAt_top_left ⊤) (noted_of_expired hexpired)
        · rename_i hbefore
          exact .waiting (succ_lt_returnsAt hunlisted (by omega) hopen) hwaiting hnothing
  | returned hover ht hreturned hnoted =>
      have hidle : r.isStarting = false := by rw [Resolver.isStarting, hreturned]
      rw [Resolver.checkStartup_of_not_isStarting hidle]
      exact .returned (Nat.le_succ_of_le hover) ht hreturned hnoted

/-- After an action the call is where the times put it that take the action into account,
unless one of them is disputed. -/
theorem step (hstep : CallStep now r stops now' r') (hbegun : begun ≤ now)
    (hlisted : Dates listed (now - begun) r.synced)
    (hstopped : Dates stopped (now - begun) r.isStopped)
    (hcall : CallAt begun (now - begun) listed stopped r)
    (h : Undisputed (firstOf listed (now - begun) r'.synced)
      (firstOf stopped (now - begun) stops)) :
    CallAt begun (now' - begun) (firstOf listed (now - begun) r'.synced)
      (firstOf stopped (now - begun) stops) r' := by
  have hundisputed := h.of_firstOf
  cases hstep with
  | rest hsame =>
      rw [firstOf_false]
      refine keeps ?_ hsame.startup hsame.syncWaits
      unfold firstOf
      split
      · rename_i hnever
        subst hnever
        split
        · rename_i hnow
          have hoff := h.offBeat_listed
          rw [firstOf, if_pos rfl, if_pos hnow] at hoff
          exact hcall.list hoff
        · exact hcall
      · exact hcall
  | look =>
      have hsame : (r.checkStartup (now + 1)).synced = r.synced :=
        (r.keeps_checkStartup (now + 1)).synced
      have helapsed : now + 1 - begun = now - begun + 1 := Nat.succ_sub hbegun
      rw [hsame, hlisted.firstOf_eq_self, firstOf_false, helapsed]
      exact hcall.check helapsed hundisputed.inTime hlisted hstopped
  | shutdown =>
      have hsame : (r.shutdown now).1.synced = r.synced := (r.keeps_shutdown now).synced
      rw [hsame, hlisted.firstOf_eq_self]
      cases hstate : r.isStopped with
      | true =>
          rw [hstate] at hstopped
          rw [hstopped.firstOf_eq_self_of_done, Resolver.shutdown_of_isStopped hstate]
          exact hcall.keeps rfl rfl
      | false =>
          rw [hstate] at hstopped
          obtain rfl : stopped = ⊤ := hstopped
          exact hcall.shutdown hstate h.offBeat_stopped

end CallAt

end NameOwners
