import NameOwners.Proofs.Index.Invariant
import NameOwners.Proofs.Run

/-!
Late deletions. A deletion may be delivered again, any number of times and however
late. It does nothing as long as the object has not claimed the name anew, whoever
owns the name by then (`late_deletions_are_stale`). What carries this through a run is
that the object does not own the name: only a claim of this very registration ends it.
-/

namespace NameOwners

namespace Notification

def deletion? (n : Notification) : Option Registration :=
  match n.event? with
  | some (.deleted r) => some r
  | _ => none

variable {n : Notification} {r : Registration}

theorem event?_of_deletion? (h : n.deletion? = some r) : n.event? = some (.deleted r) := by
  unfold deletion? at h
  split at h
  · rename_i s he
    rw [he, ← Option.some.inj h]
  · cases h

theorem deletion?_ofDeleted (hr : r.IsComplete) : (ofDeleted r).deletion? = some r := by
  have hevent : (ofDeleted r).event? = some (.deleted r) := by
    rw [ofDeleted, event?, eventOf, Registration.ofJson_toJson hr]
  rw [deletion?, hevent]

end Notification

namespace Index

/-- The object of a registration does not own its name, or the namespace is not
tracked. -/
def Disowned (f : NamespaceFilter) (r : Registration) (i : Index) : Prop :=
  f.inScope r.ns = true → i.owner? r.partition r.name r.ns ≠ some r.object

/-- What a deletion is answered that has nothing to delete. -/
def lateOutcome (f : NamespaceFilter) (r : Registration) : Outcome :=
  if f.inScope r.ns then .stale else .filtered

namespace Disowned

variable {f : NamespaceFilter} {r : Registration} {i : Index}

theorem of_deletion (i : Index) : ((i.apply f (.deleted r)).1).Disowned f r := by
  intro hs howner
  rw [Index.apply, if_pos hs] at howner
  exact (owner?_of_owner?_remove howner).2 ⟨rfl, rfl⟩

theorem add (h : i.Disowned f r) {s : Registration} (hne : s ≠ r) :
    (i.add s).1.Disowned f r := by
  intro hs howner
  rcases owner?_of_owner?_add howner with hold | ⟨-, hclaimed⟩
  · exact h hs hold
  · exact hne hclaimed

theorem remove (h : i.Disowned f r) (s : Registration) : (i.remove s).1.Disowned f r :=
  fun hs howner => h hs (owner?_of_owner?_remove howner).1

/-- Only a claim of the registration itself can end that its object does not own the
name. -/
theorem handle (h : i.Disowned f r) {n : Notification} (hn : n.claim? ≠ some r) :
    (i.handle f n).1.Disowned f r := by
  refine handle_keeps (fun _ s hi => hi.remove s) (fun _ s hclaim _ hi => hi.add ?_) h
  rintro rfl
  exact hn hclaim

/-- Whatever else the name has become, its deletion finds nothing to delete. -/
theorem handle_deletion (h : i.Disowned f r) {n : Notification} (hn : n.deletion? = some r) :
    i.handle f n = (i, some (lateOutcome f r)) := by
  rw [Index.handle, Notification.event?_of_deletion? hn]
  by_cases hs : f.inScope r.ns = true
  · simp [Index.apply, lateOutcome, hs, remove_of_owner?_ne (h hs)]
  · simp [Index.apply, lateOutcome, hs]

end Disowned

end Index

/-! ### Runs with redeliveries -/

/-- A notification of a run, or a copy of one that is delivered again. -/
inductive Entry where
  | original (n : Notification)
  | copy (n : Notification)

namespace Entry

def notification : Entry → Notification
  | original n => n
  | copy n => n

def original? : Entry → Option Notification
  | original n => some n
  | copy _ => none

def label (entries : List Entry) (outcomes : List (Notification × Option Outcome)) :
    List (Entry × Option Outcome) :=
  entries.zip (outcomes.map Prod.snd)

/-- What came of those entries that are no copies. -/
def originals (labelled : List (Entry × Option Outcome)) :
    List (Notification × Option Outcome) :=
  labelled.filterMap fun a => a.1.original?.map (·, a.2)

end Entry

/-- Without the copies, the run from an index on ends with the same index and has the
same outcomes. The copies all have one outcome. -/
structure HarmlessFrom (f : NamespaceFilter) (late : Outcome) (i : Index)
    (entries : List Entry) : Prop where
  index : i.handleAll f (entries.map Entry.notification) =
    i.handleAll f (entries.filterMap Entry.original?)
  outcomes : Entry.originals (Entry.label entries (i.outcomes f (entries.map Entry.notification))) =
    i.outcomes f (entries.filterMap Entry.original?)
  copies : ∀ n outcome, (.copy n, outcome) ∈
    Entry.label entries (i.outcomes f (entries.map Entry.notification)) → outcome = some late

namespace HarmlessFrom

variable {f : NamespaceFilter} {late : Outcome} {i : Index} {entries : List Entry}
  {n : Notification} {r : Registration}

theorem nil (i : Index) : HarmlessFrom f late i [] := by
  refine ⟨rfl, rfl, fun n outcome h => ?_⟩
  cases h

theorem original (h : HarmlessFrom f late (i.handle f n).1 entries) :
    HarmlessFrom f late i (.original n :: entries) := by
  refine ⟨h.index, congrArg _ h.outcomes, fun m outcome hmem => ?_⟩
  rcases List.mem_cons.1 hmem with heq | htail
  · cases heq
  · exact h.copies m outcome htail

theorem originals {run : List Notification}
    (h : HarmlessFrom f late (i.handleAll f run) entries) :
    HarmlessFrom f late i (run.map .original ++ entries) := by
  induction run generalizing i with
  | nil => exact h
  | cons n run ih => exact (ih h).original

theorem copy (hn : i.handle f n = (i, some late)) (h : HarmlessFrom f late i entries) :
    HarmlessFrom f late i (.copy n :: entries) := by
  have hrun : i.outcomes f ((Entry.copy n :: entries).map Entry.notification) =
      (n, some late) :: i.outcomes f (entries.map Entry.notification) := by
    rw [List.map_cons, Entry.notification, Index.outcomes, hn]
  refine ⟨?_, ?_, fun m outcome hmem => ?_⟩
  · rw [List.map_cons, Entry.notification, Index.handleAll_cons, hn]
    exact h.index
  · rw [hrun]
    exact h.outcomes
  · rw [hrun] at hmem
    rcases List.mem_cons.1 hmem with heq | htail
    · exact congrArg Prod.snd heq
    · exact h.copies m outcome htail

/-- Copies of a deletion may stand anywhere among notifications that do not claim what
it deletes. -/
theorem of_disowned (hi : i.Disowned f r)
    (hcopies : ∀ n, .copy n ∈ entries → n.deletion? = some r)
    (hclaims : ∀ n, .original n ∈ entries → n.claim? ≠ some r) :
    HarmlessFrom f (Index.lateOutcome f r) i entries := by
  induction entries generalizing i with
  | nil => exact .nil i
  | cons e entries ih =>
      have hcopies' := fun m hm => hcopies m (List.mem_cons_of_mem e hm)
      have hclaims' := fun m hm => hclaims m (List.mem_cons_of_mem e hm)
      cases e with
      | original n =>
          have hn := hclaims n (List.mem_cons_self ..)
          exact (ih (hi.handle hn) hcopies' hclaims').original
      | copy n =>
          -- The copy leaves the index as it is, so the rest goes on from the same one.
          have hn := hcopies n (List.mem_cons_self ..)
          exact (ih hi hcopies' hclaims').copy (hi.handle_deletion hn)

end HarmlessFrom

/-- A run goes on after the deletion of a registration and does not claim it again.
Then copies of the deletion may be delivered at any later points of the run, any number
of them: the run ends with the index that it ends with without them, its own
notifications have the same outcomes, and the copies are all stale, or filtered if the
namespace is not tracked. -/
theorem late_deletions_are_stale (f : NamespaceFilter) (o : Observer) {r : Registration}
    {d : Notification} (hd : d.deletion? = some r) (run : List Notification)
    {entries : List Entry} (hcopies : ∀ n, .copy n ∈ entries → n.deletion? = some r)
    (hclaims : ∀ n, .original n ∈ entries → n.claim? ≠ some r) :
    let s := Synchronizer.fresh f o
    let short := run ++ d :: entries.filterMap Entry.original?
    let long := run ++ d :: entries.map Entry.notification
    let labelled := Entry.label ((run ++ [d]).map .original ++ entries) (s.outcomes long)
    (s.handleAll long).index = (s.handleAll short).index ∧
    Entry.originals labelled = s.outcomes short ∧
    ∀ n outcome, (.copy n, outcome) ∈ labelled →
      outcome = some (if f.inScope r.ns then .stale else .filtered) := by
  have hdeleted : (({} : Index).handleAll f (run ++ [d])).Disowned f r := by
    rw [Index.handleAll_append, Index.handleAll_cons, Index.handleAll_nil, Index.handle,
      Notification.event?_of_deletion? hd]
    exact .of_deletion _
  have hharmless := (HarmlessFrom.of_disowned hdeleted hcopies hclaims).originals
  have hlong : ((run ++ [d]).map Entry.original ++ entries).map Entry.notification =
      run ++ d :: entries.map Entry.notification := by
    simp [Function.comp_def, Entry.notification]
  have hshort : ((run ++ [d]).map Entry.original ++ entries).filterMap Entry.original? =
      run ++ d :: entries.filterMap Entry.original? := by
    simp [Function.comp_def, Entry.original?]
  obtain ⟨hindex, houtcomes, hlate⟩ := hharmless
  rw [hlong] at hindex houtcomes hlate
  rw [hshort] at hindex houtcomes
  simp only [Synchronizer.index_handleAll_fresh, Synchronizer.outcomes_fresh]
  exact ⟨hindex, houtcomes, hlate⟩

/-- An object leaves a name to another one and takes a second name, while its deletion
is delivered three more times. Both owners stay. -/
theorem late_deletions_are_stale_after_takeover :
    let r : Registration := ⟨"ns", "first", "www"⟩
    let d := Notification.ofDeleted r
    let takeover := Notification.ofAdded ⟨"ns", "second", "www"⟩
    let renamed := Notification.ofAdded ⟨"ns", "first", "api"⟩
    let s := Synchronizer.fresh .all .silent
    let long := [.ofAdded r, d, d, takeover, d, renamed, d]
    (s.handleAll long).index = (s.handleAll [.ofAdded r, d, takeover, renamed]).index ∧
    (s.handleAll long).index.owner? .regular "www" "ns" = some "second" ∧
    (s.handleAll long).index.owner? .regular "api" "ns" = some "first" ∧
    (s.outcomes long).map Prod.snd =
      [some .applied, some .applied, some .stale, some .applied, some .stale, some .applied,
        some .stale] := by
  intro r d takeover renamed s long
  have hd : d.deletion? = some r :=
    Notification.deletion?_ofDeleted ⟨by decide, by decide, by decide⟩
  have hcopies : ∀ n, Entry.copy n ∈ [Entry.copy d, .original takeover, .copy d,
      .original renamed, .copy d] → n.deletion? = some r := by
    rintro n hn
    obtain rfl : n = d := by simpa using hn
    exact hd
  have hclaims : ∀ n, Entry.original n ∈ [Entry.copy d, .original takeover, .copy d,
      .original renamed, .copy d] → n.claim? ≠ some r := by
    rintro n hn
    obtain rfl | rfl : n = takeover ∨ n = renamed := by simpa using hn
    · decide +kernel
    · decide +kernel
  obtain ⟨hindex, -, -⟩ :=
    late_deletions_are_stale .all .silent hd [.ofAdded r] hcopies hclaims
  exact ⟨hindex, by decide +kernel, by decide +kernel, by decide +kernel⟩

end NameOwners
