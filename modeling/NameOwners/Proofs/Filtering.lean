import NameOwners.Synchronizer

/-!
Filtering is leaving out. A synchronizer that tracks some namespaces does with a
sequence of events what one that tracks all of them does with those events that
are well-formed and mention tracked namespaces only. An update out of a tracked
namespace is left out as a whole: its old half releases nothing.
-/

namespace NameOwners

def Event.registrations : Event → List Registration
  | .added r => [r]
  | .updated old new => [old, new]
  | .deleted r => [r]
  | .malformed .. => []

def Event.isMalformed : Event → Bool
  | .malformed .. => true
  | _ => false

/-- What an event is answered that is left out is not shown to observers. -/
theorem Event.isReported_left (e : Event) :
    (if e.isMalformed then Outcome.malformed else .filtered).isReported = false := by
  split <;> rfl

/-- Whether a well-formed event mentions listed namespaces only. If none is listed
it may mention any. -/
def NamespaceFilter.admits (f : NamespaceFilter) (e : Event) : Bool :=
  !e.isMalformed && (f.allowed.isEmpty || e.registrations.all fun r => f.allowed.contains r.ns)

namespace NamespaceFilter

variable (f : NamespaceFilter)

@[simp] theorem admits_added (r : Registration) : f.admits (.added r) = f.inScope r.ns := by
  simp [admits, Event.isMalformed, Event.registrations, inScope]

@[simp] theorem admits_deleted (r : Registration) : f.admits (.deleted r) = f.inScope r.ns := by
  simp [admits, Event.isMalformed, Event.registrations, inScope]

@[simp] theorem admits_updated (old new : Registration) :
    f.admits (.updated old new) = (f.inScope old.ns && f.inScope new.ns) := by
  simp [admits, Event.isMalformed, Event.registrations, inScope, Bool.or_and_distrib_left]

@[simp] theorem admits_malformed (kind : EventKind) (cause : EventError) (object : Json) :
    f.admits (.malformed kind cause object) = false := rfl

end NamespaceFilter

namespace Index

variable {f : NamespaceFilter} (i : Index) {e : Event}

theorem apply_of_admits (h : f.admits e = true) : i.apply f e = i.apply .all e := by
  cases e with
  | malformed kind cause object => rfl
  | added r =>
      rw [NamespaceFilter.admits_added] at h
      simp [apply, h]
  | deleted r =>
      rw [NamespaceFilter.admits_deleted] at h
      simp [apply, h]
  | updated old new =>
      rw [NamespaceFilter.admits_updated, Bool.and_eq_true] at h
      simp [apply, h]

theorem apply_of_not_admits (h : f.admits e = false) :
    i.apply f e = (i, if e.isMalformed then .malformed else .filtered) := by
  cases e with
  | malformed kind cause object => rfl
  | added r =>
      rw [NamespaceFilter.admits_added] at h
      simp [apply, h, Event.isMalformed]
  | deleted r =>
      rw [NamespaceFilter.admits_deleted] at h
      simp [apply, h, Event.isMalformed]
  | updated old new =>
      -- One half out of scope is enough, and then the other half is not looked at.
      have hscope : ¬(f.inScope old.ns = true ∧ f.inScope new.ns = true) := by
        rw [← Bool.and_eq_true, ← NamespaceFilter.admits_updated, h]
        exact Bool.false_ne_true
      rw [apply, if_neg hscope]
      rfl

end Index

namespace Synchronizer

def applyAll (s : Synchronizer) (events : List Event) : Synchronizer :=
  events.foldl (fun s e => (s.apply e).1) s

def reports : Synchronizer → List Event → List (Event × Outcome)
  | _, [] => []
  | s, e :: events => (e, (s.apply e).2) :: (s.apply e).1.reports events

@[simp] theorem applyAll_nil (s : Synchronizer) : s.applyAll [] = s := rfl

@[simp] theorem applyAll_cons (s : Synchronizer) (e : Event) (events : List Event) :
    s.applyAll (e :: events) = (s.apply e).1.applyAll events := rfl

@[simp] theorem filter_applyAll (s : Synchronizer) (events : List Event) :
    (s.applyAll events).filter = s.filter := by
  induction events generalizing s with
  | nil => rfl
  | cons e events ih => exact ih (s.apply e).1

/-- Of an event that is left out the observer is shown nothing. -/
theorem observation?_left {s : Synchronizer} {e : Event} (h : s.filter.admits e = false) :
    s.observation? e = none := by
  apply observation?_of_not_reported
  rw [Index.apply_of_not_admits _ h]
  exact e.isReported_left

/-- Synchronizers with the same index whose observers have seen the same. They may
have different filters and have counted different events. -/
structure Alike (s t : Synchronizer) : Prop where
  index : s.index = t.index
  observer : s.observer = t.observer
  shown : s.shown = t.shown
  observed : s.observed = t.observed

namespace Alike

variable {s t : Synchronizer} {e : Event}

theorem refl (s : Synchronizer) (f : NamespaceFilter) : Alike s { s with filter := f } :=
  ⟨rfl, rfl, rfl, rfl⟩

/-- An event that the filter admits is an event like any other. -/
theorem apply (h : Alike s t) (ht : t.filter = .all) (he : s.filter.admits e = true) :
    (s.apply e).2 = (t.apply e).2 ∧ Alike (s.apply e).1 (t.apply e).1 := by
  have hevent : s.index.apply s.filter e = t.index.apply t.filter e := by
    rw [Index.apply_of_admits _ he, h.index, ht]
  have hseen : s.observation? e = t.observation? e := by
    rw [observation?, observation?, hevent]
  have hbreaks : s.breaksOn e = t.breaksOn e := by
    rw [breaksOn, breaksOn, hseen, h.observer, h.shown]
  simp only [Synchronizer.apply, hevent, hseen, hbreaks, h.observer, h.shown, h.observed, true_and]
  exact ⟨rfl, rfl, rfl, rfl⟩

/-- An event that is left out is answered and counted, and that is all. -/
theorem apply_left (h : Alike s t) (he : s.filter.admits e = false) :
    (s.apply e).2 = (if e.isMalformed then .malformed else .filtered) ∧
      Alike (s.apply e).1 t := by
  have hevent := Index.apply_of_not_admits s.index he
  have hseen := observation?_left he
  simp only [Synchronizer.apply, hevent, hseen, Option.toList_none, List.append_nil, ite_self,
    true_and]
  exact ⟨h.index, h.observer, h.shown, h.observed⟩

/-- The one synchronizer handles all events and the other those that are admitted. -/
theorem applyAll (h : Alike s t) (ht : t.filter = .all) (events : List Event) :
    Alike (s.applyAll events) (t.applyAll (events.filter s.filter.admits)) ∧
      (s.reports events).filter (fun a => s.filter.admits a.1) =
        t.reports (events.filter s.filter.admits) := by
  induction events generalizing s t with
  | nil => exact ⟨h, rfl⟩
  | cons e events ih =>
      cases he : s.filter.admits e with
      | true =>
          obtain ⟨houtcome, hstep⟩ := h.apply ht he
          obtain ⟨hafter, hreports⟩ := ih hstep ht
          rw [List.filter_cons_of_pos he, applyAll_cons, applyAll_cons, Synchronizer.reports,
            Synchronizer.reports, List.filter_cons_of_pos (by simp [he]), houtcome]
          exact ⟨hafter, congrArg _ hreports⟩
      | false =>
          -- Only the synchronizer with the filter goes on, and stays like the other.
          obtain ⟨-, hstep⟩ := h.apply_left he
          obtain ⟨hafter, hreports⟩ := ih hstep ht
          rw [List.filter_cons_of_neg (by simp [he]), applyAll_cons, Synchronizer.reports,
            List.filter_cons_of_neg (by simp [he])]
          exact ⟨hafter, hreports⟩

end Alike

/-- From any state on, a synchronizer with a filter ends with the index of one that
tracks all namespaces and is given only the events that the filter admits. These
have the same outcomes in both, and the observers are shown the same in the same
order and take the same notes. An event that is left out is answered as malformed or
filtered wherever it stands in the sequence; the index stays as it is, and the observer
is not called: it is shown nothing, takes no note, and does not break down. -/
theorem filtering_is_leaving_out (s : Synchronizer) (events : List Event) :
    let unfiltered : Synchronizer := { s with filter := .all }
    let admitted := events.filter s.filter.admits
    (s.applyAll events).index = (unfiltered.applyAll admitted).index ∧
    (s.reports events).filter (fun a => s.filter.admits a.1) = unfiltered.reports admitted ∧
    (s.applyAll events).shown = (unfiltered.applyAll admitted).shown ∧
    (s.applyAll events).observed = (unfiltered.applyAll admitted).observed ∧
    ∀ before e after, events = before ++ e :: after → s.filter.admits e = false →
      ((s.applyAll before).apply e).2 = (if e.isMalformed then .malformed else .filtered) ∧
      ((s.applyAll before).apply e).1.index = (s.applyAll before).index ∧
      ((s.applyAll before).apply e).1.shown = (s.applyAll before).shown ∧
      ((s.applyAll before).apply e).1.observed = (s.applyAll before).observed ∧
      (s.applyAll before).breaksOn e = false := by
  intro unfiltered admitted
  obtain ⟨hafter, hreports⟩ := (Alike.refl s .all).applyAll rfl events
  refine ⟨hafter.index, hreports, hafter.shown, hafter.observed, fun before e after _ he => ?_⟩
  rw [← filter_applyAll s before] at he
  obtain ⟨houtcome, hstays⟩ := (Alike.refl (s.applyAll before) .all).apply_left he
  have hcalm : (s.applyAll before).breaksOn e = false := by
    rw [breaksOn, observation?_left he, Option.any_none]
  exact ⟨houtcome, hstays.index, hstays.shown, hstays.observed, hcalm⟩

/-- An object moves from the only tracked namespace to another and is deleted there.
Both events are left out, so the name stays with the object where it was, and the
same comes of the addition alone without a filter. -/
theorem filtering_is_leaving_out_of_moving_object :
    let s : Synchronizer := { filter := ⟨["a"]⟩ }
    let r : Registration := ⟨"a", "web", "www"⟩
    let moved : Registration := ⟨"b", "web", "www"⟩
    let events : List Event := [.added r, .updated r moved, .deleted moved]
    (s.applyAll events).index = (({} : Synchronizer).applyAll [.added r]).index ∧
    (s.applyAll events).observed = (({} : Synchronizer).applyAll [.added r]).observed ∧
    (s.applyAll events).index.owner? .regular "www" "a" = some "web" ∧
    ((s.applyAll [.added r]).apply (.updated r moved)).2 = .filtered := by
  intro s r moved events
  have hadmitted : events.filter s.filter.admits = [.added r] := by
    simp [events, s, r, moved, NamespaceFilter.inScope]
  have hmoved : s.filter.admits (.updated r moved) = false := by
    simp [s, r, moved, NamespaceFilter.inScope]
  obtain ⟨hindex, -, -, hobserved, hleft⟩ := filtering_is_leaving_out s events
  obtain ⟨houtcome, -, -, -, -⟩ := hleft [.added r] (.updated r moved) [.deleted moved] rfl hmoved
  rw [hadmitted] at hindex hobserved
  exact ⟨hindex, hobserved, by rw [hindex]; decide +kernel, houtcome⟩

end Synchronizer

end NameOwners
