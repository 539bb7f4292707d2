import NameOwners.Synchronizer

/-!
Runs of a synchronizer. What a run does to the index and what comes of each
notification depend on the filter alone: neither the observer nor the counters
are ever read back. So a fact about a run is proved for `Index.handleAll` and
`Index.outcomes` and carried over by `Synchronizer.index_handleAll` and
`Synchronizer.outcomes_eq`.
-/

namespace NameOwners

/-- The notifications of a run, each with its outcome. -/
def Index.outcomes (f : NamespaceFilter) :
    Index → List Notification → List (Notification × Option Outcome)
  | _, [] => []
  | i, n :: run => (n, (i.handle f n).2) :: (i.handle f n).1.outcomes f run

namespace Synchronizer

def fresh (f : NamespaceFilter) (o : Observer) : Synchronizer := { filter := f, observer := o }

def handleAll (s : Synchronizer) (run : List Notification) : Synchronizer :=
  run.foldl (fun s n => (s.handle n).1) s

@[simp] theorem handleAll_nil (s : Synchronizer) : s.handleAll [] = s := rfl

@[simp] theorem handleAll_cons (s : Synchronizer) (n : Notification) (run : List Notification) :
    s.handleAll (n :: run) = (s.handle n).1.handleAll run := rfl

/-- A notification reaches the index and its outcome as it does without a
synchronizer. -/
theorem handle_eq (s : Synchronizer) (n : Notification) :
    (s.handle n).1.index = (s.index.handle s.filter n).1 ∧
      (s.handle n).2 = (s.index.handle s.filter n).2 ∧ (s.handle n).1.filter = s.filter := by
  unfold handle Index.handle
  cases n.event? with
  | none => exact ⟨rfl, rfl, rfl⟩
  | some e => exact ⟨rfl, rfl, rfl⟩

@[simp] theorem index_handle (s : Synchronizer) (n : Notification) :
    (s.handle n).1.index = (s.index.handle s.filter n).1 := (s.handle_eq n).1

@[simp] theorem outcome_handle (s : Synchronizer) (n : Notification) :
    (s.handle n).2 = (s.index.handle s.filter n).2 := (s.handle_eq n).2.1

@[simp] theorem filter_handle (s : Synchronizer) (n : Notification) :
    (s.handle n).1.filter = s.filter := (s.handle_eq n).2.2

@[simp] theorem observer_handle (s : Synchronizer) (n : Notification) :
    (s.handle n).1.observer = s.observer := by
  unfold handle
  cases n.event? with
  | none => rfl
  | some e => rfl

theorem shown_handle (s : Synchronizer) (n : Notification) :
    (s.handle n).1.shown = s.shown ++ (n.event?.bind s.observation?).toList := by
  unfold handle
  cases n.event? with
  | none => simp
  | some e => rfl

/-- What the observer is shown depends on the index and the filter alone. -/
theorem shown_handle_congr {s t : Synchronizer} (hindex : s.index = t.index)
    (hfilter : s.filter = t.filter) (hshown : s.shown = t.shown) (n : Notification) :
    (s.handle n).1.shown = (t.handle n).1.shown := by
  have hseen : s.observation? = t.observation? := by
    funext e
    rw [observation?, observation?, hindex, hfilter]
  rw [shown_handle, shown_handle, hseen, hshown]

@[simp] theorem filter_handleAll (s : Synchronizer) (run : List Notification) :
    (s.handleAll run).filter = s.filter := by
  induction run generalizing s with
  | nil => rfl
  | cons n run ih => rw [handleAll_cons, ih, filter_handle]

@[simp] theorem observer_handleAll (s : Synchronizer) (run : List Notification) :
    (s.handleAll run).observer = s.observer := by
  induction run generalizing s with
  | nil => rfl
  | cons n run ih => rw [handleAll_cons, ih, observer_handle]

theorem handleAll_append (s : Synchronizer) (run more : List Notification) :
    s.handleAll (run ++ more) = (s.handleAll run).handleAll more :=
  List.foldl_append

theorem index_handleAll (s : Synchronizer) (run : List Notification) :
    (s.handleAll run).index = s.index.handleAll s.filter run := by
  induction run generalizing s with
  | nil => rfl
  | cons n run ih =>
      rw [handleAll_cons, ih, index_handle, filter_handle, Index.handleAll_cons]

theorem index_handleAll_fresh (f : NamespaceFilter) (o : Observer) (run : List Notification) :
    ((fresh f o).handleAll run).index = ({} : Index).handleAll f run :=
  index_handleAll (fresh f o) run

def outcomes : Synchronizer → List Notification → List (Notification × Option Outcome)
  | _, [] => []
  | s, n :: run => (n, (s.handle n).2) :: (s.handle n).1.outcomes run

theorem outcomes_eq (s : Synchronizer) (run : List Notification) :
    s.outcomes run = s.index.outcomes s.filter run := by
  induction run generalizing s with
  | nil => rfl
  | cons n run ih =>
      rw [outcomes, Index.outcomes, ih, index_handle, outcome_handle, filter_handle]

theorem outcomes_fresh (f : NamespaceFilter) (o : Observer) (run : List Notification) :
    (fresh f o).outcomes run = ({} : Index).outcomes f run :=
  outcomes_eq (fresh f o) run

end Synchronizer

end NameOwners
