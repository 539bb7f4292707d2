import NameOwners.Proofs.Index.Update
import NameOwners.Proofs.Run

/-!
The index as a family of independent cells. Every name has one cell for each
namespace, which is empty or holds the owner, and what an event asks of a cell
can be read off the event alone: nothing, unless the event is in scope and
mentions the name and the namespace. After any run the nested maps of both
partitions hold exactly what the cells hold (`owner?_handleAll_eq_cell`), so
ownerships do not influence each other.
-/

namespace NameOwners

/-! ### Cells -/

inductive Request where
  | claim (object : String)
  | release (object : String)
deriving DecidableEq, Repr

/-- A cell after a request. A claim fills an empty cell and leaves an occupied
one alone, and only a release by the owner empties a cell. -/
def Request.step : Option String → Request → Option String
  | none, .claim object => some object
  | some owner, .claim _ => some owner
  | cell, .release object => if cell = some object then none else cell

def Registration.request (r : Registration) (ask : String → Request) (name ns : String) :
    List Request :=
  if r.name = name ∧ r.ns = ns then [ask r.object] else []

/-- What an event asks of the cell of a name and a namespace, in order. The old
half of an update comes before the new one. -/
def Event.requests (f : NamespaceFilter) (name ns : String) : Event → List Request
  | .added r => if f.inScope r.ns then r.request .claim name ns else []
  | .deleted r => if f.inScope r.ns then r.request .release name ns else []
  | .updated old new =>
    if f.inScope old.ns ∧ f.inScope new.ns ∧ old ≠ new then
      old.request .release name ns ++ new.request .claim name ns
    else []
  | .malformed .. => []

def Notification.requests (f : NamespaceFilter) (name ns : String) (n : Notification) :
    List Request :=
  match n.event? with
  | some e => e.requests f name ns
  | none => []

def cellAfter (f : NamespaceFilter) (name ns : String) (run : List Notification) : Option String :=
  (run.flatMap (Notification.requests f name ns)).foldl Request.step none

/-! ### The index answers requests as the cells do -/

namespace Index

theorem owner?_empty (p : Partition) (name ns : String) : ({} : Index).owner? p name ns = none := by
  cases p <;> rfl

variable (f : NamespaceFilter) (i : Index) (name ns : String)

theorem owner?_add (r : Registration) :
    (i.add r).1.owner? (.of name) name ns =
      (r.request .claim name ns).foldl Request.step (i.owner? (.of name) name ns) := by
  rw [owner?_add_eq_ite, Registration.partition]
  by_cases hm : r.name = name ∧ r.ns = ns
  · obtain ⟨rfl, rfl⟩ := hm
    cases hc : i.owner? (.of r.name) r.name r.ns <;> simp [Registration.request, Request.step]
  · have hm' : ¬(Partition.of name = .of r.name ∧ name = r.name ∧ ns = r.ns) := by
      rintro ⟨-, rfl, rfl⟩
      exact hm ⟨rfl, rfl⟩
    simp [Registration.request, hm, hm']

theorem owner?_remove (r : Registration) :
    (i.remove r).1.owner? (.of name) name ns =
      (r.request .release name ns).foldl Request.step (i.owner? (.of name) name ns) := by
  rw [owner?_remove_eq_ite, Registration.partition]
  by_cases hm : r.name = name ∧ r.ns = ns
  · obtain ⟨rfl, rfl⟩ := hm
    cases hc : i.owner? (.of r.name) r.name r.ns <;> simp [Registration.request, Request.step]
  · have hm' : ¬(Partition.of name = .of r.name ∧ name = r.name ∧ ns = r.ns ∧
        i.owner? (.of r.name) r.name r.ns = some r.object) := by
      rintro ⟨-, rfl, rfl, -⟩
      exact hm ⟨rfl, rfl⟩
    simp [Registration.request, hm, hm']

theorem owner?_replace (old new : Registration) (hne : old ≠ new) :
    (i.replace old new).1.owner? (.of name) name ns =
      (old.request .release name ns ++ new.request .claim name ns).foldl Request.step
        (i.owner? (.of name) name ns) := by
  rw [congrArg Prod.fst (replace_of_ne i hne), owner?_add, owner?_remove, List.foldl_append]

/-- One event: the requests it makes of a cell are all that it does to it. -/
theorem owner?_apply (e : Event) :
    (i.apply f e).1.owner? (.of name) name ns =
      (e.requests f name ns).foldl Request.step (i.owner? (.of name) name ns) := by
  cases e with
  | malformed kind cause object => rfl
  | added r =>
      by_cases hs : f.inScope r.ns = true
      · simp only [apply, Event.requests, hs, if_true]
        exact owner?_add i name ns r
      · simp [apply, Event.requests, hs]
  | deleted r =>
      by_cases hs : f.inScope r.ns = true
      · simp only [apply, Event.requests, hs, if_true]
        exact owner?_remove i name ns r
      · simp [apply, Event.requests, hs]
  | updated old new =>
      by_cases hs : f.inScope old.ns = true ∧ f.inScope new.ns = true
      · by_cases hne : old = new
        · -- An update that changes nothing does not touch the index either.
          subst hne
          simp [apply, Event.requests, replace, hs.1]
        · simp only [apply, Event.requests, hs, hne, if_true, and_self, not_false_eq_true, ne_eq]
          exact owner?_replace i name ns old new hne
      · have hs' : ¬(f.inScope old.ns = true ∧ f.inScope new.ns = true ∧ old ≠ new) :=
          fun h => hs ⟨h.1, h.2.1⟩
        rw [apply, if_neg hs, Event.requests, if_neg hs']
        rfl

theorem owner?_handle (n : Notification) :
    (i.handle f n).1.owner? (.of name) name ns =
      (n.requests f name ns).foldl Request.step (i.owner? (.of name) name ns) := by
  unfold handle Notification.requests
  cases n.event? with
  | none => rfl
  | some e => exact owner?_apply f i name ns e

/-- A run, from any index: each ownership goes its own way. -/
theorem owner?_handleAll (run : List Notification) :
    (i.handleAll f run).owner? (.of name) name ns =
      (run.flatMap (Notification.requests f name ns)).foldl Request.step
        (i.owner? (.of name) name ns) := by
  -- The rest of a run begins where its first notification left off.
  induction run generalizing i with
  | nil => rfl
  | cons n run ih =>
      rw [handleAll_cons, ih, owner?_handle, List.flatMap_cons, List.foldl_append]

theorem isReported_add (r : Registration) : (i.add r).2.isReported = true := by
  change (i.claim r.partition r.name r.ns r.object).2.outcome.isReported = true
  cases (i.claim r.partition r.name r.ns r.object).2 <;> rfl

theorem isReported_remove (r : Registration) : (i.remove r).2.isReported = true := by
  change (i.release r.partition r.name r.ns r.object).2.outcome.isReported = true
  cases (i.release r.partition r.name r.ns r.object).2 <;> rfl

theorem isReported_replace (old new : Registration) :
    (i.replace old new).2.isReported = true := by
  by_cases heq : old = new
  · rw [heq, replace_self]
    rfl
  · rw [replace_of_ne i heq]
    dsimp only
    split
    · rfl
    · exact isReported_add _ new

/-- An event that the index does not look at asks nothing. -/
theorem requests_eq_nil_of_not_reported (e : Event) (h : (i.apply f e).2.isReported = false) :
    e.requests f name ns = [] := by
  cases e with
  | malformed kind cause object => rfl
  | added r =>
      by_cases hs : f.inScope r.ns = true
      · simp [apply, hs, isReported_add] at h
      · simp [Event.requests, hs]
  | deleted r =>
      by_cases hs : f.inScope r.ns = true
      · simp [apply, hs, isReported_remove] at h
      · simp [Event.requests, hs]
  | updated old new =>
      by_cases hs : f.inScope old.ns = true ∧ f.inScope new.ns = true
      · simp [apply, hs, isReported_replace] at h
      · rw [Event.requests, if_neg fun h' => hs ⟨h'.1, h'.2.1⟩]

end Index

/-- After a run of a synchronizer that began with an empty index, a name's
partition holds for each namespace what the cell holds. Only events that mention
a cell step it: the marker of a listing's end, malformed and filtered events and
updates that change nothing ask nothing of any cell. -/
theorem owner?_handleAll_eq_cell (f : NamespaceFilter) (o : Observer) (run : List Notification)
    (name ns : String) :
    ((({ filter := f, observer := o } : Synchronizer).handleAll run).index.owner?
        (.of name) name ns = cellAfter f name ns run) ∧
      ∀ (s : Synchronizer) (n : Notification), s.filter = f →
        (s.handle n).2 = none ∨ (s.handle n).2 = some .malformed ∨
          (s.handle n).2 = some .filtered ∨ (∃ r, n.event? = some (.updated r r)) →
        n.requests f name ns = [] := by
  constructor
  · rw [Synchronizer.index_handleAll, Index.owner?_handleAll, Index.owner?_empty]
    rfl
  · rintro s n rfl h
    simp only [Synchronizer.outcome_handle, Index.handle] at h
    unfold Notification.requests
    cases he : n.event? with
    | none => rfl
    | some e =>
        simp only [he, reduceCtorEq, Option.some.injEq, false_or] at h
        rcases h with h | h | ⟨r, rfl⟩
        · exact Index.requests_eq_nil_of_not_reported _ _ name ns e (by rw [h]; rfl)
        · exact Index.requests_eq_nil_of_not_reported _ _ name ns e (by rw [h]; rfl)
        · simp [Event.requests]

example :
    let run : List Notification := [
      .ofAdded ⟨"ns", "first", "www"⟩, .ofAdded ⟨"ns", "second", "www"⟩,
      .ofDeleted ⟨"ns", "first", "www"⟩, .ofAdded ⟨"ns", "second", "www"⟩,
      .ofDeleted ⟨"ns", "first", "www"⟩]
    cellAfter .all "www" "ns" run = some "second" := by
  decide

end NameOwners
