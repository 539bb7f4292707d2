import NameOwners.Proofs.Validation

/-!
The objects that a run of notifications tells of, tracked without any index. An
object of a namespace exists or not, and while it exists it registers one DNS
name. A run is consistent if every notification fits to what is tracked: objects
are not created twice, and updates and deletions know what they change. Such a
run may be followed by a listing of all that exists, which changes nothing
(`handleAll_eq_of_current`).
-/

namespace NameOwners

/-- The objects that exist, each with the DNS name that it registers. -/
structure Objects where
  name? : (ns object : String) → Option String

namespace Objects

def empty : Objects := ⟨fun _ _ => none⟩

/-- A registration is the current one of an object that exists. -/
def Registers (w : Objects) (r : Registration) : Prop :=
  w.name? r.ns r.object = some r.name

/-- The object of a registration does not exist, or it registers the same name. -/
def Allows (w : Objects) (r : Registration) : Prop :=
  w.name? r.ns r.object = none ∨ w.Registers r

instance (w : Objects) (r : Registration) : Decidable (w.Registers r) :=
  inferInstanceAs (Decidable (_ = _))

instance (w : Objects) (r : Registration) : Decidable (w.Allows r) :=
  inferInstanceAs (Decidable (_ ∨ _))

def set (w : Objects) (r : Registration) (name : Option String) : Objects :=
  ⟨fun ns object => if ns = r.ns ∧ object = r.object then name else w.name? ns object⟩

def put (w : Objects) (r : Registration) : Objects := w.set r (some r.name)

def delete (w : Objects) (r : Registration) : Objects := w.set r none

variable {w : Objects} {r s : Registration}

theorem name?_set (w : Objects) (r : Registration) (name : Option String) (ns object : String) :
    (w.set r name).name? ns object =
      if ns = r.ns ∧ object = r.object then name else w.name? ns object := rfl

theorem ext_name? {w w' : Objects} (h : ∀ ns object, w.name? ns object = w'.name? ns object) :
    w = w' := by
  obtain ⟨name?⟩ := w
  obtain ⟨name?'⟩ := w'
  obtain rfl : name? = name?' := funext fun ns => funext fun object => h ns object
  rfl

theorem registers_put (w : Objects) (r : Registration) : (w.put r).Registers r := by
  rw [Registers, put, name?_set, if_pos ⟨rfl, rfl⟩]

theorem registers_set_iff (name : Option String) (h : ¬(s.ns = r.ns ∧ s.object = r.object)) :
    (w.set r name).Registers s ↔ w.Registers s := by
  rw [Registers, name?_set, if_neg h, Registers]

theorem Registers.put (h : w.Registers s) (hr : w.Allows r) : (w.put r).Registers s := by
  by_cases hobject : s.ns = r.ns ∧ s.object = r.object
  · -- The object itself can only have repeated its name.
    rw [Registers, hobject.1, hobject.2] at h
    rcases hr with hr | hr
    · rw [hr] at h
      cases h
    · rw [hr] at h
      rw [Registers, Objects.put, name?_set, if_pos hobject]
      exact h
  · exact (registers_set_iff _ hobject).2 h

theorem put_eq (h : w.Registers r) : w.put r = w := by
  refine ext_name? fun ns object => ?_
  rw [put, name?_set]
  split
  · rename_i hobject
    rw [hobject.1, hobject.2, h]
  · rfl

theorem put_delete (hns : s.ns = r.ns) (hobject : s.object = r.object) :
    (w.delete r).put s = w.put s := by
  refine ext_name? fun ns object => ?_
  rw [put, delete, put, name?_set, name?_set, name?_set, hns, hobject]
  split
  · rfl
  · rfl

theorem allows_delete (w : Objects) (hns : s.ns = r.ns) (hobject : s.object = r.object) :
    (w.delete r).Allows s := by
  left
  rw [delete, name?_set, if_pos ⟨hns, hobject⟩]

/-! ### Consistent runs -/

/-- Whether an event fits to what exists. Nothing is asked of malformed events
and of deletions of what does not exist. -/
def Admits (w : Objects) : Event → Prop
  | .added r => w.Allows r
  | .updated old _ => w.Registers old
  | .deleted r => w.Allows r
  | .malformed .. => True

def after (w : Objects) : Event → Objects
  | .added r => w.put r
  | .updated _ new => w.put new
  | .deleted r => w.delete r
  | .malformed .. => w

/-- Whether a notification fits to what exists; the end of a listing does. -/
def AdmitsNotification (w : Objects) (n : Notification) : Prop :=
  match n.event? with
  | some e => w.Admits e
  | none => True

def handle (w : Objects) (n : Notification) : Objects :=
  match n.event? with
  | some e => w.after e
  | none => w

def handleAll (w : Objects) (run : List Notification) : Objects :=
  run.foldl handle w

/-- Every notification of a run fits to what exists when it comes. -/
def Consistent : Objects → List Notification → Prop
  | _, [] => True
  | w, n :: run => w.AdmitsNotification n ∧ (w.handle n).Consistent run

instance (w : Objects) : (e : Event) → Decidable (w.Admits e)
  | .added r => inferInstanceAs (Decidable (w.Allows r))
  | .updated old _ => inferInstanceAs (Decidable (w.Registers old))
  | .deleted r => inferInstanceAs (Decidable (w.Allows r))
  | .malformed .. => inferInstanceAs (Decidable True)

instance (w : Objects) (n : Notification) : Decidable (w.AdmitsNotification n) :=
  match h : n.event? with
  | some e => decidable_of_iff (w.Admits e) (by rw [AdmitsNotification, h])
  | none => isTrue (by rw [AdmitsNotification, h]; trivial)

instance decidableConsistent : (w : Objects) → (run : List Notification) →
    Decidable (w.Consistent run)
  | _, [] => isTrue trivial
  | w, n :: run =>
    have := decidableConsistent (w.handle n) run
    inferInstanceAs (Decidable (_ ∧ _))

theorem handleAll_append (w : Objects) (run more : List Notification) :
    w.handleAll (run ++ more) = (w.handleAll run).handleAll more :=
  List.foldl_append

theorem consistent_append_iff {run more : List Notification} :
    w.Consistent (run ++ more) ↔ w.Consistent run ∧ (w.handleAll run).Consistent more := by
  induction run generalizing w with
  | nil => exact ⟨fun h => ⟨trivial, h⟩, fun h => h.2⟩
  | cons n run ih =>
      rw [List.cons_append, Consistent, ih, Consistent, and_assoc]
      rfl

/-! ### Listings -/

/-- Additions of the current registrations of all that exists and of nothing
else, in any order and any number of times. -/
structure IsListing (w : Objects) (listing : List Notification) : Prop where
  current : ∀ n ∈ listing, ∃ r, n.event? = some (.added r) ∧ w.Registers r
  complete : ∀ r, w.Registers r → ∃ n ∈ listing, n.event? = some (.added r)

/-- Additions of what is registered already leave everything as it is. -/
theorem handleAll_eq_of_current {run : List Notification}
    (h : ∀ n ∈ run, ∃ r, n.event? = some (.added r) ∧ w.Registers r) :
    w.Consistent run ∧ w.handleAll run = w := by
  induction run with
  | nil => exact ⟨trivial, rfl⟩
  | cons n run ih =>
      obtain ⟨r, he, hr⟩ := h n (List.mem_cons_self ..)
      obtain ⟨hconsistent, hafter⟩ := ih fun m hm => h m (List.mem_cons_of_mem n hm)
      have hstays : w.handle n = w := by
        rw [handle, he]
        exact put_eq hr
      have hadmits : w.AdmitsNotification n := by
        rw [AdmitsNotification, he]
        exact .inr hr
      constructor
      · rw [Consistent, hstays]
        exact ⟨hadmits, hconsistent⟩
      · rw [handleAll, List.foldl_cons, hstays]
        exact hafter

end Objects

end NameOwners
