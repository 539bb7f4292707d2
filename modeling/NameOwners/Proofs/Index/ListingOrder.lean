import Mathlib.Data.Set.Card
import NameOwners.Proofs.Index.Applied
import NameOwners.Proofs.Index.Cell
import NameOwners.Proofs.Index.Isolation

/-!
The order of a listing. Additions to an empty index fill cells, each one on behalf
of whoever asks first (`ownerIn?_handleAll_listing`), and an addition is applied
exactly when it fills a cell (`fills_of_handle_added`). So the order decides who
wins where objects compete for a cell, and nothing else: which cells are filled and
how many additions are applied is the same in every order.
-/

namespace NameOwners

/-- Where an owner is stored: under a name of a partition, for a namespace. -/
structure Cell where
  partition : Partition
  name : String
  ns : String
deriving DecidableEq, Repr

def Registration.cell (r : Registration) : Cell := ⟨r.partition, r.name, r.ns⟩

def listing (objects : List Json) : List Notification := objects.map .added

/-- The object on whose behalf a cell is asked for, if this is what a listed object
does and its namespace is in scope. -/
def Cell.claimant? (f : NamespaceFilter) (c : Cell) (v : Json) : Option String :=
  match Registration.ofJson v with
  | .ok r => if f.inScope r.ns ∧ r.cell = c then some r.object else none
  | .error _ => none

theorem Cell.claimant?_eq_some_iff {f : NamespaceFilter} {c : Cell} {v : Json} {object : String} :
    c.claimant? f v = some object ↔ ∃ r, Registration.ofJson v = .ok r ∧
      f.inScope r.ns = true ∧ r.cell = c ∧ r.object = object := by
  unfold claimant?
  cases Registration.ofJson v with
  | error cause => simp
  | ok r => simp [and_assoc]

/-- The cells that notifications with these outcomes filled: of those that were
applied, what they claim. -/
def filledCells (outcomes : List (Notification × Option Outcome)) : List Cell :=
  outcomes.filterMap fun a =>
    if a.2 = some .applied then a.1.claim?.map Registration.cell else none

/-- No registrations in scope ask for one name in one namespace on behalf of
different objects. -/
def ConflictFree (f : NamespaceFilter) (objects : List Json) : Prop :=
  ∀ v ∈ objects, ∀ w ∈ objects, ∀ r s, Registration.ofJson v = .ok r →
    Registration.ofJson w = .ok s → f.inScope r.ns = true → f.inScope s.ns = true →
    r.name = s.name → r.ns = s.ns → r.object = s.object

namespace Index

def ownerIn? (i : Index) (c : Cell) : Option String := i.owner? c.partition c.name c.ns

def cells (i : Index) : Set Cell := {c | (i.ownerIn? c).isSome}

theorem ext_ownerIn? {f g : NamespaceFilter} {i j : Index} (hi : i.WellKept f) (hj : j.WellKept g)
    (h : ∀ c, i.ownerIn? c = j.ownerIn? c) : i = j :=
  hi.ext hj fun ns p name => h ⟨p, name, ns⟩

theorem ownerIn?_add (i : Index) (r : Registration) (c : Cell) :
    (i.add r).1.ownerIn? c = (i.ownerIn? c).or (if r.cell = c then some r.object else none) := by
  obtain ⟨p, name, ns⟩ := c
  simp only [ownerIn?, owner?_add_eq_ite, Registration.cell, Cell.mk.injEq]
  by_cases hc : p = r.partition ∧ name = r.name ∧ ns = r.ns
  · obtain ⟨rfl, rfl, rfl⟩ := hc
    cases i.owner? r.partition r.name r.ns <;> simp
  · rw [if_neg hc, if_neg (by grind), Option.or_none]

/-! ### One addition -/

variable (f : NamespaceFilter) (i : Index) (v : Json)

/-- An addition either claims the cell of a registration in scope, or it asks for no
cell and comes to nothing. -/
theorem handle_added_cases :
    (∃ r, (Notification.added v).claim? = some r ∧
      (∀ c : Cell, c.claimant? f v = if r.cell = c then some r.object else none) ∧
      i.handle f (.added v) = ((i.add r).1, some (i.add r).2)) ∨
    (∀ c : Cell, c.claimant? f v = none) ∧ (i.handle f (.added v)).1 = i ∧
      (i.handle f (.added v)).2 ≠ some .applied := by
  cases hv : Registration.ofJson v with
  | error cause =>
      have he : (Notification.added v).event? = some (.malformed .added (.object cause) v) := by
        simp [Notification.event?, Notification.eventOf, hv]
      exact .inr ⟨fun c => by simp [Cell.claimant?, hv], by simp [handle, he, apply],
        by simp [handle, he, apply]⟩
  | ok r =>
      have he : (Notification.added v).event? = some (.added r) := by
        simp [Notification.event?, Notification.eventOf, hv]
      by_cases hs : f.inScope r.ns = true
      · exact .inl ⟨r, by simp [Notification.claim?, he, Event.claim?],
          fun c => by simp [Cell.claimant?, hv, hs], by simp [handle, he, apply, hs]⟩
      · exact .inr ⟨fun c => by simp [Cell.claimant?, hv, hs], by simp [handle, he, apply, hs],
          by simp [handle, he, apply, hs]⟩

/-- An addition gives a cell to its claimant, unless it has an owner. -/
theorem ownerIn?_handle_added (c : Cell) :
    (i.handle f (.added v)).1.ownerIn? c = (i.ownerIn? c).or (c.claimant? f v) := by
  obtain ⟨r, -, hclaimant, hhandle⟩ | ⟨hclaimant, hindex, -⟩ := i.handle_added_cases f v
  · rw [hhandle, ownerIn?_add, hclaimant]
  · rw [hindex, hclaimant, Option.or_none]

/-- An addition is applied exactly if it fills a cell, which is the one that it claims. -/
theorem fills_of_handle_added :
    (∃ c, (i.handle f (.added v)).2 = some .applied ∧
      (Notification.added v).claim?.map Registration.cell = some c ∧
      c ∉ i.cells ∧ (i.handle f (.added v)).1.cells = insert c i.cells) ∨
    (i.handle f (.added v)).2 ≠ some .applied ∧ (i.handle f (.added v)).1.cells = i.cells := by
  by_cases houtcome : (i.handle f (.added v)).2 = some .applied
  · obtain ⟨r, hclaim, -, hhandle⟩ | ⟨-, -, hne⟩ := i.handle_added_cases f v
    · have hfree : i.ownerIn? r.cell = none := by
        rw [hhandle, outcome_add] at houtcome
        change i.owner? r.partition r.name r.ns = none
        cases howner : i.owner? r.partition r.name r.ns with
        | none => rfl
        | some owner =>
            simp only [howner] at houtcome
            split at houtcome <;> cases houtcome
      refine .inl ⟨r.cell, houtcome, by rw [hclaim]; rfl, by simp [cells, hfree], ?_⟩
      ext c
      simp only [cells, Set.mem_ofPred_eq, Set.mem_insert_iff, hhandle, ownerIn?_add]
      by_cases hc : r.cell = c
      · simp [hc]
      · simp [hc, Ne.symm hc]
    · exact absurd houtcome hne
  · exact .inr ⟨houtcome, by rw [handle_eq_of_ne_applied houtcome]⟩

/-! ### A listing -/

/-- After a listing a cell has the owner that it had, or else the first claimant. -/
theorem ownerIn?_handleAll_listing (objects : List Json) (c : Cell) :
    (i.handleAll f (listing objects)).ownerIn? c =
      (i.ownerIn? c).or (objects.findSome? (c.claimant? f)) := by
  induction objects generalizing i with
  | nil => simp [listing]
  | cons v objects ih =>
      change ((i.handle f (.added v)).1.handleAll f (listing objects)).ownerIn? c = _
      rw [ih, ownerIn?_handle_added, List.findSome?_cons]
      cases i.ownerIn? c <;> cases c.claimant? f v <;> rfl

/-- On the way from one index to another, what is applied fills cells one by one and
none of them twice, and nothing else happens to them. -/
structure Fills (i : Index) (outcomes : List (Notification × Option Outcome)) (j : Index) :
    Prop where
  nodup : (filledCells outcomes).Nodup
  free : ∀ c ∈ filledCells outcomes, c ∉ i.cells
  cells : j.cells = i.cells ∪ {c | c ∈ filledCells outcomes}
  applied : outcomes.countP (fun a => a.2 = some .applied) = (filledCells outcomes).length

theorem fills_listing (objects : List Json) :
    i.Fills (i.outcomes f (listing objects)) (i.handleAll f (listing objects)) := by
  induction objects generalizing i with
  | nil => exact ⟨List.nodup_nil, nofun, by simp [listing, outcomes, filledCells], rfl⟩
  | cons v objects ih =>
      let step := i.handle f (.added v)
      change i.Fills ((.added v, step.2) :: step.1.outcomes f (listing objects))
        (step.1.handleAll f (listing objects))
      obtain ⟨hnodup, hfree, hcells, happlied⟩ := ih step.1
      obtain ⟨c, houtcome, hclaim, hc, hstep⟩ | ⟨houtcome, hstep⟩ := i.fills_of_handle_added f v
      · have hfilled : filledCells ((.added v, step.2) :: step.1.outcomes f (listing objects)) =
            c :: filledCells (step.1.outcomes f (listing objects)) := by
          simp [filledCells, step, houtcome, hclaim]
        rw [hstep] at hfree hcells
        constructor
        · rw [hfilled]
          exact List.nodup_cons.2 ⟨fun hmem => hfree c hmem (Set.mem_insert ..), hnodup⟩
        · rw [hfilled]
          intro d hd
          rcases List.mem_cons.1 hd with rfl | hd
          · exact hc
          · exact fun hmem => hfree d hd (Set.mem_insert_of_mem _ hmem)
        · rw [hfilled, hcells]
          ext d
          simp only [Set.mem_union, Set.mem_insert_iff, Set.mem_ofPred_eq, List.mem_cons]
          tauto
        · rw [hfilled, List.countP_cons_of_pos (by simp [step, houtcome]), happlied,
            List.length_cons]
      · have hfilled : filledCells ((.added v, step.2) :: step.1.outcomes f (listing objects)) =
            filledCells (step.1.outcomes f (listing objects)) := by
          simp [filledCells, step, houtcome]
        rw [hstep] at hfree hcells
        constructor
        · rwa [hfilled]
        · rwa [hfilled]
        · rw [hfilled, hcells]
        · rw [hfilled, List.countP_cons_of_neg (by simp [step, houtcome]), happlied]

/-- An empty index has one cell for each addition that was applied. -/
theorem Fills.ncard_cells {outcomes : List (Notification × Option Outcome)} {j : Index}
    (h : Fills {} outcomes j) :
    {c | c ∈ filledCells outcomes} = j.cells ∧
      outcomes.countP (fun a => a.2 = some .applied) = j.cells.ncard := by
  have hempty : ({} : Index).cells = ∅ := by
    ext c
    simp [Index.cells, ownerIn?, owner?_empty]
  have hcells : {c | c ∈ filledCells outcomes} = j.cells := by
    rw [h.cells, hempty, Set.empty_union]
  refine ⟨hcells, ?_⟩
  rw [h.applied, ← hcells, ← List.coe_toFinset, Set.ncard_coe_finset,
    List.toFinset_card_of_nodup h.nodup]

theorem mem_cells_handleAll_listing_iff (objects : List Json) (c : Cell) :
    c ∈ (({} : Index).handleAll f (listing objects)).cells ↔
      ∃ v ∈ objects, (c.claimant? f v).isSome := by
  simp only [cells, Set.mem_ofPred_eq, ownerIn?_handleAll_listing]
  simp [ownerIn?, owner?_empty]

end Index

/-- Without conflicts the claimants of a cell are one object, whoever comes first. -/
theorem ConflictFree.findSome?_eq {f : NamespaceFilter} {objects objects' : List Json}
    (h : ConflictFree f objects) (hperm : objects.Perm objects') (c : Cell) :
    objects.findSome? (c.claimant? f) = objects'.findSome? (c.claimant? f) := by
  cases hfirst : objects.findSome? (c.claimant? f) with
  | none =>
      rw [List.findSome?_eq_none_iff] at hfirst
      exact (List.findSome?_eq_none_iff.2 fun v hv => hfirst v (hperm.mem_iff.2 hv)).symm
  | some object =>
      obtain ⟨v, hv, hclaims⟩ := List.exists_of_findSome?_eq_some hfirst
      cases hfirst' : objects'.findSome? (c.claimant? f) with
      | none =>
          rw [List.findSome?_eq_none_iff] at hfirst'
          rw [hfirst' v (hperm.mem_iff.1 hv)] at hclaims
          cases hclaims
      | some object' =>
          obtain ⟨w, hw, hclaims'⟩ := List.exists_of_findSome?_eq_some hfirst'
          obtain ⟨r, hr, hrs, hcell, rfl⟩ := Cell.claimant?_eq_some_iff.1 hclaims
          obtain ⟨s, hs, hss, hcell', rfl⟩ := Cell.claimant?_eq_some_iff.1 hclaims'
          have hsame : r.cell = s.cell := hcell.trans hcell'.symm
          rw [h v hv w (hperm.mem_iff.2 hw) r s hr hs hrs hss (congrArg Cell.name hsame)
            (congrArg Cell.ns hsame)]

/-- Listings of the same objects in two orders, handled from an empty index. The same
cells are filled, as many additions are applied in the one as in the other, and every
cell is filled by exactly one of them; so the additions that are applied are as many
as the cells. The owner in a cell is the first object of the listing that asks for
it. If no two objects compete, both listings leave the same index. -/
theorem Synchronizer.listing_order_decides_conflicts_only (f : NamespaceFilter) (o o' : Observer)
    (objects objects' : List Json) (hperm : objects.Perm objects') :
    let i := ((fresh f o).handleAll (listing objects)).index
    let j := ((fresh f o').handleAll (listing objects')).index
    let outcomes := (fresh f o).outcomes (listing objects)
    let outcomes' := (fresh f o').outcomes (listing objects')
    i.cells = j.cells ∧
    outcomes.countP (fun a => a.2 = some .applied) =
      outcomes'.countP (fun a => a.2 = some .applied) ∧
    outcomes.countP (fun a => a.2 = some .applied) = i.cells.ncard ∧
    (filledCells outcomes).Nodup ∧ {c | c ∈ filledCells outcomes} = i.cells ∧
    (∀ c, i.ownerIn? c = objects.findSome? (c.claimant? f)) ∧
    (ConflictFree f objects → i = j ∧ i.snapshot = j.snapshot) := by
  simp only [index_handleAll_fresh, outcomes_fresh]
  have hcells : (({} : Index).handleAll f (listing objects)).cells =
      (({} : Index).handleAll f (listing objects')).cells := by
    ext c
    simp only [Index.mem_cells_handleAll_listing_iff, hperm.mem_iff]
  have hfills := Index.fills_listing f {} objects
  obtain ⟨hfilled, hcount⟩ := hfills.ncard_cells
  obtain ⟨-, hcount'⟩ := (Index.fills_listing f {} objects').ncard_cells
  have howner : ∀ objects c, (({} : Index).handleAll f (listing objects)).ownerIn? c =
      objects.findSome? (c.claimant? f) := by
    intro objects c
    rw [Index.ownerIn?_handleAll_listing, Index.ownerIn?, Index.owner?_empty, Option.none_or]
  refine ⟨hcells, ?_, hcount, hfills.nodup, hfilled, howner objects, fun hfree => ?_⟩
  · rw [hcount, hcount', hcells]
  · have hindex : ({} : Index).handleAll f (listing objects) =
        ({} : Index).handleAll f (listing objects') := by
      refine Index.ext_ownerIn? ((Index.WellKept.empty f).handleAll _)
        ((Index.WellKept.empty f).handleAll _) fun c => ?_
      rw [howner, howner, hfree.findSome?_eq hperm]
    exact ⟨hindex, congrArg Index.snapshot hindex⟩

/-- Two objects compete for a name and a third one registers another name, among an
object that is no registration and one out of scope. Backwards the other competitor
wins, but the same two names are owned. Without the second competitor the order does
not matter at all. -/
theorem Synchronizer.listing_order_decides_conflicts_only_of_competitors :
    let f : NamespaceFilter := ⟨["ns"]⟩
    let x := Registration.toJson ⟨"ns", "x", "www"⟩
    let y := Registration.toJson ⟨"ns", "y", "www"⟩
    let z := Registration.toJson ⟨"ns", "z", "*.www"⟩
    let objects : List Json := [x, .null, y, z, Registration.toJson ⟨"other", "x", "api"⟩]
    let i := ((fresh f .silent).handleAll (listing objects)).index
    let j := ((fresh f .recording).handleAll (listing objects.reverse)).index
    objects.Perm objects.reverse ∧ i.cells = j.cells ∧ i.cells.ncard = 2 ∧
    i.ownerIn? ⟨.regular, "www", "ns"⟩ = some "x" ∧
    j.ownerIn? ⟨.regular, "www", "ns"⟩ = some "y" ∧
    ConflictFree f [x, z] ∧
    ((fresh f .silent).handleAll (listing [x, z])).index.snapshot =
      ((fresh f .silent).handleAll (listing [z, x])).index.snapshot := by
  intro f x y z objects i j
  have hperm : objects.Perm objects.reverse := (List.reverse_perm objects).symm
  obtain ⟨hcells, -, hcount, -, -, howner, -⟩ :=
    listing_order_decides_conflicts_only f .silent .recording objects objects.reverse hperm
  have hj : j.ownerIn? ⟨.regular, "www", "ns"⟩ = some "y" := by decide +kernel
  have hfree : ConflictFree f [x, z] := by
    intro v hv w hw r s hr hs _ _ hname _
    simp only [List.mem_cons, List.not_mem_nil, or_false] at hv hw
    rcases hv with rfl | rfl <;> rcases hw with rfl | rfl <;> cases hr <;> cases hs
    · rfl
    · exact absurd hname (by decide)
    · exact absurd hname (by decide)
    · rfl
  obtain ⟨-, -, -, -, -, -, hsame⟩ :=
    listing_order_decides_conflicts_only f .silent .silent [x, z] [z, x] (.swap z x [])
  exact ⟨hperm, hcells, by rw [← hcount]; decide +kernel, howner _, hj, hfree, (hsame hfree).2⟩

end NameOwners
