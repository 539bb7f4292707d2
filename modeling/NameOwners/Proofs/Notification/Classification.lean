import NameOwners.Proofs.Notification.WireForm
import NameOwners.Proofs.Registration

/-!
What becomes of a notification when it is validated. The end of a listing gives no
event, and every other notification gives one of its kind: with the registrations that
its objects describe if all of them are accepted and are of one object, and otherwise a
malformed one that says what is wrong (`Notification.classified_exactly`). The objects
are looked at in order, so the first that is refused is the one that is reported.

The three outcomes are collected once (`Notification.event?_cases`). They exclude each
other, and each of them determines the event, since objects are accepted as one list
of registrations only (`Notification.Accepted.unique`) and there is only one that is
refused first (`Notification.FirstRefused.unique`).
-/

namespace NameOwners

def Event.content? : Event → Option (EventKind × List Registration)
  | .added r => some (.added, [r])
  | .updated old new => some (.updated, [old, new])
  | .deleted r => some (.deleted, [r])
  | .malformed .. => none

theorem Event.content?_inj {e e' : Event} {p : EventKind × List Registration}
    (h : e.content? = some p) (h' : e'.content? = some p) : e = e' := by
  cases e <;> cases h <;> cases e' <;> cases h' <;> rfl

/-- Registrations of one object of one namespace. -/
def OfOneObject (rs : List Registration) : Prop :=
  rs.Pairwise fun r s => r.ns = s.ns ∧ r.object = s.object

@[simp] theorem ofOneObject_singleton (r : Registration) : OfOneObject [r] :=
  List.pairwise_singleton _ r

@[simp] theorem ofOneObject_pair_iff {r s : Registration} :
    OfOneObject [r, s] ↔ r.ns = s.ns ∧ r.object = s.object :=
  List.pairwise_pair

namespace Notification

def kind? : Notification → Option EventKind
  | added _ => some .added
  | updated .. => some .updated
  | deleted _ => some .deleted
  | synced => none

def objects (n : Notification) : List Json :=
  n.fields.map Prod.snd

/-- The values are accepted, as these registrations. -/
def Accepted (vs : List Json) (rs : List Registration) : Prop :=
  vs.map Registration.ofJson = rs.map .ok

/-- The first of some values that is refused, and why it is. -/
def firstRefused? (vs : List Json) : Option (Json × RegistrationError) :=
  vs.findSome? fun v =>
    match Registration.ofJson v with
    | .ok _ => none
    | .error cause => some (v, cause)

/-! ### Accepted and refused values -/

section Values

variable {v : Json} {vs : List Json} {r : Registration} {rs ss : List Registration}
  {cause : RegistrationError}

theorem accepted_nil : Accepted [] [] := rfl

theorem Accepted.cons (h : Registration.ofJson v = .ok r) (hrest : Accepted vs rs) :
    Accepted (v :: vs) (r :: rs) := by
  rw [Accepted, List.map_cons, List.map_cons, h, hrest]

theorem Accepted.unique (h : Accepted vs rs) (h' : Accepted vs ss) : rs = ss := by
  have hok : rs.map (Except.ok : _ → Except RegistrationError _) = ss.map .ok := h.symm.trans h'
  exact (List.map_inj_right fun _ _ => Except.ok.inj).1 hok

theorem firstRefused?_cons_of_ok (h : Registration.ofJson v = .ok r) :
    firstRefused? (v :: vs) = firstRefused? vs := by
  rw [firstRefused?, List.findSome?_cons, h, firstRefused?]

theorem firstRefused?_cons_of_error (h : Registration.ofJson v = .error cause) :
    firstRefused? (v :: vs) = some (v, cause) := by
  rw [firstRefused?, List.findSome?_cons, h]

/-- None of the accepted values is refused. -/
theorem Accepted.firstRefused?_ne_some (h : Accepted vs rs) :
    firstRefused? vs ≠ some (v, cause) := by
  have hnone : firstRefused? vs = none := by
    rw [firstRefused?, List.findSome?_eq_none_iff]
    intro w hw
    have hmem : Registration.ofJson w ∈ rs.map .ok := h ▸ List.mem_map_of_mem hw
    obtain ⟨r, -, hr⟩ := List.mem_map.1 hmem
    rw [← hr]
  rw [hnone]
  nofun

/-- What is written of registrations is accepted if they are complete, as the same ones. -/
theorem accepted_map_toJson_iff :
    Accepted (rs.map Registration.toJson) ss ↔ ss = rs ∧ ∀ r ∈ rs, r.IsComplete := by
  induction rs generalizing ss with
  | nil => simp [Accepted, eq_comm]
  | cons r rs ih =>
      unfold Accepted at ih ⊢
      cases ss with
      | nil => simp
      | cons s ss =>
          simp only [List.map_cons, List.cons.injEq, ih, Registration.ofJson_toJson_eq_ok_iff,
            List.forall_mem_cons]
          exact and_and_and_comm

end Values

/-! ### The outcomes -/

/-- The outcomes of validating the objects `vs` of a notification of a kind. -/
inductive Outcome (kind : EventKind) (vs : List Json) : Event → Prop
  /-- The objects are accepted and are states of one object. -/
  | wellFormed {e : Event} {rs : List Registration} (haccepted : Accepted vs rs)
      (hone : OfOneObject rs) (hcontent : e.content? = some (kind, rs)) : Outcome kind vs e
  /-- An object is refused. -/
  | refused {v : Json} {cause : RegistrationError} (hfirst : firstRefused? vs = some (v, cause)) :
      Outcome kind vs (.malformed kind (.object cause) v)
  /-- The objects are accepted, but an update goes from one object to another. -/
  | moved {old new : Registration} (haccepted : Accepted vs [old, new])
      (hone : ¬OfOneObject [old, new]) :
      Outcome kind vs (.malformed kind (.identity old new) new.toJson)

theorem outcome_eventOf {kind : EventKind} {make : Registration → Event}
    (hmake : ∀ r, (make r).content? = some (kind, [r])) (v : Json) :
    Outcome kind [v] (eventOf kind make v) := by
  unfold eventOf
  split
  · rename_i r hr
    exact .wellFormed (.cons hr accepted_nil) (ofOneObject_singleton r) (hmake r)
  · rename_i cause hrefused
    exact .refused (firstRefused?_cons_of_error hrefused)

theorem outcome_updateOf (old new : Json) : Outcome .updated [old, new] (updateOf old new) := by
  unfold updateOf
  split
  · rename_i cause hrefused
    exact .refused (firstRefused?_cons_of_error hrefused)
  · rename_i r hr
    split
    · rename_i cause hrefused
      exact .refused ((firstRefused?_cons_of_ok hr).trans (firstRefused?_cons_of_error hrefused))
    · rename_i s hs
      have haccepted : Accepted [old, new] [r, s] := .cons hr (.cons hs accepted_nil)
      split
      · rename_i hone
        exact .wellFormed haccepted (ofOneObject_pair_iff.2 hone) rfl
      · rename_i hone
        exact .moved haccepted (mt ofOneObject_pair_iff.1 hone)

/-- Only the end of a listing gives no event, and every other notification has one of the
outcomes of its kind. -/
theorem event?_cases (n : Notification) :
    (n = synced ∧ n.kind? = none ∧ n.event? = none) ∨
      ∃ kind e, n.kind? = some kind ∧ n.event? = some e ∧ Outcome kind n.objects e := by
  cases n with
  | added v => exact .inr ⟨_, _, rfl, rfl, outcome_eventOf (fun _ => rfl) v⟩
  | updated old new => exact .inr ⟨_, _, rfl, rfl, outcome_updateOf old new⟩
  | deleted v => exact .inr ⟨_, _, rfl, rfl, outcome_eventOf (fun _ => rfl) v⟩
  | synced => exact .inl ⟨rfl, rfl, rfl⟩

variable {n : Notification} {kind : EventKind}

/-- A well-formed event stands for accepted objects, and their registrations are its own. -/
theorem content?_event?_iff {rs : List Registration} :
    n.event?.bind Event.content? = some (kind, rs) ↔
      n.kind? = some kind ∧ Accepted n.objects rs ∧ OfOneObject rs := by
  rcases event?_cases n with ⟨-, hkind, hevent⟩ | ⟨k, e, hkind, hevent, houtcome⟩
  · simp [hkind, hevent]
  · rw [hkind, hevent, Option.bind_some, Option.some.injEq]
    cases houtcome with
    | wellFormed haccepted hone hcontent =>
        rw [hcontent, Option.some.injEq, Prod.mk.injEq]
        constructor
        · rintro ⟨rfl, rfl⟩
          exact ⟨rfl, haccepted, hone⟩
        · rintro ⟨rfl, haccepted', -⟩
          exact ⟨rfl, haccepted.unique haccepted'⟩
    | refused hfirst =>
        refine iff_of_false nofun ?_
        rintro ⟨-, haccepted, -⟩
        exact haccepted.firstRefused?_ne_some hfirst
    | moved haccepted hone =>
        refine iff_of_false nofun ?_
        rintro ⟨-, haccepted', hone'⟩
        rw [← haccepted.unique haccepted'] at hone'
        exact hone hone'

/-- A malformed event stands for an object that is refused, or for two states that are
not of one object. -/
theorem malformed_event?_iff {cause : EventError} {v : Json} :
    n.event? = some (.malformed kind cause v) ↔
      n.kind? = some kind ∧
        ((∃ c, firstRefused? n.objects = some (v, c) ∧ cause = .object c) ∨
          ∃ old new, Accepted n.objects [old, new] ∧ ¬OfOneObject [old, new] ∧
            cause = .identity old new ∧ v = new.toJson) := by
  rcases event?_cases n with ⟨-, hkind, hevent⟩ | ⟨k, e, hkind, hevent, houtcome⟩
  · simp [hkind, hevent]
  · rw [hkind, hevent, Option.some.injEq, Option.some.injEq]
    cases houtcome with
    | wellFormed haccepted hone hcontent =>
        refine iff_of_false (fun h => ?_) ?_
        · rw [h] at hcontent
          cases hcontent
        · rintro ⟨-, ⟨c, hfirst, -⟩ | ⟨old, new, haccepted', hmoved, -⟩⟩
          · exact absurd hfirst haccepted.firstRefused?_ne_some
          · rw [haccepted.unique haccepted'] at hone
            exact hmoved hone
    | refused hfirst =>
        constructor
        · intro h
          obtain ⟨rfl, rfl, rfl⟩ := Event.malformed.inj h
          exact ⟨rfl, .inl ⟨_, hfirst, rfl⟩⟩
        · rintro ⟨rfl, ⟨c, hfirst', rfl⟩ | ⟨old, new, haccepted, -⟩⟩
          · obtain ⟨rfl, rfl⟩ := Prod.mk.inj (Option.some.inj (hfirst.symm.trans hfirst'))
            rfl
          · exact absurd hfirst haccepted.firstRefused?_ne_some
    | moved haccepted hone =>
        constructor
        · intro h
          obtain ⟨rfl, rfl, rfl⟩ := Event.malformed.inj h
          exact ⟨rfl, .inr ⟨_, _, haccepted, hone, rfl, rfl⟩⟩
        · rintro ⟨rfl, ⟨c, hfirst, -⟩ | ⟨old, new, haccepted', -, rfl, rfl⟩⟩
          · exact absurd hfirst haccepted.firstRefused?_ne_some
          · cases haccepted.unique haccepted'
            rfl

/-- Whatever is not well-formed is malformed, of the same kind. -/
theorem exists_malformed_event?_iff :
    (∃ cause v, n.event? = some (.malformed kind cause v)) ↔
      n.kind? = some kind ∧ ¬∃ rs, Accepted n.objects rs ∧ OfOneObject rs := by
  constructor
  · rintro ⟨cause, v, hmalformed⟩
    have hkind := (malformed_event?_iff.1 hmalformed).1
    refine ⟨hkind, ?_⟩
    rintro ⟨rs, haccepted, hone⟩
    have hcontent := content?_event?_iff.2 ⟨hkind, haccepted, hone⟩
    rw [hmalformed] at hcontent
    cases hcontent
  · rintro ⟨hkind, hnone⟩
    rcases event?_cases n with ⟨-, hkind', -⟩ | ⟨k, e, hkind', hevent, houtcome⟩
    · rw [hkind'] at hkind
      cases hkind
    · obtain rfl := Option.some.inj (hkind.symm.trans hkind')
      cases houtcome with
      | wellFormed haccepted hone => exact absurd ⟨_, haccepted, hone⟩ hnone
      | refused => exact ⟨_, _, hevent⟩
      | moved => exact ⟨_, _, hevent⟩

/-! ### Notifications that are built from registrations -/

/-- A notification stands for an event under a condition, and for a malformed one of the
same kind without it. -/
def StandsForIff (n : Notification) (e : Event) (condition : Prop) : Prop :=
  (n.event? = some e ↔ condition) ∧
    ((∃ cause v, n.event? = some (.malformed e.kind cause v)) ↔ ¬condition)

/-- The objects written of the registrations of an event make this event if the
registrations are complete and of one object. -/
theorem standsForIff_of_objects {e : Event} {rs : List Registration}
    (hcontent : e.content? = some (e.kind, rs)) (hkind : n.kind? = some e.kind)
    (hobjects : n.objects = rs.map Registration.toJson) :
    n.StandsForIff e ((∀ r ∈ rs, r.IsComplete) ∧ OfOneObject rs) := by
  have hwellFormed : n.event?.bind Event.content? = some (e.kind, rs) ↔
      (∀ r ∈ rs, r.IsComplete) ∧ OfOneObject rs := by
    rw [content?_event?_iff, hobjects, accepted_map_toJson_iff, and_iff_right hkind,
      and_iff_right rfl]
  refine ⟨?_, ?_⟩
  · rw [← hwellFormed, Option.bind_eq_some_iff]
    constructor
    · exact fun hevent => ⟨e, hevent, hcontent⟩
    · rintro ⟨e', hevent, hcontent'⟩
      rwa [Event.content?_inj hcontent hcontent']
  · rw [exists_malformed_event?_iff, and_iff_right hkind, hobjects]
    simp only [accepted_map_toJson_iff, and_assoc, exists_eq_left]

/-- Only the end of a listing gives no event. Any other notification gives a well-formed
event of its kind exactly if all its objects are accepted and are of one object, and the
event is of the registrations that they describe. Otherwise it gives a malformed event of
its kind: with the first object that is refused and the reason for that, or, if none is
refused, with what is written of the new registration and a reason that names both
objects. What is built from registrations stands for the event about them if none of
their texts is empty and, for an update, both are of one object, and for a malformed one
otherwise. -/
theorem classified_exactly (n : Notification) :
    (n.event? = none ↔ n = .synced) ∧
      (∀ kind rs, n.event?.bind Event.content? = some (kind, rs) ↔
        n.kind? = some kind ∧ Accepted n.objects rs ∧ OfOneObject rs) ∧
      (∀ kind, (∃ cause v, n.event? = some (.malformed kind cause v)) ↔
        n.kind? = some kind ∧ ¬∃ rs, Accepted n.objects rs ∧ OfOneObject rs) ∧
      (∀ kind cause v, n.event? = some (.malformed kind cause v) ↔
        n.kind? = some kind ∧
          ((∃ c, firstRefused? n.objects = some (v, c) ∧ cause = .object c) ∨
            ∃ old new, Accepted n.objects [old, new] ∧ ¬OfOneObject [old, new] ∧
              cause = .identity old new ∧ v = new.toJson)) ∧
      (∀ c, (EventError.object c).message = c.message) ∧
      (∀ old new, (EventError.identity old new).message =
        "object identity changed from " ++ old.ns ++ "/" ++ old.object ++ " to " ++
          new.ns ++ "/" ++ new.object) ∧
      (∀ r, (ofAdded r).StandsForIff (.added r) r.IsComplete) ∧
      (∀ r, (ofDeleted r).StandsForIff (.deleted r) r.IsComplete) ∧
      ∀ old new, (ofUpdated old new).StandsForIff (.updated old new)
        (old.IsComplete ∧ new.IsComplete ∧ old.ns = new.ns ∧ old.object = new.object) := by
  refine ⟨event?_eq_none_iff, fun _ _ => content?_event?_iff,
    fun _ => exists_malformed_event?_iff, fun _ _ _ => malformed_event?_iff, fun _ => rfl,
    fun _ _ => rfl, fun r => ?_, fun r => ?_, fun old new => ?_⟩
  · simpa using standsForIff_of_objects (n := ofAdded r) (e := .added r) rfl rfl rfl
  · simpa using standsForIff_of_objects (n := ofDeleted r) (e := .deleted r) rfl rfl rfl
  · simpa [and_assoc] using
      standsForIff_of_objects (n := ofUpdated old new) (e := .updated old new) rfl rfl rfl

end Notification

end NameOwners
