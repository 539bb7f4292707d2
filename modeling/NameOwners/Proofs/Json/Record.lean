import NameOwners.Json.Record
import NameOwners.Proofs.Json.Written

/-!
Which values are records. A record has given fields if it is an object with their
values under their keys, whatever else is in it, or the array of just their values in
order (`Json.HasFields`). Taking a record apart succeeds exactly on these values, and
gives what the values of its fields decode to.
-/

namespace NameOwners.Json

open Reader (except_bind_eq_ok_iff)

variable {α β : Type} {v : Json}

def HasFields (fields : List (String × Json)) : Json → Prop
  | object entries => ∀ e ∈ fields, Dictionary.find? e.1 entries = some e.2
  | array elements => elements = fields.map Prod.snd
  | _ => False

theorem asString_eq_ok_iff {s : String} : asString v = .ok s ↔ v = .string s := by
  cases v with
  | string t => rw [asString, Except.ok.injEq, Json.string.injEq]
  | _ => exact iff_of_false nofun nofun

theorem asSingle_eq_ok_iff {record key : String} {decode : Json → Except Mismatch α} {a : α} :
    asSingle record key decode v = .ok a ↔ ∃ x, v.HasFields [(key, x)] ∧ decode x = .ok a := by
  cases v with
  | object entries =>
      simp only [asSingle, HasFields, List.forall_mem_singleton]
      cases Dictionary.find? key entries <;> simp
  | array elements =>
      simp only [HasFields, List.map_cons, List.map_nil]
      match elements with
      | [] => simp [asSingle]
      | [x] => simp [asSingle]
      | x :: y :: xs => simp [asSingle, except_bind_eq_ok_iff]
  | _ => simp [asSingle, HasFields]

/-- A field that may be missing is there and decodes. -/
theorem mapM_eq_ok_some_iff {o : Option Json} {decode : Json → Except Mismatch α} {a : α} :
    o.mapM decode = .ok (some a) ↔ ∃ x, o = some x ∧ decode x = .ok a := by
  cases o with
  | none => simp [pure, Except.pure]
  | some x => cases h : decode x <;> simp [h, Functor.map, Except.map]

theorem asPair_eq_ok_iff {record key₁ key₂ : String} {decode₁ : Json → Except Mismatch α}
    {decode₂ : Json → Except Mismatch β} {a : α} {b : β} :
    asPair record key₁ key₂ decode₁ decode₂ v = .ok (a, b) ↔
      ∃ x y, v.HasFields [(key₁, x), (key₂, y)] ∧ decode₁ x = .ok a ∧ decode₂ y = .ok b := by
  cases v with
  | object entries =>
      simp only [asPair, except_bind_eq_ok_iff]
      constructor
      · rintro ⟨a', ha, b', hb, hboth⟩
        -- Both fields have to be there.
        split at hboth
        · obtain ⟨rfl, rfl⟩ := Prod.mk.inj (Except.ok.inj hboth)
          obtain ⟨x, hx, hdx⟩ := mapM_eq_ok_some_iff.1 ha
          obtain ⟨y, hy, hdy⟩ := mapM_eq_ok_some_iff.1 hb
          exact ⟨x, y, by simp [HasFields, hx, hy], hdx, hdy⟩
        · cases hboth
        · cases hboth
      · rintro ⟨x, y, hfields, hdx, hdy⟩
        have hx := hfields (key₁, x) (by simp)
        have hy := hfields (key₂, y) (by simp)
        exact ⟨some a, mapM_eq_ok_some_iff.2 ⟨x, hx, hdx⟩, some b,
          mapM_eq_ok_some_iff.2 ⟨y, hy, hdy⟩, rfl⟩
  | array elements =>
      simp only [HasFields, List.map_cons, List.map_nil]
      match elements with
      | [] => simp [asPair]
      | [x] => simp [asPair, except_bind_eq_ok_iff]
      | [x, y] => simp [asPair, except_bind_eq_ok_iff, and_assoc]
      | x :: y :: z :: xs => simp [asPair, except_bind_eq_ok_iff]
  | _ => simp [asPair, HasFields]

end NameOwners.Json
