import NameOwners.Proofs.Json.Record
import NameOwners.Proofs.Validation

/-!
Which values describe registrations. An object, its metadata and its specification are
records, each of them written as an object or as an array, and together they give the
three texts of a registration (`Registration.IsDescribedBy`). A value is accepted
exactly if it describes a registration without empty texts
(`Registration.accepts_exactly_descriptions`).
-/

namespace NameOwners.Registration

open Json.Reader (except_bind_eq_ok_iff except_map_eq_ok_iff)

/-- A value that gives the three texts of a registration. Metadata written as an array
name the object before its namespace. -/
def IsDescribedBy (r : Registration) (v : Json) : Prop :=
  ∃ metadata spec, v.HasFields [("metadata", metadata), ("spec", spec)] ∧
    metadata.HasFields [("name", .string r.object), ("namespace", .string r.ns)] ∧
    spec.HasFields [("name", .string r.name)]

/-- The texts of a registration in the order in which they are checked, each with the
place where an object has it. -/
def texts (r : Registration) : List (String × String) :=
  [("metadata.namespace", r.ns), ("metadata.name", r.object), ("spec.name", r.name)]

/-- The place of the first text that is empty. -/
theorem emptyField?_eq (r : Registration) :
    r.emptyField? = (r.texts.find? fun e => e.2 = "").map Prod.fst := by
  by_cases hns : r.ns = ""
  · simp [emptyField?, texts, hns]
  · by_cases hobject : r.object = ""
    · simp [emptyField?, texts, hns, hobject]
    · by_cases hname : r.name = "" <;> simp [emptyField?, texts, hns, hobject, hname]

variable {v : Json} {r : Registration}

/-! ### The three records -/

theorem decodeMetadata_eq_ok_iff {object ns : String} :
    decodeMetadata v = .ok (object, ns) ↔
      v.HasFields [("name", .string object), ("namespace", .string ns)] := by
  simp only [decodeMetadata, Json.asPair_eq_ok_iff, Json.asString_eq_ok_iff]
  constructor
  · rintro ⟨x, y, hfields, rfl, rfl⟩
    exact hfields
  · exact fun hfields => ⟨_, _, hfields, rfl, rfl⟩

theorem decodeSpec_eq_ok_iff {name : String} :
    decodeSpec v = .ok name ↔ v.HasFields [("name", .string name)] := by
  simp only [decodeSpec, Json.asSingle_eq_ok_iff, Json.asString_eq_ok_iff]
  constructor
  · rintro ⟨x, hfields, rfl⟩
    exact hfields
  · exact fun hfields => ⟨_, hfields, rfl⟩

theorem decode_eq_ok_iff : decode v = .ok r ↔ r.IsDescribedBy v := by
  simp only [decode, except_map_eq_ok_iff]
  constructor
  · rintro ⟨⟨⟨object, ns⟩, name⟩, hpair, rfl⟩
    obtain ⟨metadata, spec, hfields, hmetadata, hspec⟩ := Json.asPair_eq_ok_iff.1 hpair
    exact ⟨metadata, spec, hfields, decodeMetadata_eq_ok_iff.1 hmetadata,
      decodeSpec_eq_ok_iff.1 hspec⟩
  · rintro ⟨metadata, spec, hfields, hmetadata, hspec⟩
    exact ⟨((r.object, r.ns), r.name), Json.asPair_eq_ok_iff.2 ⟨metadata, spec, hfields,
      decodeMetadata_eq_ok_iff.2 hmetadata, decodeSpec_eq_ok_iff.2 hspec⟩, rfl⟩

/-! ### Acceptance -/

theorem ofJson_eq_ok_iff : ofJson v = .ok r ↔ r.IsDescribedBy v ∧ r.IsComplete := by
  rw [ofJson_eq_ok_iff_decode, decode_eq_ok_iff]

/-- What is refused for an empty text describes a registration with this text empty, and
no earlier one. -/
theorem ofJson_eq_empty_iff {field : String} :
    ofJson v = .error (.empty field) ↔
      ∃ r : Registration, r.IsDescribedBy v ∧ r.emptyField? = some field := by
  constructor
  · intro h
    unfold ofJson at h
    split at h
    · cases h
    · rename_i s hdecode
      split at h
      · rename_i found hfound
        obtain rfl := RegistrationError.empty.inj (Except.error.inj h)
        exact ⟨s, decode_eq_ok_iff.1 hdecode, hfound⟩
      · cases h
  · rintro ⟨r, hdescribed, hfield⟩
    rw [ofJson, decode_eq_ok_iff.2 hdescribed]
    simp only [hfield]

/-- What is written of a registration is accepted as this one only. -/
theorem ofJson_toJson_eq_ok_iff {s : Registration} :
    ofJson r.toJson = .ok s ↔ s = r ∧ r.IsComplete := by
  constructor
  · intro h
    obtain ⟨hdecode, hcomplete⟩ := ofJson_eq_ok_iff_decode.1 h
    obtain rfl : r = s := Except.ok.inj hdecode
    exact ⟨rfl, hcomplete⟩
  · rintro ⟨rfl, hcomplete⟩
    exact ofJson_toJson hcomplete

theorem isComplete_iff : r.IsComplete ↔ r.ns ≠ "" ∧ r.object ≠ "" ∧ r.name ≠ "" :=
  ⟨fun h => ⟨h.ns, h.object, h.name⟩, fun ⟨hns, hobject, hname⟩ => ⟨hns, hobject, hname⟩⟩

/-- A value is accepted as a registration exactly if it describes it and none of its
texts is empty, and refused otherwise. It is refused for an empty text exactly if it
describes a registration with an empty text, and then for the first of them. What is
written of an accepted registration is accepted as the same one, and a registration is
read back from what is written of it exactly if none of its texts is empty. -/
theorem accepts_exactly_descriptions (v : Json) :
    (∀ r, ofJson v = .ok r ↔ r.IsDescribedBy v ∧ r.ns ≠ "" ∧ r.object ≠ "" ∧ r.name ≠ "") ∧
      ((∃ e, ofJson v = .error e) ↔
        ¬∃ r : Registration, r.IsDescribedBy v ∧ r.ns ≠ "" ∧ r.object ≠ "" ∧ r.name ≠ "") ∧
      (∀ field, (ofJson v = .error (.empty field) ↔
          ∃ r : Registration, r.IsDescribedBy v ∧
            (r.texts.find? fun e => e.2 = "").map Prod.fst = some field) ∧
        (RegistrationError.empty field).message = field ++ " is empty") ∧
      (ofJson v >>= fun r => ofJson r.toJson) = ofJson v ∧
      ∀ r : Registration, ofJson r.toJson = .ok r ↔ r.ns ≠ "" ∧ r.object ≠ "" ∧ r.name ≠ "" := by
  have haccepted : ∀ r, ofJson v = .ok r ↔
      r.IsDescribedBy v ∧ r.ns ≠ "" ∧ r.object ≠ "" ∧ r.name ≠ "" := by
    intro r
    rw [ofJson_eq_ok_iff, isComplete_iff]
  refine ⟨haccepted, ?_, fun field => ⟨?_, rfl⟩, ?_, fun r => ?_⟩
  · simp only [← haccepted]
    cases ofJson v with
    | ok r => simp
    | error e => simp
  · rw [ofJson_eq_empty_iff]
    simp only [emptyField?_eq]
  · cases h : ofJson v with
    | ok r => exact ofJson_toJson (isComplete_of_ofJson h)
    | error e => rfl
  · rw [ofJson_toJson_eq_ok_iff, and_iff_right rfl, isComplete_iff]

example : ofJson (.array [.object [("extra", .null), ("name", .string "o"),
    ("namespace", .string "ns")], .array [.string "www"]]) = .ok ⟨"ns", "o", "www"⟩ := rfl

end NameOwners.Registration
