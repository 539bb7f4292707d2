import NameOwners.Index.Basic
import NameOwners.Json.Value

/-!
The index as a JSON value, with names and namespaces in order. A snapshot shows the whole index
(`Index.snapshot_inj`).
-/

namespace NameOwners

def ownersJson (owners : Owners) : Json :=
  .object (owners.map Json.string).entries

def namesJson (names : Dictionary Owners) : Json :=
  .object (names.map ownersJson).entries

def Index.snapshot (i : Index) : Json :=
  .object [("regular", namesJson i.regular), ("wildcard", namesJson i.wildcard)]

theorem ownersJson_inj {a b : Owners} : ownersJson a = ownersJson b ↔ a = b := by
  rw [ownersJson, ownersJson, Json.object.injEq, Dictionary.entries_inj,
    Dictionary.map_inj fun _ _ => Json.string.inj]

theorem namesJson_inj {a b : Dictionary Owners} : namesJson a = namesJson b ↔ a = b := by
  rw [namesJson, namesJson, Json.object.injEq, Dictionary.entries_inj,
    Dictionary.map_inj fun _ _ => ownersJson_inj.1]

/-- Different indexes have different snapshots. -/
theorem Index.snapshot_inj {i j : Index} : i.snapshot = j.snapshot ↔ i = j := by
  refine ⟨fun h => ?_, congrArg _⟩
  cases i
  cases j
  simpa [snapshot, namesJson_inj] using h

end NameOwners
