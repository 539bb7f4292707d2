import NameOwners.Proofs.Dns.Reading
import NameOwners.Proofs.Index.LabelBoundary

/-!
When two names are one to a query. A name is looked up under the text of its labels
in small letters, and this text tells them apart (`Dns.GivenName.query_eq_iff`). So
for a query the case of letters and the final dot do not count, and all else does:
names with other labels never find the same regular entry
(`lookupGiven_identifies_names`).
-/

namespace NameOwners

open Dns (GivenName)

theorem Dns.GivenName.query_eq_iff {m n : GivenName} :
    m.query = n.query ↔ m.lower.labels = n.lower.labels := by
  rw [query_eq, query_eq]
  exact Name.text_inj

namespace Index

/-- A regular entry is found under its own name only. -/
theorem name_of_lookup_regular {i : Index} {query : String} {e : Match}
    (h : i.lookup query = some e) (he : e.partition = .regular) : e.name = query := by
  cases hget : i.regular.get? query with
  | some owners =>
      rw [i.lookup_of_regular query hget] at h
      cases h
      rfl
  | none =>
      -- What is found otherwise is an entry for a domain above the query.
      rw [i.lookup_of_no_regular query hget, wildcardMatches_eq] at h
      obtain ⟨domain, -, hdomain⟩ := List.mem_filterMap.1 (List.mem_of_head? h)
      obtain ⟨owners, -, rfl⟩ := Option.map_eq_some_iff.1 hdomain
      cases he

def ofRegular (name : String) (owners : Owners) : Index where
  regular := (∅ : Dictionary Owners).insert name owners

theorem lookup_ofRegular (name : String) (owners : Owners) :
    (ofRegular name owners).lookup name = some ⟨name, .regular, owners⟩ :=
  lookup_of_regular _ _ (by simp [ofRegular])

end Index

/-- Two names have the same labels but for the case of ASCII letters exactly if they
are looked up under the same text, exactly if every index answers both alike, and
exactly if some index finds one regular entry for both. Whether they were given as
absolute or relative names plays no part in that. -/
theorem lookupGiven_identifies_names (m n : GivenName) :
    (m.lower.labels = n.lower.labels ↔ m.query = n.query) ∧
      (m.lower.labels = n.lower.labels ↔ ∀ i : Index, i.lookupGiven m = i.lookupGiven n) ∧
      (m.lower.labels = n.lower.labels ↔
        ∃ (i : Index) (e : Match), e.partition = .regular ∧
          i.lookupGiven m = some e ∧ i.lookupGiven n = some e) := by
  have hquery : m.lower.labels = n.lower.labels ↔ m.query = n.query :=
    GivenName.query_eq_iff.symm
  -- An index with nothing but a regular entry for the first name finds it.
  have hfound : (Index.ofRegular m.query ∅).lookupGiven m = some ⟨m.query, .regular, ∅⟩ :=
    Index.lookup_ofRegular m.query ∅
  rw [hquery]
  refine ⟨Iff.rfl, ⟨fun h i => ?_, fun h => ?_⟩, ⟨fun h => ?_, ?_⟩⟩
  · rw [Index.lookupGiven, Index.lookupGiven, h]
  · rw [h] at hfound
    exact Index.name_of_lookup_regular hfound rfl
  · refine ⟨_, _, rfl, hfound, ?_⟩
    rw [Index.lookupGiven, ← h]
    exact hfound
  · rintro ⟨i, e, hregular, hm, hn⟩
    rw [← Index.name_of_lookup_regular hm hregular, ← Index.name_of_lookup_regular hn hregular]

end NameOwners
