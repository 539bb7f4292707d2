import NameOwners.Proofs.Domains

/-!
Which entries a text matches: the regular one with exactly this text, and the
wildcard ones for what follows one of its dots, as long as that is neither
nothing nor a single dot (`allMatches_at_label_boundaries`).
-/

namespace NameOwners

namespace Index

variable (i : Index) (query : String)

/-- Not looking at the domains while there is no wildcard entry loses none. -/
theorem wildcardMatches_eq :
    i.wildcardMatches query = (domainsAbove query.toList).filterMap i.wildcardMatch := by
  unfold wildcardMatches
  split
  · rename_i hempty
    have hnone : ∀ domain, i.wildcardMatch domain = none := by
      intro domain
      rw [wildcardMatch, Dictionary.isEmpty_iff.1 hempty]
      rfl
    exact (List.filterMap_eq_nil_iff.2 fun domain _ => hnone domain).symm
  · rfl

/-- The domains above a query for whose names there is an entry, with its
owners. -/
def wildcardsAbove : List (String × Owners) :=
  (domainsAbove query.toList).filterMap fun domain =>
    (i.wildcard.get? (wildcardPattern domain)).map fun owners => (String.ofList domain, owners)

theorem allMatches_eq :
    i.allMatches query =
      ((i.regular.get? query).map fun owners => ⟨query, .regular, owners⟩).toList ++
        (i.wildcardsAbove query).map fun a => ⟨"*." ++ a.1, .wildcard, a.2⟩ := by
  have h : i.wildcardMatch = fun domain =>
      ((i.wildcard.get? (wildcardPattern domain)).map fun owners =>
        (String.ofList domain, owners)).map fun a => (⟨"*." ++ a.1, .wildcard, a.2⟩ : Match) := by
    funext domain
    simp only [wildcardMatch, wildcardPattern_eq, Option.map_map]
    rfl
  rw [allMatches, wildcardMatches_eq, h, wildcardsAbove, List.map_filterMap]
  rfl

theorem mem_wildcardsAbove_iff {s : String} {owners : Owners} :
    (s, owners) ∈ i.wildcardsAbove query ↔
      s ≠ "" ∧ s ≠ "." ∧ (∃ l, query = l ++ "." ++ s) ∧
        i.wildcard.get? ("*." ++ s) = some owners := by
  have hfollows : FollowsDot s.toList query.toList ↔ ∃ l, query = l ++ "." ++ s := by
    constructor
    · rintro ⟨p, h⟩
      refine ⟨String.ofList p, ?_⟩
      rw [← String.toList_inj]
      simp [h]
    · rintro ⟨l, rfl⟩
      exact ⟨l.toList, by simp⟩
  have hmem : s.toList ∈ domainsAbove query.toList ↔
      s ≠ "" ∧ s ≠ "." ∧ ∃ l, query = l ++ "." ++ s := by
    rw [mem_domainsAbove_iff, hfollows, ne_eq, ne_eq, String.toList_eq_nil_iff]
    have hdot : s.toList = ['.'] ↔ s = "." := @String.toList_inj s "."
    rw [hdot]
  simp only [wildcardsAbove, List.mem_filterMap, Option.map_eq_some_iff, Prod.mk.injEq]
  constructor
  · rintro ⟨domain, hdomain, _, hget, rfl, rfl⟩
    rw [← String.toList_ofList (l := domain), hmem] at hdomain
    rw [wildcardPattern_eq] at hget
    exact ⟨hdomain.1, hdomain.2.1, hdomain.2.2, hget⟩
  · rintro ⟨hs, hd, hp, hget⟩
    refine ⟨s.toList, hmem.2 ⟨hs, hd, hp⟩, owners, ?_, String.ofList_toList, rfl⟩
    rw [wildcardPattern_eq, String.ofList_toList]
    exact hget

theorem pairwise_wildcardsAbove :
    (i.wildcardsAbove query).Pairwise (fun a b => b.1.length < a.1.length) := by
  refine List.Pairwise.filterMap _ ?_ (pairwise_domainsAbove query.toList)
  intro s t hlt a ha b hb
  obtain ⟨_, -, rfl⟩ := Option.map_eq_some_iff.1 ha
  obtain ⟨_, -, rfl⟩ := Option.map_eq_some_iff.1 hb
  simpa using hlt

/-- What is stored under the text of a query itself is more specific than any pattern. -/
theorem lookup_of_regular {owners : Owners} (h : i.regular.get? query = some owners) :
    i.lookup query = some ⟨query, .regular, owners⟩ := by
  rw [lookup, regularMatch, h]
  rfl

theorem lookup_of_no_regular (h : i.regular.get? query = none) :
    i.lookup query = (i.wildcardMatches query).head? := by
  rw [lookup, regularMatch, h]
  rfl

/-- Both ways to query agree: the most specific match is the first of all. -/
theorem lookup_eq_head? : i.lookup query = (i.allMatches query).head? := by
  unfold lookup allMatches
  cases i.regularMatch query with
  | some m => rfl
  | none => simp

theorem pattern_ne_of_mem_wildcardsAbove {a : String × Owners} (h : a ∈ i.wildcardsAbove query) :
    "*." ++ a.1 ≠ "*." ∧ "*." ++ a.1 ≠ "*.." := by
  obtain ⟨hs, hd, -, -⟩ := (i.mem_wildcardsAbove_iff query).1 h
  constructor
  · intro heq
    exact hs ((String.append_right_inj "*.").1 (heq.trans (String.append_empty (s := "*.")).symm))
  · intro heq
    exact hd ((String.append_right_inj "*.").1 (heq.trans (by decide)))

end Index

/-- A query matches the regular entry with exactly its text, and after it the
entries for the domains that begin right after one of its dots, from the longest
domain to the shortest. Nothing and a single dot are no domains. The most
specific match is the first of them all. -/
theorem allMatches_at_label_boundaries (i : Index) (query : String) :
    (∃ above : List (String × Owners),
      i.allMatches query =
        ((i.regular.get? query).map fun owners => ⟨query, .regular, owners⟩).toList ++
          above.map (fun a => ⟨"*." ++ a.1, .wildcard, a.2⟩) ∧
      (∀ s owners, (s, owners) ∈ above ↔
        s ≠ "" ∧ s ≠ "." ∧ (∃ l, query = l ++ "." ++ s) ∧
          i.wildcard.get? ("*." ++ s) = some owners) ∧
      above.Pairwise (fun a b => b.1.length < a.1.length)) ∧
    i.lookup query = (i.allMatches query).head? ∧
    ∀ m ∈ i.allMatches query, m.partition = .wildcard → m.name ≠ "*." ∧ m.name ≠ "*.." := by
  refine ⟨⟨i.wildcardsAbove query, i.allMatches_eq query,
    fun s owners => i.mem_wildcardsAbove_iff query, i.pairwise_wildcardsAbove query⟩,
    i.lookup_eq_head? query, ?_⟩
  intro m hm hwild
  rw [Index.allMatches_eq, List.mem_append] at hm
  rcases hm with hm | hm
  · obtain ⟨owners, -, rfl⟩ := Option.map_eq_some_iff.1 (Option.mem_toList.1 hm)
    cases hwild
  · obtain ⟨a, ha, rfl⟩ := List.mem_map.1 hm
    exact i.pattern_ne_of_mem_wildcardsAbove query ha

end NameOwners
