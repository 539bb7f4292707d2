import NameOwners.Proofs.Dns.Dots
import NameOwners.Proofs.Index.LabelBoundary

/-!
Looking up a parsed name. The index is asked for the text of the name, but what
is meant are its labels: `Index.lookupByLabels` tries the name itself and then
the domains that are left of it, label by label. A dot inside a label is a dot
of the text as well, and this is the only way for the two to differ
(`lookupName_eq_lookupByLabels_iff`).
-/

namespace NameOwners

open Dns

/-! ### The domains of a name -/

namespace Dns.Name

def domainText (n : Name) (k : Nat) : String :=
  String.ofList (labelsChars (n.lower.labels.drop k))

def domains (n : Name) : List (List Char) :=
  (List.range' 1 (n.labels.length - 1)).map fun k => dotted (n.lower.labels.drop k)

theorem domainText_eq {n : Name} {k : Nat} (h : k < n.labels.length) :
    n.domainText k = String.ofList (dotted (n.lower.labels.drop k)) := by
  have hne : n.lower.labels.drop k ≠ [] := by
    rw [ne_eq, List.drop_eq_nil_iff, labels_lower, List.length_map]
    omega
  rw [domainText, labelsChars_of_ne_nil hne]

theorem mem_domains_iff {n : Name} {s : List Char} :
    s ∈ n.domains ↔ ∃ k, 1 ≤ k ∧ k < n.labels.length ∧ dotted (n.lower.labels.drop k) = s := by
  simp only [domains, List.mem_map, List.mem_range'_1]
  constructor
  · rintro ⟨k, hk, rfl⟩
    exact ⟨k, by omega, by omega, rfl⟩
  · rintro ⟨k, h1, hk, rfl⟩
    exact ⟨k, by omega, rfl⟩

theorem mem_domains_iff_split {n : Name} {s : List Char} :
    s ∈ n.domains ↔
      ∃ pre l post, n.lower.labels = pre ++ l :: post ∧ post ≠ [] ∧ s = dotted post := by
  have hlength : n.lower.labels.length = n.labels.length := by simp
  rw [mem_domains_iff, ← hlength]
  constructor
  · rintro ⟨k, h1, hk, rfl⟩
    have hsplit := (List.take_append_drop (k - 1) n.lower.labels).symm
    rw [List.drop_eq_getElem_cons (by omega), Nat.sub_add_cancel h1] at hsplit
    refine ⟨_, _, _, hsplit, ?_, rfl⟩
    rw [ne_eq, List.drop_eq_nil_iff]
    omega
  · rintro ⟨pre, l, post, h, hpost, rfl⟩
    have hpos : 0 < post.length := List.length_pos_iff.2 hpost
    refine ⟨pre.length + 1, by omega, ?_, ?_⟩
    · rw [h, List.length_append, List.length_cons]
      omega
    · rw [h]
      simp

theorem pairwise_domains (n : Name) :
    n.domains.Pairwise (fun s t => t.length < s.length) := by
  rw [domains, List.pairwise_map]
  refine List.Pairwise.imp_of_mem ?_ List.pairwise_lt_range'
  intro j k hj hk hlt
  rw [List.mem_range'_1] at hj
  exact length_dotted_drop_lt hlt (by simp; omega)

/-- The dots of a name's text are followed by the domains of the name, and by
what begins inside its labels. -/
theorem mem_domainsAbove_text_iff {n : Name} {s : List Char} :
    s ∈ domainsAbove n.lower.text.toList ↔
      s ∈ n.domains ∨ (BeginsInside s n.lower.labels ∧ s ≠ ['.']) := by
  rw [text, String.toList_ofList, mem_domainsAbove_iff]
  by_cases hroot : n.lower.labels = []
  · -- The text of the root is a single dot, and nothing stands behind it.
    have hdomains : ¬s ∈ n.domains := by
      rw [mem_domains_iff_split, hroot]
      simp
    have hinside : ¬BeginsInside s [] := by simp [BeginsInside]
    rw [hroot]
    simp only [hdomains, hinside, false_and, or_self, iff_false]
    rintro ⟨hs, hd, h⟩
    rw [labelsChars, labelsCharsBy, followsDot_cons_iff] at h
    simp [hs] at h
  · rw [labelsChars_of_ne_nil hroot, followsDot_dotted_iff, mem_domains_iff_split]
    constructor
    · rintro ⟨hs, hd, ⟨pre, l, post, h, rfl⟩ | hinside⟩
      · refine .inl ⟨pre, l, post, h, ?_, rfl⟩
        rintro rfl
        exact hs rfl
      · exact .inr ⟨hinside, hd⟩
    · rintro (⟨pre, l, post, h, hpost, rfl⟩ | ⟨hinside, hd⟩)
      · -- A label is not empty, so what is left is neither nothing nor the root.
        have hlabels : ∀ m ∈ post, m ≠ [] := by
          intro m hm
          exact ne_nil_of_mem_labels (n := n.lower) (by rw [h]; simp [hm])
        obtain ⟨hs, hd⟩ := dotted_ne_dot hpost hlabels
        exact ⟨hs, hd, .inl ⟨pre, l, post, h, rfl⟩⟩
      · refine ⟨?_, hd, .inr hinside⟩
        obtain ⟨_, _, v, post, -, rfl⟩ := hinside
        simp

/-- What begins inside a label is no domain of the name. -/
theorem not_mem_domains_of_beginsInside {n : Name} {s : List Char}
    (h : BeginsInside s n.lower.labels) : s ∉ n.domains := by
  intro hs
  obtain ⟨k, -, -, hk⟩ := mem_domains_iff.1 hs
  exact dotted_drop_ne_of_beginsInside h k hk

end Dns.Name

/-! ### Looking up by labels -/

/-- The most specific entry for a name by its labels: the regular entry of the
name, or else the wildcard entry of the first domain left of it that has one. -/
def Index.lookupByLabels (i : Index) (n : Dns.Name) : Option Match :=
  match i.regular.get? (n.domainText 0) with
  | some owners => some ⟨n.domainText 0, .regular, owners⟩
  | none =>
    (List.range' 1 (n.labels.length - 1)).findSome? fun k =>
      (i.wildcard.get? ("*." ++ n.domainText k)).map fun owners =>
        ⟨"*." ++ n.domainText k, .wildcard, owners⟩

namespace Index

variable {i : Index} {n : Dns.Name}

theorem wildcardMatch_injective {s t : List Char} {m : Match} (hs : i.wildcardMatch s = some m)
    (ht : i.wildcardMatch t = some m) : s = t := by
  obtain ⟨_, -, rfl⟩ := Option.map_eq_some_iff.1 hs
  obtain ⟨_, -, h⟩ := Option.map_eq_some_iff.1 ht
  have hpattern := String.ofList_injective (congrArg Match.name h)
  simpa using hpattern.symm

theorem isSome_wildcardMatch (s : List Char) :
    (i.wildcardMatch s).isSome = (i.wildcard.get? ("*." ++ String.ofList s)).isSome := by
  simp [wildcardMatch, wildcardPattern_eq]

theorem lookupByLabels_eq :
    i.lookupByLabels n =
      match i.regularMatch n.lower.text with
      | some m => some m
      | none => n.domains.findSome? i.wildcardMatch := by
  have htext : n.domainText 0 = n.lower.text := rfl
  have hdomains : n.domains.findSome? i.wildcardMatch =
      (List.range' 1 (n.labels.length - 1)).findSome? fun k =>
        (i.wildcard.get? ("*." ++ n.domainText k)).map fun owners =>
          ⟨"*." ++ n.domainText k, .wildcard, owners⟩ := by
    have hmap : n.domains =
        (List.range' 1 (n.labels.length - 1)).map fun k => (n.domainText k).toList := by
      refine List.map_congr_left fun k hk => ?_
      rw [List.mem_range'_1] at hk
      rw [Dns.Name.domainText_eq (by omega), String.toList_ofList]
    rw [hmap, List.findSome?_map]
    congr 1
    funext k
    simp [wildcardMatch, wildcardPattern_eq]
  rw [lookupByLabels, hdomains, htext, regularMatch]
  cases i.regular.get? n.lower.text <;> rfl

/-- Where no regular entry answers, asking for the text finds what asking for
the labels finds unless an entry that begins inside a label comes first. -/
theorem lookupName_eq_iff_of_no_regular (h : i.regularMatch n.lower.text = none) :
    i.lookupName n = i.lookupByLabels n ↔
      ∀ s, BeginsInside s n.lower.labels → s ≠ ['.'] → (i.wildcardMatch s).isSome →
        ∃ t ∈ n.domains, (i.wildcardMatch t).isSome ∧ s.length < t.length := by
  rw [lookupName, lookup, lookupByLabels_eq, h, wildcardMatches_eq]
  simp only [List.head?_filterMap]
  rw [findSome?_domainsAbove_eq_iff n.pairwise_domains
    (fun s hs => Dns.Name.mem_domainsAbove_text_iff.2 (.inl hs))
    (fun s t m => wildcardMatch_injective)]
  constructor
  · intro hall s hinside hd hsome
    exact hall s (Dns.Name.mem_domainsAbove_text_iff.2 (.inr ⟨hinside, hd⟩))
      (Dns.Name.not_mem_domains_of_beginsInside hinside) hsome
  · intro hall s hs hsl hsome
    rcases Dns.Name.mem_domainsAbove_text_iff.1 hs with hs | ⟨hinside, hd⟩
    · exact absurd hs hsl
    · exact hall s hinside hd hsome

/-! ### When text and labels agree -/

/-- The name has a regular entry, or every stored entry for a domain that begins
inside a label has a longer domain of the name stored beside it. A single dot is
no domain. -/
def PrefersLabels (i : Index) (n : Dns.Name) : Prop :=
  (∃ owners, i.regular.get? (n.domainText 0) = some owners) ∨
    ∀ s, BeginsInside s n.lower.labels → s ≠ ['.'] →
      (i.wildcard.get? ("*." ++ String.ofList s)).isSome →
      ∃ k, 1 ≤ k ∧ k < n.labels.length ∧ (i.wildcard.get? ("*." ++ n.domainText k)).isSome ∧
        s.length < (n.domainText k).length

theorem exists_mem_domains_iff {s : List Char} :
    (∃ t ∈ n.domains, (i.wildcardMatch t).isSome ∧ s.length < t.length) ↔
      ∃ k, 1 ≤ k ∧ k < n.labels.length ∧ (i.wildcard.get? ("*." ++ n.domainText k)).isSome ∧
        s.length < (n.domainText k).length := by
  constructor
  · rintro ⟨t, ht, hsome, hlt⟩
    obtain ⟨k, h1, hk, rfl⟩ := Dns.Name.mem_domains_iff.1 ht
    rw [isSome_wildcardMatch] at hsome
    refine ⟨k, h1, hk, ?_⟩
    rw [Dns.Name.domainText_eq hk]
    exact ⟨hsome, by simpa using hlt⟩
  · rintro ⟨k, h1, hk, hsome, hlt⟩
    rw [Dns.Name.domainText_eq hk] at hsome hlt
    refine ⟨_, Dns.Name.mem_domains_iff.2 ⟨k, h1, hk, rfl⟩, ?_, by simpa using hlt⟩
    rw [isSome_wildcardMatch]
    exact hsome

theorem lookupName_eq_iff_prefersLabels (i : Index) (n : Dns.Name) :
    i.lookupName n = i.lookupByLabels n ↔ i.PrefersLabels n := by
  have htext : n.domainText 0 = n.lower.text := rfl
  cases hregular : i.regular.get? n.lower.text with
  | some owners =>
      have hmatch : i.regularMatch n.lower.text = some ⟨n.lower.text, .regular, owners⟩ := by
        rw [regularMatch, hregular]
        rfl
      rw [lookupName, lookup, lookupByLabels_eq, hmatch]
      simp [PrefersLabels, htext, hregular]
  | none =>
      have hmatch : i.regularMatch n.lower.text = none := by
        rw [regularMatch, hregular]
        rfl
      rw [lookupName_eq_iff_of_no_regular hmatch, PrefersLabels, htext, hregular]
      simp only [exists_mem_domains_iff]
      simp only [isSome_wildcardMatch, reduceCtorEq, exists_false, false_or]

def ofWildcard (pattern : String) (owners : Owners) : Index where
  wildcard := (∅ : Dictionary Owners).insert pattern owners

theorem forall_prefersLabels_iff (n : Dns.Name) :
    (∀ i : Index, i.PrefersLabels n) ↔ DotsOnlyAtEnd n.labels := by
  rw [← dotsOnlyAtEnd_lower_iff, ← Dns.Name.labels_lower, ← forall_beginsInside_eq_dot_iff]
  constructor
  · intro h s hinside
    refine Decidable.byContradiction fun hd => ?_
    -- An index with nothing but the entry for this domain finds it by the text.
    rcases h (ofWildcard ("*." ++ String.ofList s) ((∅ : Owners).insert "ns" "object")) with
      ⟨owners, hregular⟩ | hstored
    · simp [ofWildcard] at hregular
    · obtain ⟨k, -, hk, hsome, -⟩ := hstored s hinside hd (by simp [ofWildcard])
      have hkey : n.domainText k = String.ofList s := by simpa [ofWildcard] using hsome
      rw [Dns.Name.domainText_eq hk] at hkey
      exact dotted_drop_ne_of_beginsInside hinside k (String.ofList_injective hkey)
  · intro h i
    exact .inr fun s hinside hd => absurd (h s hinside) hd

end Index

/-- When asking for the text of a name finds what asking for its labels finds.
For a single index, exactly if no entry for a domain that begins inside a label
comes first. For all of them, exactly if the only dot inside the labels, if
there is one, is the last byte of the last label. -/
theorem lookupName_eq_lookupByLabels_iff (n : Dns.Name) :
    (∀ i : Index, i.lookupName n = i.lookupByLabels n ↔ i.PrefersLabels n) ∧
      ((∀ i : Index, i.lookupName n = i.lookupByLabels n) ↔ DotsOnlyAtEnd n.labels) := by
  have hone : ∀ i : Index, i.lookupName n = i.lookupByLabels n ↔ i.PrefersLabels n :=
    fun i => i.lookupName_eq_iff_prefersLabels n
  refine ⟨hone, ?_⟩
  rw [← Index.forall_prefersLabels_iff]
  exact forall_congr' hone

/-- The name with the labels a.b and com finds the entry for *.b.com, although no
label of it begins with b. -/
theorem lookupName_begins_inside_label :
    let n : Dns.Name := ⟨[[97, 46, 98], [99, 111, 109]], by decide⟩
    let i := Index.ofWildcard "*.b.com." ((∅ : Owners).insert "ns" "o")
    (i.lookupName n).map Match.name = some "*.b.com." ∧ i.lookupByLabels n = none := by
  decide

end NameOwners
