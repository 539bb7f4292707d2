import NameOwners.Index.Lookup

/-!
The domains above a text. They are exactly what follows one of its dots, except
nothing and a single dot, from the longest to the shortest
(`mem_domainsAbove_iff`, `pairwise_domainsAbove`). That the list ends early
loses none of them: behind an empty domain there is no further dot, and behind a
single dot only the empty one.
-/

namespace NameOwners

/-- The first text is what follows one of the dots of the second. -/
def FollowsDot (s cs : List Char) : Prop :=
  ∃ p, cs = p ++ '.' :: s

@[simp] theorem not_followsDot_nil (s : List Char) : ¬FollowsDot s [] := by
  rintro ⟨p, h⟩
  simp at h

/-- What follows a dot follows the first character or begins later. -/
theorem followsDot_cons_iff {c : Char} {cs s : List Char} :
    FollowsDot s (c :: cs) ↔ (c = '.' ∧ s = cs) ∨ FollowsDot s cs := by
  constructor
  · rintro ⟨p, h⟩
    cases p with
    | nil =>
        obtain ⟨rfl, rfl⟩ := List.cons.inj h
        exact .inl ⟨rfl, rfl⟩
    | cons d p => exact .inr ⟨p, (List.cons.inj h).2⟩
  · rintro (⟨rfl, rfl⟩ | ⟨p, rfl⟩)
    · exact ⟨[], rfl⟩
    · exact ⟨c :: p, rfl⟩

theorem followsDot_append_iff {cs ds s : List Char} :
    FollowsDot s (cs ++ ds) ↔ (∃ t, FollowsDot t cs ∧ s = t ++ ds) ∨ FollowsDot s ds := by
  induction cs with
  | nil => simp
  | cons c cs ih =>
      rw [List.cons_append, followsDot_cons_iff, ih]
      constructor
      · rintro (⟨hc, rfl⟩ | ⟨t, ht, rfl⟩ | hs)
        · exact .inl ⟨cs, followsDot_cons_iff.2 (.inl ⟨hc, rfl⟩), rfl⟩
        · exact .inl ⟨t, followsDot_cons_iff.2 (.inr ht), rfl⟩
        · exact .inr hs
      · rintro (⟨t, ht, rfl⟩ | hs)
        · rcases followsDot_cons_iff.1 ht with ⟨hc, rfl⟩ | ht
          · exact .inl ⟨hc, rfl⟩
          · exact .inr (.inl ⟨t, ht, rfl⟩)
        · exact .inr (.inr hs)

theorem FollowsDot.length_lt {s cs : List Char} (h : FollowsDot s cs) : s.length < cs.length := by
  obtain ⟨p, rfl⟩ := h
  simp only [List.length_append, List.length_cons]
  omega

/-- Of all that follows dots of one text no two have the same length. -/
theorem FollowsDot.eq_of_length_eq {s t cs : List Char} (hs : FollowsDot s cs)
    (ht : FollowsDot t cs) (hlength : s.length = t.length) : s = t := by
  obtain ⟨p, rfl⟩ := hs
  obtain ⟨q, hq⟩ := ht
  have hsuffix : p ++ '.' :: s = q ++ '.' :: t → ('.' :: s) = '.' :: t := fun h =>
    (List.append_inj_right' h (by simp [hlength]))
  exact (List.cons.inj (hsuffix hq)).2

theorem mem_domainsAbove_iff {s cs : List Char} :
    s ∈ domainsAbove cs ↔ s ≠ [] ∧ s ≠ ['.'] ∧ FollowsDot s cs := by
  induction cs with
  | nil => simp [domainsAbove]
  | cons c cs ih =>
      rw [followsDot_cons_iff]
      by_cases hc : c = '.'
      · subst hc
        by_cases hstop : cs = [] ∨ cs = ['.']
        · -- The list ends here, and what is left has no dot with a domain behind it.
          rw [domainsAbove, if_pos rfl, if_pos hstop]
          rcases hstop with rfl | rfl
          · simp +contextual
          · rw [followsDot_cons_iff]
            simp +contextual
        · rw [domainsAbove, if_pos rfl, if_neg hstop, List.mem_cons, ih]
          constructor
          · rintro (rfl | ⟨hs, hd, hp⟩)
            · exact ⟨fun h => hstop (.inl h), fun h => hstop (.inr h), .inl ⟨rfl, rfl⟩⟩
            · exact ⟨hs, hd, .inr hp⟩
          · rintro ⟨hs, hd, ⟨-, rfl⟩ | hp⟩
            · exact .inl rfl
            · exact .inr ⟨hs, hd, hp⟩
      · rw [domainsAbove, if_neg hc, ih]
        simp [hc]

/-- Every domain is shorter than the ones before it. -/
theorem pairwise_domainsAbove (cs : List Char) :
    (domainsAbove cs).Pairwise (fun s t => t.length < s.length) := by
  induction cs with
  | nil => exact .nil
  | cons c cs ih =>
      rw [domainsAbove]
      split
      · split
        · exact .nil
        · exact .cons (fun t ht => (mem_domainsAbove_iff.1 ht).2.2.length_lt) ih
      · exact ih

example : domainsAbove "a..b..".toList = [".b..".toList, "b..".toList] := by decide

/-- The pattern of a domain as a text. -/
theorem wildcardPattern_eq (domain : List Char) :
    wildcardPattern domain = "*." ++ String.ofList domain := by
  rw [← String.toList_inj]
  simp [wildcardPattern]

/-! ### First hits

What a list of texts that get shorter and shorter answers first is what the
longest text with an answer has to say. -/

theorem findSome?_eq_some_iff_longest {α : Type} {f : List Char → Option α}
    {l : List (List Char)} (hl : l.Pairwise (fun s t => t.length < s.length)) {a : α} :
    l.findSome? f = some a ↔
      ∃ s ∈ l, f s = some a ∧ ∀ t ∈ l, s.length < t.length → f t = none := by
  induction l with
  | nil => simp
  | cons x l ih =>
      obtain ⟨hx, hl⟩ := List.pairwise_cons.1 hl
      rw [List.findSome?_cons]
      cases hfx : f x with
      | some b =>
          constructor
          · intro h
            refine ⟨x, by simp, by rw [hfx, ← h], ?_⟩
            intro t ht hlt
            rcases List.mem_cons.1 ht with rfl | ht
            · omega
            · have := hx t ht
              omega
          · rintro ⟨s, hs, hfs, hlonger⟩
            rcases List.mem_cons.1 hs with rfl | hs
            · rw [← hfs, hfx]
            · have hnone := hlonger x (by simp) (hx s hs)
              rw [hfx] at hnone
              cases hnone
      | none =>
          change l.findSome? f = some a ↔ _
          rw [ih hl]
          constructor
          · rintro ⟨s, hs, hfs, hlonger⟩
            refine ⟨s, by simp [hs], hfs, ?_⟩
            intro t ht hlt
            rcases List.mem_cons.1 ht with rfl | ht
            · exact hfx
            · exact hlonger t ht hlt
          · rintro ⟨s, hs, hfs, hlonger⟩
            rcases List.mem_cons.1 hs with rfl | hs
            · rw [hfx] at hfs
              cases hfs
            · exact ⟨s, hs, hfs, fun t ht => hlonger t (by simp [ht])⟩

/-- Leaving some of the domains above a text out does not matter exactly when a
longer domain that is still there answers for every one that would have. -/
theorem findSome?_domainsAbove_eq_iff {α : Type} {f : List Char → Option α} {cs : List Char}
    {l : List (List Char)} (hl : l.Pairwise (fun s t => t.length < s.length))
    (hsub : ∀ s ∈ l, s ∈ domainsAbove cs)
    (hinj : ∀ s t a, f s = some a → f t = some a → s = t) :
    (domainsAbove cs).findSome? f = l.findSome? f ↔
      ∀ s ∈ domainsAbove cs, s ∉ l → (f s).isSome →
        ∃ t ∈ l, (f t).isSome ∧ s.length < t.length := by
  constructor
  · intro heq s hs hsl hsome
    -- The text that is found is in both lists, and nothing longer answers.
    obtain ⟨a, ha⟩ := Option.isSome_iff_exists.1
      (List.findSome?_isSome_iff.2 ⟨s, hs, hsome⟩)
    obtain ⟨r, hr, hfr, hlonger⟩ := (findSome?_eq_some_iff_longest (pairwise_domainsAbove cs)).1 ha
    rw [heq] at ha
    obtain ⟨t, ht, hft, -⟩ := (findSome?_eq_some_iff_longest hl).1 ha
    obtain rfl := hinj r t a hfr hft
    refine ⟨r, ht, by simp [hft], ?_⟩
    rcases Nat.lt_trichotomy s.length r.length with hlt | hlength | hgt
    · exact hlt
    · have hsr := (mem_domainsAbove_iff.1 hs).2.2.eq_of_length_eq
        (mem_domainsAbove_iff.1 hr).2.2 hlength
      exact absurd (hsr ▸ ht) hsl
    · simp [hlonger s hs hgt] at hsome
  · intro h
    cases hfind : (domainsAbove cs).findSome? f with
    | none =>
        rw [List.findSome?_eq_none_iff] at hfind
        exact (List.findSome?_eq_none_iff.2 fun s hs => hfind s (hsub s hs)).symm
    | some a =>
        obtain ⟨s, hs, hfs, hlonger⟩ :=
          (findSome?_eq_some_iff_longest (pairwise_domainsAbove cs)).1 hfind
        refine ((findSome?_eq_some_iff_longest hl).2 ⟨s, ?_, hfs, ?_⟩).symm
        · -- Were it left out, something longer would have been found before it.
          refine Decidable.byContradiction fun hsl => ?_
          obtain ⟨t, ht, hft, hlt⟩ := h s hs hsl (by simp [hfs])
          simp [hlonger t (hsub t ht) hlt] at hft
        · exact fun t ht => hlonger t (hsub t ht)

end NameOwners
