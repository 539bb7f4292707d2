import NameOwners.Dns.Presentation
import NameOwners.Proofs.Domains

/-!
The dots in the text of a name. Every label ends in one, and a dot inside a
label is written as one too, behind a backslash. So what follows a dot in the
text is either the text of the labels behind some label, or it begins inside a
label (`followsDot_dotted_iff`), and the two are never the same text
(`dotted_drop_ne_of_beginsInside`).
-/

namespace NameOwners.Dns

abbrev dotByte : UInt8 := 46

/-! ### Bytes and labels -/

theorem toNat_byteChar (b : UInt8) : (byteChar b).toNat = b.toNat := by
  have hb : b.toNat < 256 := b.toNat_lt
  have hvalid : b.toNat.isValidChar := .inl (by omega)
  rw [byteChar, Char.ofNat, dif_pos hvalid]
  rfl

theorem byteChar_eq_dot_iff {b : UInt8} : byteChar b = '.' ↔ b = dotByte := by
  constructor
  · intro h
    have hnat : b.toNat = 46 := by rw [← toNat_byteChar, h]; rfl
    exact UInt8.toNat_inj.1 hnat
  · rintro rfl
    rfl

theorem octalDigit_ne_dot (n : Nat) : octalDigit n ≠ '.' := by
  have hdigits : ∀ d < 8, Char.ofNat (48 + d) ≠ '.' := by decide
  exact hdigits (n % 8) (Nat.mod_lt n (by omega))

@[simp] theorem byteChars_dot (first : Bool) : byteChars first dotByte = ['\\', '.'] := by
  cases first <;> rfl

/-- A written byte holds a dot only if it is one, and then at its end. -/
theorem followsDot_byteChars_append_iff {first : Bool} {b : UInt8} {s cs : List Char} :
    FollowsDot s (byteChars first b ++ cs) ↔ (b = dotByte ∧ s = cs) ∨ FollowsDot s cs := by
  by_cases hb : b = dotByte
  · subst hb
    simp [followsDot_cons_iff]
  · have hchar : byteChar b ≠ '.' := fun h => hb (byteChar_eq_dot_iff.1 h)
    unfold byteChars
    split
    · simp [followsDot_cons_iff, hchar, hb]
    · split
      · simp [followsDot_cons_iff, hchar, hb]
      · simp [followsDot_cons_iff, octalDigit_ne_dot, hb]

theorem exists_split_cons_iff {b : UInt8} {bs : List UInt8} {P : List UInt8 → Prop} :
    (∃ u v, b :: bs = u ++ dotByte :: v ∧ P v) ↔
      (b = dotByte ∧ P bs) ∨ ∃ u v, bs = u ++ dotByte :: v ∧ P v := by
  constructor
  · rintro ⟨u, v, h, hv⟩
    cases u with
    | nil =>
        obtain ⟨rfl, rfl⟩ := List.cons.inj h
        exact .inl ⟨rfl, hv⟩
    | cons c u => exact .inr ⟨u, v, (List.cons.inj h).2, hv⟩
  · rintro (⟨rfl, hv⟩ | ⟨u, v, rfl, hv⟩)
    · exact ⟨[], bs, rfl, hv⟩
    · exact ⟨b :: u, v, rfl, hv⟩

theorem followsDot_flatMap_byteChars_iff {bs : List UInt8} {s : List Char} :
    FollowsDot s (bs.flatMap (byteChars false)) ↔
      ∃ u v, bs = u ++ dotByte :: v ∧ s = v.flatMap (byteChars false) := by
  induction bs with
  | nil => simp
  | cons b bs ih =>
      rw [List.flatMap_cons, followsDot_byteChars_append_iff, ih, exists_split_cons_iff]

/-- The dots in a written label are those among its bytes. -/
theorem followsDot_labelChars_iff {l : Label} {s : List Char} :
    FollowsDot s (labelChars l) ↔
      ∃ u v, l = u ++ dotByte :: v ∧ s = v.flatMap (byteChars false) := by
  cases l with
  | nil => simp [labelChars]
  | cons b bs =>
      rw [labelChars, followsDot_byteChars_append_iff, followsDot_flatMap_byteChars_iff,
        exists_split_cons_iff]

theorem byteChars_ne_nil (first : Bool) (b : UInt8) : byteChars first b ≠ [] := by
  unfold byteChars
  split
  · simp
  · split <;> simp

theorem labelChars_ne_nil {l : Label} (h : l ≠ []) : labelChars l ≠ [] := by
  cases l with
  | nil => exact absurd rfl h
  | cons b bs => simp [labelChars, byteChars_ne_nil]

theorem Name.ne_nil_of_mem_labels {n : Name} {l : Label} (h : l ∈ n.labels) : l ≠ [] := by
  have hfit := (n.fit.1 l h).1
  rintro rfl
  simp at hfit

/-! ### Sequences of labels -/

def dotted (ls : List Label) : List Char :=
  ls.flatMap fun l => labelChars l ++ ['.']

@[simp] theorem dotted_nil : dotted [] = [] := rfl

@[simp] theorem dotted_cons (l : Label) (ls : List Label) :
    dotted (l :: ls) = labelChars l ++ '.' :: dotted ls := by
  simp [dotted]

@[simp] theorem dotted_append (ls ms : List Label) :
    dotted (ls ++ ms) = dotted ls ++ dotted ms := by
  simp [dotted]

theorem labelsChars_of_ne_nil {ls : List Label} (h : ls ≠ []) : labelsChars ls = dotted ls := by
  cases ls with
  | nil => exact absurd rfl h
  | cons l ls => rfl

/-- No sequence of labels looks like nothing or like the root. -/
theorem dotted_ne_dot {ls : List Label} (hls : ls ≠ []) (hl : ∀ l ∈ ls, l ≠ []) :
    dotted ls ≠ [] ∧ dotted ls ≠ ['.'] := by
  cases ls with
  | nil => exact absurd rfl hls
  | cons l ls =>
      have hne : labelChars l ≠ [] := labelChars_ne_nil (hl l (by simp))
      rw [dotted_cons]
      constructor
      · simp
      · intro h
        cases hc : labelChars l with
        | nil => exact hne hc
        | cons c cs => simp [hc] at h

/-- A text that begins after a dot inside a label, and goes on to the end. -/
def BeginsInside (s : List Char) (ls : List Label) : Prop :=
  ∃ pre u v post, ls = pre ++ (u ++ dotByte :: v) :: post ∧
    s = v.flatMap (byteChars false) ++ '.' :: dotted post

/-- What follows a dot begins behind a label or inside one. -/
theorem followsDot_dotted_iff {ls : List Label} {s : List Char} :
    FollowsDot s (dotted ls) ↔
      (∃ pre l post, ls = pre ++ l :: post ∧ s = dotted post) ∨ BeginsInside s ls := by
  induction ls with
  | nil => simp [BeginsInside]
  | cons l ls ih =>
      rw [dotted_cons, followsDot_append_iff, followsDot_cons_iff, ih]
      simp only [followsDot_labelChars_iff]
      constructor
      · rintro (⟨_, ⟨u, v, rfl, rfl⟩, rfl⟩ | ⟨-, rfl⟩ | ⟨pre, m, post, rfl, rfl⟩ |
          ⟨pre, u, v, post, rfl, rfl⟩)
        · exact .inr ⟨[], u, v, ls, rfl, rfl⟩
        · exact .inl ⟨[], l, ls, rfl, rfl⟩
        · exact .inl ⟨l :: pre, m, post, rfl, rfl⟩
        · exact .inr ⟨l :: pre, u, v, post, rfl, rfl⟩
      · rintro (⟨pre, m, post, h, rfl⟩ | ⟨pre, u, v, post, h, rfl⟩)
        · rcases List.cons_eq_append_iff.1 h with ⟨rfl, hm⟩ | ⟨pre', rfl, rfl⟩
          · obtain ⟨rfl, rfl⟩ := List.cons.inj hm
            exact .inr (.inl ⟨trivial, rfl⟩)
          · exact .inr (.inr (.inl ⟨pre', m, post, rfl, rfl⟩))
        · rcases List.cons_eq_append_iff.1 h with ⟨rfl, hm⟩ | ⟨pre', rfl, rfl⟩
          · obtain ⟨rfl, rfl⟩ := List.cons.inj hm
            exact .inl ⟨_, ⟨u, v, rfl, rfl⟩, rfl⟩
          · exact .inr (.inr (.inr ⟨pre', u, v, post, rfl, rfl⟩))

/-! ### Lengths -/

theorem length_dotted_drop_le (ls : List Label) {j k : Nat} (h : j ≤ k) :
    (dotted (ls.drop k)).length ≤ (dotted (ls.drop j)).length := by
  have hsplit := List.take_append_drop (k - j) (ls.drop j)
  rw [List.drop_drop, Nat.add_sub_cancel' h] at hsplit
  have hlength := congrArg (fun ms => (dotted ms).length) hsplit
  simp only [dotted_append, List.length_append] at hlength
  omega

theorem length_dotted_drop_lt {ls : List Label} {j k : Nat} (h : j < k) (hj : j < ls.length) :
    (dotted (ls.drop k)).length < (dotted (ls.drop j)).length := by
  have hle : (dotted (ls.drop k)).length ≤ (dotted (ls.drop (j + 1))).length :=
    length_dotted_drop_le ls h
  rw [List.drop_eq_getElem_cons hj, dotted_cons, List.length_append, List.length_cons]
  omega

/-- What begins inside a label is not what is left behind any label. -/
theorem dotted_drop_ne_of_beginsInside {ls : List Label} {s : List Char} (h : BeginsInside s ls)
    (k : Nat) : dotted (ls.drop k) ≠ s := by
  obtain ⟨pre, u, v, post, rfl, rfl⟩ := h
  intro heq
  have hinside : (v.flatMap (byteChars false)).length <
      (labelChars (u ++ dotByte :: v)).length :=
    (followsDot_labelChars_iff.2 ⟨u, v, rfl, rfl⟩).length_lt
  have hlength := congrArg List.length heq
  rw [List.length_append, List.length_cons] at hlength
  rcases Nat.lt_or_ge pre.length k with hk | hk
  · -- Behind the label in question less is left than what begins inside it.
    have hle := length_dotted_drop_le (pre ++ (u ++ dotByte :: v) :: post)
      (j := pre.length + 1) hk
    have hpost : (pre ++ (u ++ dotByte :: v) :: post).drop (pre.length + 1) = post := by
      simp
    rw [hpost] at hle
    omega
  · -- With the label in question more is left.
    have hle := length_dotted_drop_le (pre ++ (u ++ dotByte :: v) :: post) hk
    rw [List.drop_left, dotted_cons, List.length_append, List.length_cons] at hle
    omega

/-! ### Names without dots inside labels -/

/-- The only dot inside the labels, if there is one, is the last byte of the last
label. -/
def DotsOnlyAtEnd (ls : List Label) : Prop :=
  (∀ l ∈ ls.dropLast, dotByte ∉ l) ∧ ∀ l ∈ ls.getLast?, dotByte ∉ l.dropLast

theorem lowerByte_eq_dot_iff {b : UInt8} : lowerByte b = dotByte ↔ b = dotByte := by
  unfold lowerByte
  split
  · rename_i h
    simp only [UInt8.le_iff_toNat_le, ← UInt8.toNat_inj, UInt8.toNat_add] at h ⊢
    simp only [dotByte, UInt8.reduceToNat] at h ⊢
    omega
  · rfl

theorem dotsOnlyAtEnd_lower_iff {ls : List Label} :
    DotsOnlyAtEnd (ls.map (·.map lowerByte)) ↔ DotsOnlyAtEnd ls := by
  have hmem : ∀ l : Label, dotByte ∈ l.map lowerByte ↔ dotByte ∈ l := by
    intro l
    simp [lowerByte_eq_dot_iff]
  unfold DotsOnlyAtEnd
  rw [← List.map_dropLast, List.getLast?_map]
  simp [hmem, ← List.map_dropLast]

/-- Then nothing that counts begins inside a label, and only then. -/
theorem forall_beginsInside_eq_dot_iff {ls : List Label} :
    (∀ s, BeginsInside s ls → s = ['.']) ↔ DotsOnlyAtEnd ls := by
  constructor
  · intro h
    constructor
    · -- Behind a dot in an earlier label at least the last label is left.
      intro l hl hdot
      obtain ⟨pre, mid, hmid⟩ := List.append_of_mem hl
      obtain ⟨u, v, rfl⟩ := List.append_of_mem hdot
      have hls : ls ≠ [] := by
        rintro rfl
        simp at hl
      have hsplit : ls = pre ++ (u ++ dotByte :: v) :: (mid ++ [ls.getLast hls]) := by
        rw [← List.cons_append, ← List.append_assoc, ← hmid, List.dropLast_concat_getLast]
      have hlength := congrArg List.length (h _ ⟨pre, u, v, _, hsplit, rfl⟩)
      simp at hlength
      omega
    · -- Behind an earlier dot in the last label at least its last byte is left.
      intro l hl hdot
      obtain ⟨pre, rfl⟩ := List.getLast?_eq_some_iff.1 hl
      obtain ⟨u, v, huv⟩ := List.append_of_mem hdot
      have hne : l ≠ [] := by
        rintro rfl
        simp at hdot
      have hsplit : l = u ++ dotByte :: (v ++ [l.getLast hne]) := by
        rw [← List.cons_append, ← List.append_assoc, ← huv, List.dropLast_concat_getLast]
      have hlabels : pre ++ [l] = pre ++ (u ++ dotByte :: (v ++ [l.getLast hne])) :: [] := by
        rw [← hsplit]
      have hpos := List.length_pos_iff.2 (byteChars_ne_nil false (l.getLast hne))
      have hlength := congrArg List.length (h _ ⟨pre, u, _, [], hlabels, rfl⟩)
      simp at hlength
      omega
  · rintro ⟨hinit, hlast⟩ s ⟨pre, u, v, post, rfl, rfl⟩
    have hpost : post = [] := by
      refine Decidable.byContradiction fun hne => hinit (u ++ dotByte :: v) ?_ (by simp)
      rw [List.dropLast_append_of_ne_nil (by simp), List.dropLast_cons_of_ne_nil hne]
      simp
    subst hpost
    have hv : v = [] := by
      refine Decidable.byContradiction fun hne => hlast (u ++ dotByte :: v) (by simp) ?_
      rw [List.dropLast_append_of_ne_nil (by simp), List.dropLast_cons_of_ne_nil hne]
      simp
    subst hv
    rfl

end NameOwners.Dns
