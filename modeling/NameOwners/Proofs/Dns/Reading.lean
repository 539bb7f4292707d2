import NameOwners.Proofs.Dns.Dots

/-!
Reading what is written. Whether a byte of a label is escaped depends on where it
stands, and an escape takes two characters or four; but whatever was chosen, the
reader takes the characters of one byte as that byte (`splitLabels_byteChars`). So
it finds the labels that were written (`splitLabels_dotted`), and different names
have different texts (`Name.text_inj`).
-/

namespace NameOwners.Dns

/-! ### Characters -/

theorem byteChar_eq_iff {b : UInt8} {c : Char} : byteChar b = c ↔ b.toNat = c.toNat := by
  rw [← Char.toNat_inj, toNat_byteChar]

theorem byteChar_injective : Function.Injective byteChar := by
  intro b c h
  rw [byteChar_eq_iff, toNat_byteChar] at h
  exact UInt8.toNat_inj.1 h

theorem map_map_byteChar_inj {ls ms : List Label} :
    ls.map (·.map byteChar) = ms.map (·.map byteChar) ↔ ls = ms := by
  have hlabel : ∀ l m : Label, l.map byteChar = m.map byteChar → l = m :=
    fun _ _ => (List.map_inj_right fun _ _ h => byteChar_injective h).1
  exact List.map_inj_right hlabel

theorem isPlain_iff {first : Bool} {b : UInt8} :
    isPlain first b = true ↔
      (48 ≤ b.toNat ∧ b.toNat ≤ 57) ∨ (65 ≤ b.toNat ∧ b.toNat ≤ 90) ∨
        (97 ≤ b.toNat ∧ b.toNat ≤ 122) ∨ b.toNat = 95 ∨ (b.toNat = 45 ∧ first = false) ∨
        (b.toNat = 42 ∧ first = true) := by
  simp [isPlain, isAlphanumeric, UInt8.le_iff_toNat_le, ← UInt8.toNat_inj, or_assoc]

/-- What is written as it is cannot be taken for the end of a label or for an escape. -/
theorem byteChar_of_isPlain {first : Bool} {b : UInt8} (h : isPlain first b = true) :
    byteChar b ≠ '.' ∧ byteChar b ≠ '\\' := by
  rw [isPlain_iff] at h
  simp only [ne_eq, byteChar_eq_iff, Char.reduceToNat]
  omega

/-- What is escaped by itself cannot be taken for the first digit of an octal escape. -/
theorem not_digit_of_not_isPlain {first : Bool} {b : UInt8} (h : ¬isPlain first b = true) :
    ¬('0' ≤ byteChar b ∧ byteChar b ≤ '9') := by
  rw [isPlain_iff] at h
  have hb : (byteChar b).val.toNat = b.toNat := toNat_byteChar b
  rintro ⟨hlo, hhi⟩
  rw [Char.le_def, UInt32.le_iff_toNat_le, hb] at hlo hhi
  simp only [Char.reduceVal, UInt32.reduceToNat] at hlo hhi
  omega

theorem octalDigit_mem_digits (n : Nat) : '0' ≤ octalDigit n ∧ octalDigit n ≤ '9' := by
  have hdigits : ∀ d < 8, '0' ≤ Char.ofNat (48 + d) ∧ Char.ofNat (48 + d) ≤ '9' := by decide
  exact hdigits (n % 8) (Nat.mod_lt n (by omega))

theorem octalValue?_octalDigit (n : Nat) : octalValue? (octalDigit n) = some (n % 8) := by
  have hdigits : ∀ d < 8, octalValue? (Char.ofNat (48 + d)) = some d := by decide
  exact hdigits (n % 8) (Nat.mod_lt n (by omega))

/-- The three octal digits of a byte make the byte. -/
theorem ofNat_octal_digits (b : UInt8) :
    Char.ofNat (b.toNat / 64 % 8 * 64 + b.toNat / 8 % 8 * 8 + b.toNat % 8) = byteChar b := by
  have hb : b.toNat < 256 := b.toNat_lt
  have hnat : b.toNat / 64 % 8 * 64 + b.toNat / 8 % 8 * 8 + b.toNat % 8 = b.toNat := by omega
  rw [hnat, byteChar]

/-! ### One step of the reader -/

theorem splitLabels_cons {c : Char} (hdot : c ≠ '.') (hslash : c ≠ '\\') (current cs : List Char) :
    splitLabels current (c :: cs) = splitLabels (c :: current) cs := by
  rw [splitLabels]
  · exact hdot
  · exact hslash

theorem splitLabels_escaped {c : Char} (h : ¬('0' ≤ c ∧ c ≤ '9')) (current cs : List Char) :
    splitLabels current ('\\' :: c :: cs) = splitLabels (c :: current) cs := by
  rw [splitLabels.eq_def]
  exact if_neg h

theorem splitLabels_octal (k m n : Nat) (current cs : List Char) :
    splitLabels current ('\\' :: octalDigit k :: octalDigit m :: octalDigit n :: cs) =
      splitLabels (Char.ofNat (k % 8 * 64 + m % 8 * 8 + n % 8) :: current) cs := by
  rw [splitLabels.eq_def]
  simp only [octalValue?_octalDigit]
  exact if_pos (octalDigit_mem_digits k)

theorem splitLabels_dot {current : List Char} (h : current ≠ []) (cs : List Char) :
    splitLabels current ('.' :: cs) = (splitLabels [] cs).map (current.reverse :: ·) := by
  rw [splitLabels, if_neg (by simpa using h)]

/-- However a byte is written, it is read as that byte. -/
theorem splitLabels_byteChars (current : List Char) (first : Bool) (b : UInt8) (cs : List Char) :
    splitLabels current (byteChars first b ++ cs) = splitLabels (byteChar b :: current) cs := by
  unfold byteChars
  split
  · rename_i hplain
    obtain ⟨hdot, hslash⟩ := byteChar_of_isPlain hplain
    exact splitLabels_cons hdot hslash current cs
  · rename_i hplain
    split
    · exact splitLabels_escaped (not_digit_of_not_isPlain hplain) current cs
    · rw [← ofNat_octal_digits b]
      exact splitLabels_octal (b.toNat / 64) (b.toNat / 8) b.toNat current cs

/-! ### Labels -/

theorem splitLabels_flatMap_byteChars (current : List Char) (bs : List UInt8) (cs : List Char) :
    splitLabels current (bs.flatMap (byteChars false) ++ cs) =
      splitLabels ((bs.map byteChar).reverse ++ current) cs := by
  induction bs generalizing current with
  | nil => rfl
  | cons b bs ih =>
      rw [List.flatMap_cons, List.append_assoc, splitLabels_byteChars, ih, List.map_cons,
        List.reverse_cons, List.append_assoc, List.singleton_append]

theorem splitLabels_labelChars (l : Label) (cs : List Char) :
    splitLabels [] (labelChars l ++ cs) = splitLabels (l.map byteChar).reverse cs := by
  cases l with
  | nil => rfl
  | cons b bs =>
      rw [labelChars, List.append_assoc, splitLabels_byteChars, splitLabels_flatMap_byteChars,
        List.map_cons, List.reverse_cons]

/-- The reader finds the labels that were written. -/
theorem splitLabels_dotted {ls : List Label} (h : ∀ l ∈ ls, l ≠ []) :
    splitLabels [] (dotted ls) = some (ls.map (·.map byteChar)) := by
  induction ls with
  | nil => rfl
  | cons l ls ih =>
      obtain ⟨hl, hls⟩ := List.forall_mem_cons.1 h
      have hcurrent : (l.map byteChar).reverse ≠ [] := by simpa using hl
      rw [dotted_cons, splitLabels_labelChars, splitLabels_dot hcurrent, ih hls,
        List.reverse_reverse, Option.map_some, List.map_cons]

/-! ### Names -/

/-- Different sequences of labels are written differently. That of no labels is the one
that begins with a dot. -/
theorem labelsChars_inj {ls ms : List Label} (hls : ∀ l ∈ ls, l ≠ []) (hms : ∀ m ∈ ms, m ≠ []) :
    labelsChars ls = labelsChars ms ↔ ls = ms := by
  refine ⟨fun h => ?_, congrArg _⟩
  by_cases hl : ls = []
  · by_cases hm : ms = []
    · rw [hl, hm]
    · rw [hl, labelsChars_of_ne_nil hm] at h
      exact absurd h.symm (dotted_ne_dot hm hms).2
  · by_cases hm : ms = []
    · rw [hm, labelsChars_of_ne_nil hl] at h
      exact absurd h (dotted_ne_dot hl hls).2
    · rw [labelsChars_of_ne_nil hl, labelsChars_of_ne_nil hm] at h
      have hread := congrArg (splitLabels []) h
      rw [splitLabels_dotted hls, splitLabels_dotted hms] at hread
      exact map_map_byteChar_inj.1 (Option.some.inj hread)

/-- Different names have different texts. -/
theorem Name.text_inj {m n : Name} : m.text = n.text ↔ m.labels = n.labels := by
  rw [text, text, String.ofList_inj]
  exact labelsChars_inj (fun _ => ne_nil_of_mem_labels) (fun _ => ne_nil_of_mem_labels)

end NameOwners.Dns
