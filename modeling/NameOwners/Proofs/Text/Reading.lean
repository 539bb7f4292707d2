import NameOwners.Text.Digits
import NameOwners.Text.Split

/-!
What it takes to read a text from left to right. What takes a run of characters takes
all of them if what follows is not of their kind. The digits of a number stand for that
number, in every radix up to sixteen (`digitsValue_toDigits`), and only zero begins with a
zero. Parts with separators between them are read one by one, each but the first with
the separator before it (`listed`).
-/

namespace NameOwners.Text

/-! ### Runs of characters -/

section Runs

variable {p : Char → Bool} {cs rest : List Char}

theorem takeWhile_of_stop (hrest : ∀ c ∈ rest.head?, p c = false) : rest.takeWhile p = [] := by
  cases rest with
  | nil => rfl
  | cons c rest => simp [hrest c rfl]

theorem dropWhile_of_stop (hrest : ∀ c ∈ rest.head?, p c = false) : rest.dropWhile p = rest := by
  cases rest with
  | nil => rfl
  | cons c rest => simp [hrest c rfl]

theorem takeWhile_append_of_stop (hcs : ∀ c ∈ cs, p c = true)
    (hrest : ∀ c ∈ rest.head?, p c = false) : (cs ++ rest).takeWhile p = cs := by
  rw [List.takeWhile_append_of_pos hcs, takeWhile_of_stop hrest, List.append_nil]

theorem dropWhile_append_of_stop (hcs : ∀ c ∈ cs, p c = true)
    (hrest : ∀ c ∈ rest.head?, p c = false) : (cs ++ rest).dropWhile p = rest := by
  rw [List.dropWhile_append_of_pos hcs, dropWhile_of_stop hrest]

end Runs

/-! ### Digits -/

variable {radix : Nat}

theorem digitValue?_digitChar (hradix : radix ≤ 16) {d : Nat} (hd : d < radix) :
    digitValue? radix d.digitChar = some d := by
  have hall : ∀ d < 16, ∀ radix ≤ 16, d < radix → digitValue? radix d.digitChar = some d := by
    decide
  exact hall d (by omega) radix hradix hd

theorem isDigit_of_mem_toDigits (hone : 1 < radix) (hradix : radix ≤ 16) {n : Nat} {c : Char}
    (hc : c ∈ Nat.toDigits radix n) : isDigit radix c = true := by
  induction n using Nat.strongRecOn with
  | ind n ih =>
      rw [Nat.toDigits_eq_if hone] at hc
      split at hc
      · rename_i hlt
        rw [List.mem_singleton.1 hc, isDigit, digitValue?_digitChar hradix hlt, Option.isSome_some]
      · rename_i hle
        rcases List.mem_append.1 hc with hc | hc
        · exact ih (n / radix) (Nat.div_lt_self (by omega) hone) hc
        · rw [List.mem_singleton.1 hc, isDigit,
            digitValue?_digitChar hradix (Nat.mod_lt n (by omega)), Option.isSome_some]

theorem digitsValue_concat (radix : Nat) (digits : List Char) (c : Char) :
    digitsValue radix (digits ++ [c]) =
      digitsValue radix digits * radix + (digitValue? radix c).getD 0 := by
  simp [digitsValue]

theorem digitsValue_toDigits (hone : 1 < radix) (hradix : radix ≤ 16) (n : Nat) :
    digitsValue radix (Nat.toDigits radix n) = n := by
  induction n using Nat.strongRecOn with
  | ind n ih =>
      rw [Nat.toDigits_eq_if hone]
      split
      · rename_i hlt
        simp [digitsValue, digitValue?_digitChar hradix hlt]
      · rename_i hle
        rw [digitsValue_concat, ih (n / radix) (Nat.div_lt_self (by omega) hone),
          digitValue?_digitChar hradix (Nat.mod_lt n (by omega)), Option.getD_some]
        exact Nat.div_add_mod' n radix

/-- Only zero begins with a zero. -/
theorem eq_zero_of_head?_toDigits (hone : 1 < radix) {n : Nat}
    (h : (Nat.toDigits radix n).head? = some '0') : n = 0 := by
  induction n using Nat.strongRecOn with
  | ind n ih =>
      rw [Nat.toDigits_eq_if hone] at h
      split at h
      · exact Nat.digitChar_eq_zero.1 (Option.some.inj h)
      · rename_i hle
        obtain ⟨c, cs, hdigits⟩ := List.exists_cons_of_ne_nil
          (Nat.toDigits_ne_nil : Nat.toDigits radix (n / radix) ≠ [])
        have hhead : (Nat.toDigits radix (n / radix)).head? = some '0' := by
          rw [hdigits] at h ⊢
          exact h
        have hzero := ih (n / radix) (Nat.div_lt_self (by omega) hone) hhead
        have hlt : n < radix := (Nat.div_eq_zero_iff_lt (by omega)).1 hzero
        exact absurd hlt hle

/-! ### Parts in a row -/

def lead (separator : Char) (first : Bool) : List Char :=
  if first then [] else [separator]

def listed (separator : Char) : (first : Bool) → List (List Char) → List Char
  | _, [] => []
  | first, cs :: rest => lead separator first ++ (cs ++ listed separator false rest)

theorem join_eq_listed (separator : Char) (parts : List (List Char)) :
    join separator parts = listed separator true parts := by
  induction parts with
  | nil => rfl
  | cons cs parts ih =>
      cases parts with
      | nil => simp [join, listed, lead]
      | cons ds parts =>
          rw [join_cons (by simp), ih]
          simp [listed, lead]

theorem length_le_length_listed (separator : Char) (first : Bool) (parts : List (List Char)) :
    parts.length ≤ (listed separator first parts).length + 1 := by
  have hmore (parts : List (List Char)) :
      parts.length ≤ (listed separator false parts).length := by
    induction parts with
    | nil => exact Nat.zero_le _
    | cons cs parts ih =>
        simp only [listed, lead, List.length_cons, List.length_append]
        simp only [Bool.false_eq_true, if_false, List.length_cons, List.length_nil]
        omega
  cases parts with
  | nil => exact Nat.zero_le _
  | cons cs parts =>
      have htail := hmore parts
      simp only [listed, List.length_cons, List.length_append]
      omega

end NameOwners.Text
