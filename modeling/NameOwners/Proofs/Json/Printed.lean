import NameOwners.Json.Printer
import NameOwners.Proofs.Json.Grammar

/-!
Strings and whole numbers are read from their texts: a string from all of its
spellings (`IsStringText.reads`), a number from its digits (`reads_boundedNumber`). What
is printed is such a text, and a printed array or object is one of the grammar.
-/

namespace NameOwners.Json

open Reader

/-! ### Strings -/

theorem stringBody_escape {cs rest : List Char} {d : Char} {ds : List Char} {used : Nat}
    (hescape : Scan.escape cs = .ok (d, used)) (hbody : Scan.stringBody used cs = .ok (ds, rest)) :
    Scan.stringBody 0 ('\\' :: cs) = .ok (d :: ds, rest) := by
  rw [Scan.stringBody, if_neg (by decide), if_pos rfl]
  exact except_bind_eq_ok_iff.2 ⟨(d, used), hescape,
    except_bind_eq_ok_iff.2 ⟨(ds, rest), hbody, rfl⟩⟩

theorem escape_short {c d : Char}
    (hc : (c, d) ∈ [('"', '"'), ('\\', '\\'), ('/', '/'), ('b', '\x08'), ('f', '\x0c'),
      ('n', '\n'), ('r', '\r'), ('t', '\t')])
    (more : List Char) : Scan.escape (c :: more) = .ok (d, 1) := by
  simp only [List.mem_cons, Prod.mk.injEq, List.not_mem_nil, or_false] at hc
  rcases hc with ⟨rfl, rfl⟩ | ⟨rfl, rfl⟩ | ⟨rfl, rfl⟩ | ⟨rfl, rfl⟩ | ⟨rfl, rfl⟩ | ⟨rfl, rfl⟩ |
    ⟨rfl, rfl⟩ | ⟨rfl, rfl⟩
  all_goals rfl

section Numeric

variable {c₁ c₂ c₃ c₄ d₁ d₂ d₃ d₄ : Char} {n m : Nat}

theorem escape_numeric (hn : IsHexNumber c₁ c₂ c₃ c₄ n) (hchar : n < 0xd800 ∨ 0xdfff < n)
    (more : List Char) :
    Scan.escape ('u' :: c₁ :: c₂ :: c₃ :: c₄ :: more) = .ok (Char.ofNat n, 5) := by
  have htrailing : Scan.isTrailingSurrogate n = false := by
    simp [Scan.isTrailingSurrogate]
    omega
  have hleading : Scan.isLeadingSurrogate n = false := by
    simp [Scan.isLeadingSurrogate]
    omega
  simp [Scan.escape, Scan.numericEscape, hn.hexNumber_eq, htrailing, hleading, bind, Except.bind,
    Except.map]

theorem escape_pair (hn : IsHexNumber c₁ c₂ c₃ c₄ n) (hleading : 0xd800 ≤ n ∧ n ≤ 0xdbff)
    (hm : IsHexNumber d₁ d₂ d₃ d₄ m) (htrailing : 0xdc00 ≤ m ∧ m ≤ 0xdfff) (more : List Char) :
    Scan.escape ('u' :: c₁ :: c₂ :: c₃ :: c₄ :: '\\' :: 'u' :: d₁ :: d₂ :: d₃ :: d₄ :: more) =
      .ok (Char.ofNat (0x10000 + (n - 0xd800) * 0x400 + (m - 0xdc00)), 11) := by
  have hfirst : Scan.isTrailingSurrogate n = false := by
    simp [Scan.isTrailingSurrogate]
    omega
  have hleading : Scan.isLeadingSurrogate n = true := by
    simpa [Scan.isLeadingSurrogate] using hleading
  have htrailing : Scan.isTrailingSurrogate m = true := by
    simpa [Scan.isTrailingSurrogate] using htrailing
  simp [Scan.escape, Scan.numericEscape, Scan.surrogatePair, hn.hexNumber_eq, hm.hexNumber_eq,
    hfirst, hleading, htrailing, bind, Except.bind, Except.map]

end Numeric

theorem Spells.stringBody_eq {body ds : List Char} (h : Spells body ds) (rest : List Char) :
    Scan.stringBody 0 (body ++ '"' :: rest) = .ok (ds, rest) := by
  induction h with
  | nil => rfl
  | plain hquote hslash hcontrol _ ih =>
      rw [List.cons_append, Scan.stringBody, if_neg hquote, if_neg hslash, if_neg hcontrol, ih]
      rfl
  | short hc _ ih => exact stringBody_escape (escape_short hc _) ih
  | numeric hn hchar _ ih => exact stringBody_escape (escape_numeric hn hchar _) ih
  | pair hn hleading hm htrailing _ ih =>
      exact stringBody_escape (escape_pair hn hleading hm htrailing _) ih

theorem IsStringText.string_eq {s : String} {cs : List Char} (h : IsStringText s cs)
    (rest : List Char) : Reader.string (cs ++ rest) = .ok (s, rest) := by
  obtain ⟨body, rfl, hbody⟩ := h
  have hread := hbody.stringBody_eq rest
  simp only [List.cons_append, List.append_assoc, List.nil_append]
  change Scan.string (body ++ '"' :: rest) = _
  rw [Scan.string, hread]
  simp [Except.map]

theorem IsStringText.head?_eq {s : String} {cs : List Char} (h : IsStringText s cs) :
    cs.head? = some '"' := by
  obtain ⟨body, rfl, -⟩ := h
  rfl

/-- A control is escaped by its number, which has two digits. -/
theorem isHexNumber_control {n : Nat} (h : n < 0x20) :
    IsHexNumber '0' '0' (hexDigit (n / 16)) (hexDigit (n % 16)) n := by
  have hhigh : Text.digitValue? 16 (hexDigit (n / 16)) = some (n / 16) :=
    Text.digitValue?_digitChar (by decide) (by omega)
  have hlow : Text.digitValue? 16 (hexDigit (n % 16)) = some (n % 16) :=
    Text.digitValue?_digitChar (by decide) (by omega)
  have hzero : Text.digitValue? 16 '0' = some 0 := by decide
  have hsum : n / 16 * 16 + n % 16 = n := Nat.div_add_mod' n 16
  constructor
  · simp [Text.isDigit, hzero, hhigh, hlow]
  · simp [Text.digitsValue, hzero, hhigh, hlow, hsum]

/-- A character stands for itself however it is printed. -/
theorem Spells.stringChar_append (c : Char) {cs ds : List Char} (h : Spells cs ds) :
    Spells (stringChar c ++ cs) (c :: ds) := by
  unfold stringChar
  -- The seven escapes of a letter or a sign.
  iterate 7
    split
    · rename_i hc
      subst hc
      exact .short (by decide) h
  split
  · rename_i hcontrol
    have hspells := Spells.numeric (isHexNumber_control hcontrol) (by omega) h
    rwa [Char.ofNat_toNat] at hspells
  · rename_i hquote hslash _ _ _ _ _ hcontrol
    exact .plain hquote hslash hcontrol h

theorem spells_flatMap_stringChar (cs : List Char) : Spells (cs.flatMap stringChar) cs := by
  induction cs with
  | nil => exact .nil
  | cons c cs ih => exact ih.stringChar_append c

theorem isStringText_stringChars (s : String) : IsStringText s (stringChars s) :=
  ⟨s.toList.flatMap stringChar, rfl, spells_flatMap_stringChar s.toList⟩

/-- A value of the kind that is asked for is left to its reader. -/
theorem expect_blanks {α : Type} {expected : String} {starts : Char → Bool} {r : Reader α}
    (b : Blanks) {c : Char} (hspace : isSpace c = false) (hc : starts c = true)
    (cs : List Char) : expect expected starts r (b.chars ++ c :: cs) = r (c :: cs) := by
  rw [expect, peek_bind_blanks, peek_bind, List.dropWhile_cons_of_neg (by simp [hspace])]
  exact congrFun (if_pos hc) _

theorem IsStringText.reads {s : String} {cs : List Char} (h : IsStringText s cs)
    (expected : String) : Reads (stringValue expected) cs s := by
  refine ⟨⟨'"', h.head?_eq, by decide⟩, fun before rest _ => ?_⟩
  have hstring := h.string_eq rest
  obtain ⟨body, rfl, -⟩ := h
  exact (expect_blanks before (by decide) (by decide) _).trans hstring

/-! ### Whole numbers -/

theorem le_ofDigitChars (ds : List Char) (n : Nat) : n ≤ Nat.ofDigitChars 10 ds n := by
  induction ds generalizing n with
  | nil => exact Nat.le_refl n
  | cons d ds ih =>
      rw [Nat.ofDigitChars_cons]
      exact Nat.le_trans (by omega) (ih _)

theorem absorb_eq {ds : List Char} {n : Nat} (h : Nat.ofDigitChars 10 ds n < UInt64.size) :
    Scan.absorb n ds = (Nat.ofDigitChars 10 ds n, []) := by
  induction ds generalizing n with
  | nil => rfl
  | cons d ds ih =>
      have hstep : n * 10 + Scan.digitValue d = 10 * n + (d.toNat - '0'.toNat) := by
        rw [Nat.mul_comm]
        rfl
      rw [Nat.ofDigitChars_cons] at h ⊢
      rw [Scan.absorb, hstep, if_pos (Nat.lt_of_le_of_lt (le_ofDigitChars ds _) h), ih h]

theorem isDigits_toDigits (n : Nat) : IsDigits (Nat.toDigits 10 n) := by
  refine ⟨Nat.toDigits_ne_nil, fun c hc => ?_⟩
  have hdigit := Nat.isDigit_of_mem_toDigits (by decide) (by decide) hc
  simpa [Char.isDigit, Scan.isDigit, Char.le_def] using hdigit

/-- The digits of a number are read as that number. -/
theorem number_toDigits {n : Nat} (hn : n < UInt64.size) {rest : List Char} (hrest : Ends rest) :
    Reader.number (Nat.toDigits 10 n ++ rest) = .ok (.whole n, rest) := by
  have hdigits := isDigits_toDigits n
  have hstop : ∀ c ∈ rest.head?, Scan.isDigit c = false := fun c hc => (hrest.not_number c hc).1
  have htake := Text.takeWhile_append_of_stop hdigits.2 hstop
  have hdrop := Text.dropWhile_append_of_stop hdigits.2 hstop
  have habsorb : Scan.absorb 0 (Nat.toDigits 10 n) = (n, []) := by
    rw [absorb_eq (by rwa [Nat.ofDigitChars_ten_toDigits]), Nat.ofDigitChars_ten_toDigits]
  have hzero : (Nat.toDigits 10 n).head? = some '0' → Nat.toDigits 10 n = ['0'] := by
    intro hhead
    rw [Text.eq_zero_of_head?_toDigits (by decide) hhead, Nat.toDigits_zero]
  generalize Nat.toDigits 10 n = ds at hdigits htake hdrop habsorb hzero ⊢
  obtain ⟨d, ds, rfl⟩ := List.exists_cons_of_ne_nil hdigits.1
  have hd : Scan.isDigit d = true := hdigits.2 d List.mem_cons_self
  have hsign : Reader.number (d :: (ds ++ rest)) = Scan.number false (d :: (ds ++ rest)) := by
    have hminus : d ≠ '-' := ne_of_isDigit hd (by decide)
    simp [Reader.number, hminus]
  rw [List.cons_append] at htake hdrop ⊢
  rw [hsign, Scan.number, if_neg (by simp [hd]), if_neg (not_leading_zero hzero hstop), htake,
    hdrop, habsorb]
  dsimp only
  split
  · exact absurd rfl (hrest.not_number _ rfl).2.1
  · exact absurd rfl (hrest.not_number _ rfl).2.2.1
  · exact absurd rfl (hrest.not_number _ rfl).2.2.2
  · rfl

theorem chars_nat (n : Nat) : chars (.nat n) = Nat.toDigits 10 n := by
  change (toString (n : Int)).toList = _
  exact String.toList_ofList

/-- A number below the bound is read from its digits. -/
theorem reads_boundedNumber (expected : String) {bound n : Nat} (hn : n < bound)
    (hbound : bound ≤ UInt64.size) :
    Reads (boundedNumber expected bound) (Nat.toDigits 10 n) n := by
  have hnumber {rest : List Char} (hrest : Ends rest) :=
    number_toDigits (Nat.lt_of_lt_of_le hn hbound) hrest
  have hdigits := isDigits_toDigits n
  generalize Nat.toDigits 10 n = ds at hnumber hdigits ⊢
  obtain ⟨d, ds, rfl⟩ := List.exists_cons_of_ne_nil hdigits.1
  have hd : Scan.isDigit d = true := hdigits.2 d List.mem_cons_self
  refine ⟨⟨d, rfl, isSpace_of_isDigit hd, ne_of_isDigit hd (by decide)⟩,
    fun before rest hrest => ?_⟩
  refine (expect_blanks before (isSpace_of_isDigit hd) (by simp [hd]) _).trans ?_
  refine (bind_of_eq_ok (hnumber hrest) _).trans ?_
  simp only [Int.natCast_nonneg, Int.ofNat_lt, hn, and_self, if_true, Int.toNat_natCast]
  rfl

/-! ### Arrays and objects -/

theorem elementsChars_eq (vs : List Json) :
    elementsChars vs = Text.join ',' (vs.map chars) := by
  induction vs with
  | nil => rfl
  | cons v vs ih =>
      cases vs with
      | nil => simp [elementsChars, Text.join]
      | cons w vs => simp [elementsChars, Text.join, ih]

theorem chars_array (vs : List Json) :
    chars (.array vs) = arrayText .none (vs.map fun v => .plain (chars v)) := by
  have hcores : (Padded.chars ∘ fun v => Padded.plain (chars v)) = chars := by
    funext v
    simp
  rw [chars, elementsChars_eq, arrayText, List.map_map, hcores]
  rfl

def printedEntry (e : String × Json) : Entry :=
  ⟨.plain (stringChars e.1), .plain (chars e.2)⟩

theorem entriesChars_eq (es : List (String × Json)) :
    entriesChars es = Text.join ',' (es.map fun e => (printedEntry e).chars) := by
  have hentry (e : String × Json) :
      (printedEntry e).chars = stringChars e.1 ++ ':' :: chars e.2 := by
    simp [printedEntry, Entry.chars]
  induction es with
  | nil => rfl
  | cons e es ih =>
      obtain ⟨k, v⟩ := e
      cases es with
      | nil => simp [entriesChars, Text.join, hentry]
      | cons w es => simp [entriesChars, Text.join, hentry, ih]

theorem chars_object (es : List (String × Json)) :
    chars (.object es) = objectText .none (es.map printedEntry) := by
  rw [chars, entriesChars_eq, objectText, List.map_map]
  rfl

end NameOwners.Json
