import NameOwners.Proofs.Json.Grammar

/-!
Passing over a value that nobody asks for takes all of it, whatever it is
(`reads_skipValue`).
-/

namespace NameOwners.Json

open Reader
open Text (lead listed join_eq_listed)

/-! ### Strings and numbers -/

theorem skipStringBody_append {body : List Char} (h : IsStringBody body) (rest : List Char) :
    Scan.skipStringBody 0 (body ++ '"' :: rest) = .ok rest := by
  induction h with
  | nil => rfl
  | plain hquote hslash hcontrol _ ih =>
      rw [List.cons_append, Scan.skipStringBody, if_neg hquote, if_neg hslash, if_neg hcontrol, ih]
  | short hc _ ih =>
      rw [List.cons_append, List.cons_append, Scan.skipStringBody, if_neg (by decide), if_pos rfl,
        Scan.skipEscape, if_pos hc]
      exact ih
  | numeric hn _ ih =>
      simp only [List.cons_append]
      rw [Scan.skipStringBody, if_neg (by decide), if_pos rfl, Scan.skipEscape, if_neg (by decide),
        if_pos rfl, hn.hexNumber_eq]
      exact ih

theorem skipExponent_append {sign ds : List Char} (hsign : sign ∈ [[], ['+'], ['-']])
    (hds : IsDigits ds) {rest : List Char} (hrest : Ends rest) :
    Scan.skipExponent (sign ++ (ds ++ rest)) = .ok rest := by
  obtain ⟨d, hhead, hd⟩ := head?_digits hds rest
  have hunsigned : (if (sign ++ (ds ++ rest)).head? = some '-' ∨
      (sign ++ (ds ++ rest)).head? = some '+' then (sign ++ (ds ++ rest)).drop 1
      else sign ++ (ds ++ rest)) = ds ++ rest := by
    simp only [List.mem_cons, List.not_mem_nil, or_false] at hsign
    rcases hsign with rfl | rfl | rfl
    · refine if_neg ?_
      rw [List.nil_append, hhead]
      rintro (h | h)
      · exact absurd (Option.some.inj h ▸ hd) (by decide)
      · exact absurd (Option.some.inj h ▸ hd) (by decide)
    · rfl
    · rfl
  simp only [Scan.skipExponent, hunsigned]
  rw [if_pos (by simp [hhead, hd]), dropWhile_digits hds fun c hc => (hrest.not_number c hc).1]

theorem IsExponent.ends_digits {exponent : List Char} (h : IsExponent exponent)
    {rest : List Char} (hrest : Ends rest) :
    ∀ c ∈ (exponent ++ rest).head?, Scan.isDigit c = false ∧ c ≠ '.' := by
  cases h with
  | absent => exact fun c hc => ⟨(hrest.not_number c hc).1, (hrest.not_number c hc).2.1⟩
  | mark hc =>
      rintro _ ⟨⟩
      rcases hc with rfl | rfl
      · decide
      · decide

/-- What comes after the digits before it, the mark of the exponent or the end. -/
theorem skip_exponent_part {exponent : List Char} (h : IsExponent exponent) {rest : List Char}
    (hrest : Ends rest) :
    (match exponent ++ rest with
      | 'e' :: cs | 'E' :: cs => Scan.skipExponent cs
      | cs => .ok cs) = .ok rest := by
  cases h with
  | absent =>
      rw [List.nil_append]
      split
      · exact absurd rfl (hrest.not_number _ rfl).2.2.1
      · exact absurd rfl (hrest.not_number _ rfl).2.2.2
      · rfl
  | mark hc hsign hds =>
      rw [List.cons_append, List.append_assoc]
      rcases hc with rfl | rfl
      · exact skipExponent_append hsign hds hrest
      · exact skipExponent_append hsign hds hrest

theorem skipFraction_append {ds exponent : List Char} (hds : IsDigits ds)
    (hexponent : IsExponent exponent) {rest : List Char} (hrest : Ends rest) :
    Scan.skipFraction (ds ++ (exponent ++ rest)) = .ok rest := by
  obtain ⟨d, hhead, hd⟩ := head?_digits hds (exponent ++ rest)
  rw [Scan.skipFraction, if_pos (by simp [hhead, hd]),
    dropWhile_digits hds fun c hc => (hexponent.ends_digits hrest c hc).1]
  exact skip_exponent_part hexponent hrest

theorem skipNumber_append {whole fraction exponent : List Char} (hwhole : IsDigits whole)
    (hzero : whole.head? = some '0' → whole = ['0']) (hfraction : IsFraction fraction)
    (hexponent : IsExponent exponent) {rest : List Char} (hrest : Ends rest) :
    Scan.skipNumber (whole ++ (fraction ++ (exponent ++ rest))) = .ok rest := by
  have hstop : ∀ c ∈ (fraction ++ (exponent ++ rest)).head?, Scan.isDigit c = false := by
    cases hfraction with
    | absent => exact fun c hc => (hexponent.ends_digits hrest c hc).1
    | point =>
        rintro _ ⟨⟩
        decide
  have hdrop := dropWhile_digits hwhole hstop
  obtain ⟨c, cs, rfl⟩ := List.exists_cons_of_ne_nil hwhole.1
  have hc : Scan.isDigit c = true := hwhole.2 c List.mem_cons_self
  have hleading := not_leading_zero hzero hstop
  rw [List.cons_append, Scan.skipNumber, if_neg (by simp [hc]), if_neg hleading,
    ← List.cons_append, hdrop]
  cases hfraction with
  | absent =>
      have hpart := skip_exponent_part hexponent hrest
      have hpoint := fun c hc => (hexponent.ends_digits hrest c hc).2
      rw [List.nil_append]
      generalize exponent ++ rest = tail at hpart hpoint ⊢
      split
      · exact absurd rfl (hpoint _ rfl)
      · exact hpart
      · exact hpart
      · rename_i hsmall hcapital
        split at hpart
        · exact (hsmall _ rfl).elim
        · exact (hcapital _ rfl).elim
        · exact hpart
  | point hds => exact skipFraction_append hds hexponent hrest

/-! ### The start of a value -/

theorem skipStart_blanks (b : Blanks) (cs : List Char) :
    skipStart (b.chars ++ cs) = skipStart cs :=
  peek_bind_blanks _ b cs

theorem skipStart_string {body : List Char} (h : IsStringBody body) (rest : List Char) :
    skipStart ('"' :: (body ++ ['"']) ++ rest) = .ok (none, rest) := by
  have hskip := skipStringBody_append h rest
  rw [List.cons_append, List.append_assoc]
  change (Scan.skipStringBody 0 (body ++ '"' :: rest)).map _ = _
  rw [hskip]
  rfl

theorem skipStart_digit {d : Char} (hd : Scan.isDigit d = true) (cs : List Char) :
    skipStart (d :: cs) = (Scan.skipNumber (d :: cs)).map fun rest => (none, rest) := by
  have hspace := isSpace_of_isDigit hd
  rw [skipStart, peek_bind, List.dropWhile_cons_of_neg (by simp [hspace]), List.head?_cons]
  dsimp only
  rw [if_neg (ne_of_isDigit hd (by decide)), if_neg (ne_of_isDigit hd (by decide)),
    if_neg (ne_of_isDigit hd (by decide)), if_neg (ne_of_isDigit hd (by decide)),
    if_neg (ne_of_isDigit hd (by decide)), if_pos hd]

theorem skipStart_number {cs : List Char} (h : IsNumber cs) {rest : List Char}
    (hrest : Ends rest) : skipStart (cs ++ rest) = .ok (none, rest) := by
  obtain @⟨sign, whole, fraction, exponent, hsign, hwhole, hzero, hfraction, hexponent⟩ := h
  have hskip := skipNumber_append hwhole hzero hfraction hexponent hrest
  simp only [List.mem_cons, List.not_mem_nil, or_false] at hsign
  rcases hsign with rfl | rfl
  · obtain ⟨d, more, rfl⟩ := List.exists_cons_of_ne_nil hwhole.1
    simp only [List.nil_append, List.append_assoc, List.cons_append] at hskip ⊢
    rw [skipStart_digit (hwhole.2 d List.mem_cons_self), hskip]
    rfl
  · simp only [List.cons_append, List.nil_append, List.append_assoc]
    change (Scan.skipNumber (whole ++ (fraction ++ (exponent ++ rest)))).map _ = _
    rw [hskip]
    rfl

/-! ### Arrays and objects -/

def Reader.Open.close : Open → Char
  | .array => ']'
  | .object => '}'

/-- What stands before a value in an array or object: nothing, or its key and a colon. -/
inductive IsLead : Open → List Char → Prop
  | array : IsLead .array []
  | object {key : Padded} {body : List Char} (hbody : IsStringBody body)
      (hkey : key.core = '"' :: (body ++ ['"'])) : IsLead .object (key.chars ++ [':'])

theorem lead_append {o : Open} {cs : List Char} (h : IsLead o cs) (rest : List Char) :
    o.lead (cs ++ rest) = .ok ((), rest) := by
  cases h with
  | array => rfl
  | @object key body hbody hkey =>
      have hskip := skipStringBody_append hbody (key.after.chars ++ ':' :: rest)
      have hstring : (fun cs => (Scan.skipStringBody 0 cs).map fun rest => ((), rest) : Reader Unit)
          (body ++ '"' :: (key.after.chars ++ ':' :: rest)) =
            .ok ((), key.after.chars ++ ':' :: rest) := by
        simp only [hskip]
        rfl
      simp only [Padded.chars, hkey, List.append_assoc, List.cons_append, List.nil_append]
      refine (peek_bind_blanks _ key.before _).trans ?_
      exact bind_eq_ok_iff.2 ⟨some '"', _, rfl, bind_eq_ok_iff.2 ⟨(), _, rfl,
        bind_eq_ok_iff.2 ⟨(), _, hstring, colon_blanks key.after rest⟩⟩⟩

def stage (first : Bool) : Stage :=
  if first then .first else .next

theorem skipRest_blanks (fuel : Nat) (first : Bool) (o : Open) (opened : List Open) (b : Blanks)
    (cs : List Char) :
    skipRest fuel (stage first) (o :: opened) (b.chars ++ cs) =
      skipRest fuel (stage first) (o :: opened) cs := by
  cases fuel with
  | zero => rfl
  | succ fuel =>
      cases first with
      | true => exact peek_bind_blanks _ b cs
      | false => exact peek_bind_blanks _ b cs

theorem skipRest_close (fuel : Nat) (first : Bool) (o : Open) (opened : List Open)
    (rest : List Char) :
    skipRest (fuel + 1) (stage first) (o :: opened) (o.close :: rest) =
      skipRest fuel .next opened rest := by
  cases first with
  | true => cases o <;> rfl
  | false => cases o <;> rfl

/-- A text that passing over a value takes as one, in less than two steps for each of its
characters. -/
def Skips (cs : List Char) : Prop :=
  ∃ steps, steps < 2 * cs.length ∧ ∀ fuel opened (before : Blanks) rest, Ends rest →
    skipRest (fuel + steps) .value opened (before.chars ++ (cs ++ rest)) =
      skipRest fuel .next opened rest

/-- Passing over a value begins with its start. -/
theorem skipRest_value (fuel : Nat) (opened : List Open) (b : Blanks) {cs rest : List Char}
    {o : Option Open} (h : skipStart cs = .ok (o, rest)) :
    skipRest (fuel + 1) .value opened (b.chars ++ cs) =
      match o with
      | some o => skipRest fuel (stage true) (o :: opened) rest
      | none => skipRest fuel .next opened rest := by
  have hstart : skipStart (b.chars ++ cs) = .ok (o, rest) := (skipStart_blanks b cs).trans h
  refine (bind_of_eq_ok hstart _).trans ?_
  cases o with
  | none => rfl
  | some o => rfl

theorem skips_of_skipStart {cs : List Char} (hne : cs ≠ [])
    (h : ∀ rest, Ends rest → skipStart (cs ++ rest) = .ok (none, rest)) : Skips cs := by
  have hlength := List.length_pos_iff.2 hne
  exact ⟨1, by omega, fun fuel opened b rest hrest => skipRest_value fuel opened b (h rest hrest)⟩

theorem IsText.starts {cs : List Char} (h : IsText cs) : Starts cs := by
  cases h with
  | null => exact ⟨'n', rfl, by decide⟩
  | true => exact ⟨'t', rfl, by decide⟩
  | false => exact ⟨'f', rfl, by decide⟩
  | string => exact ⟨'"', rfl, by decide⟩
  | array => exact ⟨'[', rfl, by decide⟩
  | object => exact ⟨'{', rfl, by decide⟩
  | number hcs =>
      obtain @⟨sign, whole, fraction, exponent, hsign, hwhole, -, -, -⟩ := hcs
      simp only [List.mem_cons, List.not_mem_nil, or_false] at hsign
      rcases hsign with rfl | rfl
      · obtain ⟨d, hhead, hd⟩ := head?_digits hwhole (fraction ++ exponent)
        exact ⟨d, hhead, isSpace_of_isDigit hd, ne_of_isDigit hd (by decide)⟩
      · exact ⟨'-', rfl, by decide⟩

structure Item where
  lead : List Char
  value : Padded

def Item.chars (i : Item) : List Char :=
  i.lead ++ i.value.chars

theorem skipRest_value_blanks (fuel : Nat) (opened : List Open) (b : Blanks) (cs : List Char) :
    skipRest fuel .value opened (b.chars ++ cs) = skipRest fuel .value opened cs := by
  cases fuel with
  | zero => rfl
  | succ fuel => exact bind_congr_left (skipStart_blanks b cs) _

/-- What does not end an array or object is its first item. -/
theorem skipRest_first (fuel : Nat) {o : Open} (opened : List Open) {c : Char} (cs : List Char)
    (hspace : isSpace c = false) (hc : c ≠ o.close) :
    skipRest (fuel + 1) .first (o :: opened) (c :: cs) =
      (o.lead >>= fun _ => skipRest fuel .value (o :: opened)) (c :: cs) := by
  have hpeek : peek (c :: cs) = .ok (some c, c :: cs) := by
    rw [peek, List.dropWhile_cons_of_neg (by simp [hspace])]
    rfl
  refine (bind_of_eq_ok hpeek _).trans ?_
  cases o with
  | array =>
      have hbracket : c ≠ ']' := hc
      simp [hbracket]
  | object =>
      have hbrace : c ≠ '}' := hc
      simp [hbrace]

theorem lead_bind_blanks (fuel : Nat) (o : Open) (opened : List Open) (b : Blanks)
    (cs : List Char) :
    (o.lead >>= fun _ => skipRest fuel .value opened) (b.chars ++ cs) =
      (o.lead >>= fun _ => skipRest fuel .value opened) cs := by
  cases o with
  | array => exact skipRest_value_blanks fuel opened b cs
  | object => exact bind_congr_left (peek_bind_blanks _ b cs) _

/-- An item begins with something that does not close the array or object it is in. -/
theorem exists_start_of_item {o : Open} {i : Item} (hlead : IsLead o i.lead)
    (hstarts : Starts i.value.core) (rest : List Char) :
    ∃ (b : Blanks) (c : Char) (cs : List Char), i.chars ++ rest = b.chars ++ c :: cs ∧
      isSpace c = false ∧ c ≠ o.close := by
  obtain ⟨leadChars, value⟩ := i
  cases hlead with
  | array =>
      obtain ⟨c, hc, hspace, hbracket⟩ := hstarts
      obtain ⟨more, hcore⟩ := List.head?_eq_some_iff.1 hc
      refine ⟨value.before, c, more ++ (value.after.chars ++ rest), ?_, hspace, hbracket⟩
      simp only at hcore
      simp [Item.chars, Padded.chars, hcore]
  | @object key body hbody hkey =>
      refine ⟨key.before, '"', body ++ '"' :: (key.after.chars ++ ':' :: (value.chars ++ rest)), ?_,
        by decide, by decide⟩
      simp [Item.chars, Padded.chars, hkey]

/-- Before an item comes nothing or a comma; it is passed over from its value on. -/
theorem skipRest_item (fuel : Nat) (first : Bool) {o : Open} (opened : List Open) {i : Item}
    (hlead : IsLead o i.lead) (hstarts : Starts i.value.core) (rest : List Char) :
    skipRest (fuel + 1) (stage first) (o :: opened) (lead ',' first ++ (i.chars ++ rest)) =
      skipRest fuel .value (o :: opened) (i.value.chars ++ rest) := by
  have hread := lead_append hlead (i.value.chars ++ rest)
  have hnext : (o.lead >>= fun _ => skipRest fuel .value (o :: opened)) (i.chars ++ rest) =
      skipRest fuel .value (o :: opened) (i.value.chars ++ rest) := by
    rw [Item.chars, List.append_assoc]
    exact bind_of_eq_ok hread _
  cases first with
  | false => cases o <;> exact hnext
  | true =>
      obtain ⟨b, c, cs, hchars, hspace, hc⟩ := exists_start_of_item hlead hstarts rest
      have hfirst := skipRest_first fuel opened cs hspace hc
      rw [← hnext, hchars, lead_bind_blanks, ← hfirst]
      exact skipRest_blanks (fuel + 1) true o opened b (c :: cs)

/-- The items of an array or object are passed over through the bracket that closes it. -/
theorem exists_skipRest_items {o : Open} {items : List Item}
    (hlead : ∀ i ∈ items, IsLead o i.lead) (hstarts : ∀ i ∈ items, Starts i.value.core)
    (hskip : ∀ i ∈ items, Skips i.value.core) (first : Bool) :
    ∃ steps, steps ≤ 2 * (listed ',' first (items.map Item.chars)).length + 1 ∧
      ∀ fuel opened (b : Blanks) rest,
        skipRest (fuel + steps) (stage first) (o :: opened)
          (b.chars ++ (listed ',' first (items.map Item.chars) ++ o.close :: rest)) =
            skipRest fuel .next opened rest := by
  induction items generalizing first with
  | nil =>
      refine ⟨1, Nat.le_add_left .., fun fuel opened b rest => ?_⟩
      rw [skipRest_blanks]
      exact skipRest_close fuel first o opened rest
  | cons i items ih =>
      obtain ⟨hleadi, hlead⟩ := List.forall_mem_cons.1 hlead
      obtain ⟨hstartsi, hstarts⟩ := List.forall_mem_cons.1 hstarts
      obtain ⟨hskipi, hskip⟩ := List.forall_mem_cons.1 hskip
      obtain ⟨more, hmore, hitems⟩ := ih hlead hstarts hskip false
      obtain ⟨steps, hsteps, hvalue⟩ := hskipi
      refine ⟨more + steps + 1, ?_, fun fuel opened b rest => ?_⟩
      · simp only [List.map_cons, listed, Item.chars, Padded.chars, List.length_append]
        omega
      · have hends : Ends (listed ',' false (items.map Item.chars) ++ o.close :: rest) := by
          refine ends_listed _ (ends_cons ?_ rest)
          cases o <;> simp [Open.close]
        rw [skipRest_blanks, List.map_cons, listed, ← Nat.add_assoc, ← Nat.add_assoc,
          List.append_assoc, List.append_assoc, skipRest_item _ _ _ hleadi hstartsi, Padded.chars,
          List.append_assoc, List.append_assoc, hvalue _ _ _ _ (hends.blanks _)]
        exact hitems fuel opened i.value.after rest

def Reader.Open.bracket : Open → Char
  | .array => '['
  | .object => '{'

theorem skips_of_items {o : Open} (items : List Item) (hlead : ∀ i ∈ items, IsLead o i.lead)
    (hstarts : ∀ i ∈ items, Starts i.value.core) (hskip : ∀ i ∈ items, Skips i.value.core)
    (gap : Blanks) :
    Skips (o.bracket :: (gap.chars ++ (listed ',' true (items.map Item.chars) ++ [o.close]))) := by
  obtain ⟨steps, hsteps, hitems⟩ := exists_skipRest_items hlead hstarts hskip true
  refine ⟨steps + 1, ?_, fun fuel opened b rest _ => ?_⟩
  · simp only [List.length_cons, List.length_append, List.length_nil]
    omega
  · have hstart (cs : List Char) : skipStart (o.bracket :: cs) = .ok (some o, cs) := by
      cases o <;> rfl
    rw [← Nat.add_assoc, List.cons_append, skipRest_value _ opened b (hstart _), List.append_assoc,
      List.append_assoc]
    exact hitems fuel opened gap rest

/-- Whatever the grammar allows is passed over as one value. -/
theorem IsText.skips {cs : List Char} (h : IsText cs) : Skips cs := by
  induction h with
  | null => exact skips_of_skipStart (by simp) fun _ _ => rfl
  | true => exact skips_of_skipStart (by simp) fun _ _ => rfl
  | false => exact skips_of_skipStart (by simp) fun _ _ => rfl
  | number hcs =>
      refine skips_of_skipStart ?_ fun _ hrest => skipStart_number hcs hrest
      rintro rfl
      obtain ⟨c, hc, -⟩ := (IsText.number hcs).starts
      cases hc
  | string hbody => exact skips_of_skipStart (by simp) fun rest _ => skipStart_string hbody rest
  | @array gap elements helements ih =>
      have hitems := skips_of_items (o := .array) (elements.map (Item.mk []))
        (List.forall_mem_map.2 fun _ _ => .array)
        (List.forall_mem_map.2 fun e he => (helements e he).starts)
        (List.forall_mem_map.2 ih) gap
      rw [List.map_map] at hitems
      rw [arrayText, join_eq_listed]
      exact hitems
  | @object gap entries hkeys hvalues ih =>
      have hitems := skips_of_items (o := .object)
        (entries.map fun e => ⟨e.key.chars ++ [':'], e.value⟩)
        (List.forall_mem_map.2 fun e he => by
          obtain ⟨body, hbody, hkey⟩ := hkeys e he
          exact .object hbody hkey)
        (List.forall_mem_map.2 fun e he => (hvalues e he).starts)
        (List.forall_mem_map.2 ih) gap
      have hchars : (Item.chars ∘ fun e : Entry => ⟨e.key.chars ++ [':'], e.value⟩) =
          Entry.chars := by
        funext e
        simp [Item.chars, Entry.chars]
      rw [List.map_map, hchars] at hitems
      rw [objectText, join_eq_listed]
      exact hitems

theorem reads_skipValue {cs : List Char} (h : IsText cs) : Reads skipValue cs () := by
  obtain ⟨steps, hsteps, hskip⟩ := h.skips
  refine ⟨h.starts, fun before rest hrest => ?_⟩
  obtain ⟨fuel, hfuel⟩ : ∃ fuel, 2 * (before.chars ++ (cs ++ rest)).length + 2 =
      fuel + 1 + steps := by
    refine ⟨2 * (before.chars ++ (cs ++ rest)).length + 1 - steps, ?_⟩
    simp only [List.length_append]
    omega
  rw [skipValue, hfuel, hskip _ _ _ _ hrest]
  rfl

end NameOwners.Json
