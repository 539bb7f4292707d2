import NameOwners.Address.Parser
import NameOwners.Address.Printer
import NameOwners.Proofs.Text.Reading

/-!
Addresses are read back from their text (`SocketAddress.read?_text`). A number is read up
to the first character that is no digit of its radix, so what follows each part decides
where it ends. Of an address of version 6 the text leaves out a run of zeros; the reader puts
as many back as are missing from eight groups, and this is the same address because
the run that was left out is one of zeros (`isZeroRun_zeroRun`).
-/

namespace NameOwners

open Text (isDigit digitsValue)

namespace Address

/-! ### Numbers -/

/-- A form of numbers that has digits enough for all numbers below its bound. -/
structure NumberForm.IsWide (f : NumberForm) : Prop where
  one_lt_radix : 1 < f.radix
  radix_le : f.radix ≤ 16
  length_le : ∀ k ∈ f.maxDigits, ∀ n < f.bound, (Nat.toDigits f.radix n).length ≤ k

theorem isWide_byteForm : byteForm.IsWide := by
  refine ⟨by decide, by decide, fun k hk n hn => ?_⟩
  obtain rfl := Option.some.inj hk
  exact (Nat.length_toDigits_le_iff (by decide) (by decide)).2 (Nat.lt_trans hn (by decide))

theorem isWide_groupForm : groupForm.IsWide := by
  refine ⟨by decide, by decide, fun k hk n hn => ?_⟩
  obtain rfl := Option.some.inj hk
  exact (Nat.length_toDigits_le_iff (by decide) (by decide)).2 (Nat.lt_of_lt_of_le hn (by decide))

theorem isWide_socketForm : socketForm.IsWide := ⟨by decide, by decide, nofun⟩

theorem isWide_scopeForm : scopeForm.IsWide := ⟨by decide, by decide, nofun⟩

/-- The digits of a number are read as that number if no digit follows them. -/
theorem number_toDigits {f : NumberForm} (hf : f.IsWide) {n : Nat} (hn : n < f.bound)
    {rest : List Char} (hrest : ∀ c ∈ rest.head?, isDigit f.radix c = false) :
    number f (Nat.toDigits f.radix n ++ rest) = some (n, rest) := by
  have hdigits : ∀ c ∈ Nat.toDigits f.radix n, isDigit f.radix c = true :=
    fun _ => Text.isDigit_of_mem_toDigits hf.one_lt_radix hf.radix_le
  have hlong : f.maxDigits.any (fun k => decide (k < (Nat.toDigits f.radix n).length)) = false := by
    cases hmax : f.maxDigits with
    | none => rfl
    | some k => exact decide_eq_false (Nat.not_lt.2 (hf.length_le k hmax n hn))
  have hzeros : ((Nat.toDigits f.radix n).head? = some '0' ∧
      1 < (Nat.toDigits f.radix n).length) → False := by
    rintro ⟨hhead, hlength⟩
    rw [Text.eq_zero_of_head?_toDigits hf.one_lt_radix hhead, Nat.toDigits_zero] at hlength
    exact absurd hlength (by decide)
  have hvalue : ¬f.bound ≤ n := Nat.not_le.2 hn
  simp only [number, Text.takeWhile_append_of_stop hdigits hrest,
    Text.dropWhile_append_of_stop hdigits hrest,
    Text.digitsValue_toDigits hf.one_lt_radix hf.radix_le]
  rw [if_neg]
  simp only [Bool.or_eq_true, List.isEmpty_iff, Nat.toDigits_ne_nil, hlong, Bool.and_eq_true,
    decide_eq_true_eq, hvalue, or_false, false_or, Bool.false_eq_true]
  exact fun h => hzeros ⟨h.1.2, h.2⟩

/-- A number needs a digit. -/
theorem number_eq_none {f : NumberForm} {cs : List Char}
    (h : ∀ c ∈ cs.head?, isDigit f.radix c = false) : number f cs = none := by
  have hdigits : cs.takeWhile (isDigit f.radix) = [] :=
    Text.takeWhile_of_stop h
  simp [number, hdigits]

/-! ### Addresses of version 4 -/

theorem addressV4_chars (x : AddressV4) {rest : List Char}
    (hrest : ∀ c ∈ rest.head?, isDigit 10 c = false) :
    addressV4 (x.chars ++ rest) = some (x, rest) := by
  have hbyte (b : UInt8) {rest : List Char} (hrest : ∀ c ∈ rest.head?, isDigit 10 c = false) :
      number byteForm (Nat.toDigits 10 b.toNat ++ rest) = some (b.toNat, rest) :=
    number_toDigits isWide_byteForm b.toNat_lt hrest
  have hdot (cs : List Char) : ∀ c ∈ ('.' :: cs).head?, isDigit 10 c = false := by
    rintro _ ⟨⟩
    decide
  simp only [AddressV4.chars, decimalChars, List.map_cons, List.map_nil, Text.join,
    List.append_assoc, List.cons_append]
  simp only [addressV4, hbyte _ (hdot _), hbyte _ hrest, Scanner.char, if_true, Option.bind_eq_bind,
    Option.bind_some]
  simp

/-- A number that no dot follows is no address of version 4. -/
theorem addressV4_eq_none {cs : List Char}
    (h : (cs.dropWhile (isDigit 10)).head? ≠ some '.') : addressV4 cs = none := by
  have hdot : Scanner.char '.' (cs.dropWhile (isDigit 10)) = none := by
    cases hcs : cs.dropWhile (isDigit 10) with
    | nil => rfl
    | cons c rest =>
        rw [hcs] at h
        exact if_neg fun hc => h (congrArg some hc)
  have hnumber : number byteForm cs = none ∨
      ∃ n, number byteForm cs = some (n, cs.dropWhile (isDigit 10)) := by
    dsimp only [number]
    split
    · exact .inl rfl
    · exact .inr ⟨_, rfl⟩
  rcases hnumber with hnumber | ⟨n, hnumber⟩
  · simp [addressV4, hnumber]
  · simp [addressV4, hnumber, hdot]

/-! ### Groups -/

/-- What may follow a group: neither a digit of it nor a dot. -/
def EndsGroup (rest : List Char) : Prop :=
  ∀ c ∈ rest.head?, isDigit 16 c = false ∧ c ≠ '.'

theorem isDigit_sixteen_of_ten {c : Char} (h : isDigit 16 c = false) : isDigit 10 c = false := by
  rw [isDigit, Option.isSome_eq_false_iff, Option.isNone_iff_eq_none] at h ⊢
  unfold Text.digitValue? at h ⊢
  grind

theorem number_group (g : UInt16) {rest : List Char} (hrest : EndsGroup rest) :
    number groupForm (Nat.toDigits 16 g.toNat ++ rest) = some (g.toNat, rest) :=
  number_toDigits isWide_groupForm g.toNat_lt fun c hc => (hrest c hc).1

theorem addressV4_group (n : Nat) {rest : List Char} (hrest : EndsGroup rest) :
    addressV4 (Nat.toDigits 16 n ++ rest) = none := by
  apply addressV4_eq_none
  have hdot : ∀ c ∈ Nat.toDigits 16 n, c ≠ '.' := by
    rintro c hc rfl
    exact absurd (Text.isDigit_of_mem_toDigits (by decide) (by decide) hc) (by decide)
  intro h
  rw [List.dropWhile_append] at h
  split at h
  · have hstop : rest.dropWhile (isDigit 10) = rest :=
      Text.dropWhile_of_stop fun c hc =>
        isDigit_sixteen_of_ten (hrest c hc).1
    rw [hstop] at h
    exact (hrest _ h).2 rfl
  · rename_i hne
    obtain ⟨c, cs, hdigits⟩ := List.exists_cons_of_ne_nil (mt List.isEmpty_iff.2 hne)
    rw [hdigits] at h
    have hmem : c ∈ Nat.toDigits 16 n :=
      (List.dropWhile_suffix _).subset (hdigits ▸ List.mem_cons_self)
    exact hdot c hmem (Option.some.inj h)

/-- Something other than a group or an address of version 4. -/
theorem not_group_of_endsGroup {cs : List Char} (h : EndsGroup cs) :
    addressV4 cs = none ∧ number groupForm cs = none := by
  refine ⟨addressV4_eq_none fun hdot => ?_, number_eq_none fun c hc => (h c hc).1⟩
  have hstop : cs.dropWhile (isDigit 10) = cs :=
    Text.dropWhile_of_stop fun c hc => isDigit_sixteen_of_ten (h c hc).1
  rw [hstop] at hdot
  exact (h _ hdot).2 rfl

theorem afterColon_lead {α : Type} (first : Bool) (s : Scanner α) (cs : List Char) :
    afterColon first s (Text.lead ':' first ++ cs) = s cs := by
  cases first with
  | true => rfl
  | false => rfl

theorem groups_group (first : Bool) (limit : Nat) (g : UInt16) {rest : List Char}
    (hrest : EndsGroup rest) :
    groups (limit + 1) first (Text.lead ':' first ++ (Nat.toDigits 16 g.toNat ++ rest)) =
      ⟨g :: (groups limit false rest).groups, (groups limit false rest).mixed,
        (groups limit false rest).rest⟩ := by
  rw [groups, afterColon_lead, afterColon_lead, addressV4_group g.toNat hrest,
    number_group g hrest]
  simp

theorem groups_eq_nil {first : Bool} {limit : Nat} {cs : List Char}
    (haddress : afterColon first addressV4 cs = none)
    (hgroup : afterColon first (number groupForm) cs = none) :
    groups limit first cs = ⟨[], false, cs⟩ := by
  cases limit with
  | zero => rfl
  | succ limit => simp [groups, haddress, hgroup]

/-- No group follows, whatever the limit. -/
def Stops (rest : List Char) : Prop :=
  ∀ limit, groups limit false rest = ⟨[], false, rest⟩

theorem stops_of_no_colon {rest : List Char} (h : rest.head? ≠ some ':') : Stops rest := by
  have hnone {α : Type} (s : Scanner α) : afterColon false s rest = none := by
    cases rest with
    | nil => rfl
    | cons c cs =>
        have hc : c ≠ ':' := fun hc => h (congrArg some hc)
        simp [afterColon, Scanner.char, hc]
  exact fun limit => groups_eq_nil (hnone _) (hnone _)

theorem endsGroup_colon (cs : List Char) : EndsGroup (':' :: cs) := by
  rintro _ ⟨⟩
  decide

theorem stops_two_colons (cs : List Char) : Stops (':' :: ':' :: cs) := by
  obtain ⟨haddress, hgroup⟩ := not_group_of_endsGroup (endsGroup_colon cs)
  exact fun limit => groups_eq_nil haddress hgroup

/-- Groups in a row, the first of which may be the first of all. -/
def listedGroups (first : Bool) (gs : List UInt16) : List Char :=
  Text.listed ':' first (gs.map fun g => Nat.toDigits 16 g.toNat)

theorem groupsChars_eq (gs : List UInt16) : groupsChars gs = listedGroups true gs :=
  Text.join_eq_listed ':' _

theorem endsGroup_listedGroups (gs : List UInt16) {rest : List Char} (hrest : EndsGroup rest) :
    EndsGroup (listedGroups false gs ++ rest) := by
  cases gs with
  | nil => exact hrest
  | cons g gs => exact endsGroup_colon _

/-- Groups are read as they were written, up to where no group follows. -/
theorem groups_listedGroups {gs : List UInt16} {limit : Nat} (hlimit : gs.length ≤ limit)
    (first : Bool) {rest : List Char} (hrest : EndsGroup rest) (hstop : Stops rest) :
    groups limit first (listedGroups first gs ++ rest) = ⟨gs, false, rest⟩ := by
  induction gs generalizing limit first with
  | nil =>
      cases first with
      | true =>
          obtain ⟨haddress, hgroup⟩ := not_group_of_endsGroup hrest
          exact groups_eq_nil haddress hgroup
      | false => exact hstop limit
  | cons g gs ih =>
      cases limit with
      | zero => exact absurd hlimit (by simp)
      | succ limit =>
          have hread := groups_group first limit g (endsGroup_listedGroups gs hrest)
          rw [ih (Nat.le_of_succ_le_succ hlimit)] at hread
          rw [listedGroups, List.map_cons, Text.listed, List.append_assoc, List.append_assoc]
          exact hread

theorem groups_groupsChars {gs : List UInt16} {limit : Nat} (hlimit : gs.length ≤ limit)
    {rest : List Char} (hrest : EndsGroup rest) (hstop : Stops rest) :
    groups limit true (groupsChars gs ++ rest) = ⟨gs, false, rest⟩ := by
  rw [groupsChars_eq]
  exact groups_listedGroups hlimit true hrest hstop

/-! ### The run of zeros that is left out -/

/-- A run that some list has, and that consists of zeros. -/
def IsZeroRun (gs : List UInt16) (run : ZeroRun) : Prop :=
  ∃ front back, gs = front ++ List.replicate run.length 0 ++ back ∧ front.length = run.start

/-- A run of zeros at the end of a list, if it is not empty. -/
def EndsInRun (gs : List UInt16) (run : ZeroRun) : Prop :=
  run.length ≠ 0 → ∃ front, gs = front ++ List.replicate run.length 0 ∧ front.length = run.start

theorem IsZeroRun.append {gs : List UInt16} {run : ZeroRun} (h : IsZeroRun gs run)
    (more : List UInt16) : IsZeroRun (gs ++ more) run := by
  obtain ⟨front, back, rfl, hstart⟩ := h
  exact ⟨front, back ++ more, by simp, hstart⟩

/-- One more zero makes the current run longer, or begins one. -/
theorem EndsInRun.zero {gs : List UInt16} {run : ZeroRun} (h : EndsInRun gs run) :
    EndsInRun (gs ++ [0])
      (if run.length = 0 then ⟨gs.length, 1⟩ else ⟨run.start, run.length + 1⟩) := by
  intro _
  split
  · exact ⟨gs, rfl, rfl⟩
  · rename_i hlength
    obtain ⟨front, rfl, hstart⟩ := h hlength
    exact ⟨front, by rw [List.append_assoc, ← List.replicate_succ'], hstart⟩

/-- Whatever has been read, the best run so far is one of zeros, and so is the current
one at its end. -/
theorem isZeroRun_longestZeroRun {pre : List UInt16} {current best : ZeroRun}
    (hcurrent : EndsInRun pre current) (hbest : IsZeroRun pre best) (gs : List UInt16) :
    IsZeroRun (pre ++ gs) (longestZeroRun pre.length current best gs) := by
  induction gs generalizing pre current best with
  | nil => rwa [List.append_nil]
  | cons g gs ih =>
      have hlength : pre.length + 1 = (pre ++ [g]).length := by simp
      rw [List.append_cons, longestZeroRun, hlength]
      split
      · rename_i hg
        subst hg
        have hzero := hcurrent.zero
        dsimp only
        generalize (if current.length = 0 then (⟨pre.length, 1⟩ : ZeroRun)
          else ⟨current.start, current.length + 1⟩) = longer at hzero ⊢
        refine ih hzero ?_
        split
        · rename_i hlt
          obtain ⟨front, hpre, hstart⟩ := hzero (Nat.ne_of_gt (Nat.zero_lt_of_lt hlt))
          exact ⟨front, [], by rwa [List.append_nil], hstart⟩
        · exact hbest.append [0]
      · exact ih (fun h => absurd rfl h) (hbest.append [g])

theorem isZeroRun_zeroRun (x : AddressV6) : IsZeroRun x.groups x.zeroRun :=
  @isZeroRun_longestZeroRun [] ⟨0, 0⟩ ⟨0, 0⟩ (fun h => absurd rfl h)
    ⟨[], [], rfl, rfl⟩ x.groups

/-! ### Addresses of version 6 -/

/-- What may follow an address of version 6: its scope, or the bracket after it. -/
def EndsAddress (rest : List Char) : Prop :=
  ∀ c ∈ rest.head?, c = '%' ∨ c = ']'

theorem EndsAddress.endsGroup {rest : List Char} (h : EndsAddress rest) : EndsGroup rest := by
  intro c hc
  rcases h c hc with rfl | rfl
  · decide
  · decide

theorem EndsAddress.stops {rest : List Char} (h : EndsAddress rest) : Stops rest := by
  refine stops_of_no_colon fun hcolon => ?_
  rcases h ':' hcolon with hc | hc
  · exact absurd hc (by decide)
  · exact absurd hc (by decide)

/-- Between the groups at both ends as many zeros are put back as are missing. -/
theorem addressV6_of_ends {x : AddressV6} {front back : List UInt16} {n : Nat} (hn : 1 < n)
    (hx : x.groups = front ++ List.replicate n 0 ++ back) {text rest : List Char} {mixed : Bool}
    (hback : groups (7 - front.length) true text = ⟨back, mixed, rest⟩) :
    addressV6 (groupsChars front ++ ':' :: ':' :: text) = some (x, rest) := by
  have hlength : front.length + n + back.length = 8 := by
    simpa [hx, Nat.add_assoc] using x.length_groups
  have hfront : groups 8 true (groupsChars front ++ ':' :: ':' :: text) =
      ⟨front, false, ':' :: ':' :: text⟩ :=
    groups_groupsChars (by omega) (endsGroup_colon _) (stops_two_colons _)
  have hends : AddressV6.ofEnds? front back = some x := by
    have hzeros : 8 - front.length - back.length = n := by omega
    have height : (front ++ List.replicate n 0 ++ back).length = 8 := by
      rw [← hx]
      exact x.length_groups
    simp only [AddressV6.ofEnds?, hzeros]
    rw [dif_pos height]
    simp [← hx]
  unfold addressV6
  rw [hfront]
  dsimp only
  rw [dif_neg (by omega)]
  simp [Scanner.char, hback, hends]

/-- An address that stands for one of version 4 shows it. -/
theorem groups_mapped (y : AddressV4) {rest : List Char} (hrest : EndsAddress rest) :
    groups 7 true (['f', 'f', 'f', 'f', ':'] ++ y.chars ++ rest) =
      ⟨0xffff :: y.groups, true, rest⟩ := by
  have hread : addressV4 (y.chars ++ rest) = some (y, rest) :=
    addressV4_chars y fun c hc => isDigit_sixteen_of_ten (hrest.endsGroup c hc).1
  have hgroup := groups_group true 6 0xffff (endsGroup_colon (y.chars ++ rest))
  have haddress : groups 6 false (':' :: (y.chars ++ rest)) = ⟨y.groups, true, rest⟩ := by
    simp [groups, afterColon, Scanner.char, hread]
  rw [haddress] at hgroup
  exact hgroup

theorem AddressV4.groups_ofGroups (high low : UInt16) :
    (AddressV4.ofGroups high low).groups = [high, low] := by
  have hword (w : UInt16) : (w / 256).toUInt8.toUInt16 * 256 + w.toUInt8.toUInt16 = w := by
    have hlt := w.toNat_lt
    apply UInt16.toNat_inj.1
    simp
    omega
  rw [AddressV4.ofGroups, AddressV4.groups, hword, hword]

theorem addressV6_chars (x : AddressV6) {rest : List Char} (hrest : EndsAddress rest) :
    addressV6 (x.chars ++ rest) = some (x, rest) := by
  unfold AddressV6.chars
  split
  · rename_i y hmapped
    obtain ⟨high, low, hgroups, rfl⟩ : ∃ high low,
        x.groups = [0, 0, 0, 0, 0, 0xffff, high, low] ∧ AddressV4.ofGroups high low = y := by
      unfold AddressV6.mapped? at hmapped
      split at hmapped
      · exact ⟨_, _, ‹_›, Option.some.inj hmapped⟩
      · cases hmapped
    have hx : x.groups = [] ++ List.replicate 5 0 ++
        (0xffff :: (AddressV4.ofGroups high low).groups) := by
      rw [AddressV4.groups_ofGroups, hgroups]
      rfl
    exact addressV6_of_ends (by decide) hx (groups_mapped _ hrest)
  · obtain ⟨front, back, hgroups, hstart⟩ := isZeroRun_zeroRun x
    have hlength := x.length_groups
    dsimp only
    split
    · rename_i hrun
      have hfront : x.groups.take x.zeroRun.start = front := by
        rw [hgroups, ← hstart]
        simp
      have hback : x.groups.drop (x.zeroRun.start + x.zeroRun.length) = back := by
        rw [hgroups, ← hstart]
        simp
      rw [hgroups] at hlength
      rw [hfront, hback, List.append_assoc, List.append_assoc]
      refine addressV6_of_ends hrun hgroups (groups_groupsChars ?_ hrest.endsGroup hrest.stops)
      simp at hlength
      omega
    · have hread : groups 8 true (groupsChars x.groups ++ rest) = ⟨x.groups, false, rest⟩ :=
        groups_groupsChars (by omega) hrest.endsGroup hrest.stops
      simp [addressV6, hread, hlength]

/-! ### Sockets -/

theorem socketNumber_colon (n : UInt16) :
    socketNumber (':' :: Nat.toDigits 10 n.toNat) = some (n, []) := by
  have hread : number socketForm (Nat.toDigits 10 n.toNat ++ []) = some (n.toNat, []) :=
    number_toDigits isWide_socketForm n.toNat_lt nofun
  rw [List.append_nil] at hread
  simp [socketNumber, Scanner.char, hread]

theorem socketV4_chars (x : AddressV4) (n : UInt16) :
    socketV4 (SocketAddress.v4 x n).chars = some (.v4 x n, []) := by
  have hread : addressV4 (x.chars ++ ':' :: Nat.toDigits 10 n.toNat) =
      some (x, ':' :: Nat.toDigits 10 n.toNat) := by
    refine addressV4_chars x ?_
    rintro _ ⟨⟩
    decide
  simp [socketV4, SocketAddress.chars, decimalChars, hread, socketNumber_colon]

/-- The scope as it is written, which is not at all if it is zero. -/
theorem scope_zone (s : UInt32) (rest : List Char) :
    scope ((if s = 0 then [] else '%' :: Nat.toDigits 10 s.toNat) ++ ']' :: rest) =
      (s, ']' :: rest) := by
  have hbracket : ∀ c ∈ (']' :: rest).head?, isDigit 10 c = false := by
    rintro _ ⟨⟩
    decide
  have hread : number scopeForm (Nat.toDigits 10 s.toNat ++ ']' :: rest) =
      some (s.toNat, ']' :: rest) := number_toDigits isWide_scopeForm s.toNat_lt hbracket
  split
  · rename_i hs
    simp [scope, Scanner.char, hs]
  · simp [scope, Scanner.char, hread]

theorem endsAddress_zone (s : UInt32) (rest : List Char) :
    EndsAddress ((if s = 0 then [] else '%' :: Nat.toDigits 10 s.toNat) ++ ']' :: rest) := by
  split
  · rintro _ ⟨⟩
    exact .inr rfl
  · rintro _ ⟨⟩
    exact .inl rfl

theorem socketV6_chars (x : AddressV6) (s : UInt32) (n : UInt16) :
    socketV6 (SocketAddress.v6 x s n).chars = some (.v6 x s n, []) := by
  have hread := addressV6_chars x (endsAddress_zone s (':' :: Nat.toDigits 10 n.toNat))
  simp only [socketV6, SocketAddress.chars, decimalChars, List.append_assoc, List.cons_append,
    List.nil_append]
  simp [Scanner.char, hread, scope_zone, socketNumber_colon]

/-- A bracket begins no address of version 4. -/
theorem socketV4_bracket (cs : List Char) : socketV4 ('[' :: cs) = none := by
  have hnone : addressV4 ('[' :: cs) = none := by
    apply addressV4_eq_none
    rw [List.dropWhile_cons_of_neg (by decide)]
    simp
  simp [socketV4, hnone]

end Address

/-- What is written as an address is read as that address, with every address, scope and
number of a socket. -/
theorem SocketAddress.read?_text (x : SocketAddress) : SocketAddress.read? x.text = some x := by
  have hread : (Address.socketV4 <|> Address.socketV6) x.chars = some (x, []) := by
    change (Address.socketV4 x.chars <|> Address.socketV6 x.chars) = _
    cases x with
    | v4 x n =>
        rw [Address.socketV4_chars]
        rfl
    | v6 x s n =>
        have hnone : Address.socketV4 (v6 x s n).chars = none := Address.socketV4_bracket _
        rw [hnone, Address.socketV6_chars]
        rfl
  rw [read?, Scanner.readAll, text, String.toList_ofList, hread]

end NameOwners
