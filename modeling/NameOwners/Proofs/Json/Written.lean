import NameOwners.Json.Reader

/-!
Arrays and objects as they are written. A reader hands the items of an array or an
object to its caller one by one, and the caller may refuse one before the next is
read. If all goes well this is the same as to read all items first and to put them
together afterwards (`array_eq_ok_iff`, `object_eq_ok_iff`). A value is put together
by sorting the entries of its objects; `written` leaves the outermost ones as they
are, and sorting them then gives the value (`parse_eq_ok_iff`).
-/

namespace NameOwners.Json

/-- A value with its outermost entries sorted by key, of which the last of equal keys
counts. -/
def sorted : Json → Json
  | object entries => ofEntries entries
  | v => v

namespace Reader

variable {α β σ κ ι ε : Type}

/-! ### Results of reading -/

theorem bind_eq_ok_iff {x : Reader α} {f : α → Reader β} {cs rest : List Char} {b : β} :
    (x >>= f) cs = .ok (b, rest) ↔ ∃ a mid, x cs = .ok (a, mid) ∧ f a mid = .ok (b, rest) := by
  change (x cs >>= fun p => f p.1 p.2) = _ ↔ _
  cases x cs with
  | error e => exact iff_of_false nofun (by rintro ⟨a, mid, h, -⟩; cases h)
  | ok p =>
      obtain ⟨a, mid⟩ := p
      simp [bind, Except.bind, and_assoc]

theorem pure_eq_ok_iff {a b : α} {cs rest : List Char} :
    (pure a : Reader α) cs = .ok (b, rest) ↔ a = b ∧ cs = rest := by
  change Except.ok (a, cs) = _ ↔ _
  simp

theorem map_eq_ok_iff {x : Reader α} {f : α → β} {cs rest : List Char} {b : β} :
    (f <$> x) cs = .ok (b, rest) ↔ ∃ a, x cs = .ok (a, rest) ∧ f a = b := by
  change (x cs >>= fun p => pure (f p.1, p.2)) = _ ↔ _
  cases x cs with
  | error e => exact iff_of_false nofun (by rintro ⟨a, h, -⟩; cases h)
  | ok p =>
      obtain ⟨a, mid⟩ := p
      have hpair : (f a, mid) = (b, rest) ↔ ∃ a', (a, mid) = (a', rest) ∧ f a' = b := by
        constructor
        · rintro h
          obtain ⟨rfl, rfl⟩ := Prod.mk.inj h
          exact ⟨a, rfl, rfl⟩
        · rintro ⟨a', h, rfl⟩
          obtain ⟨rfl, rfl⟩ := Prod.mk.inj h
          rfl
      simpa [bind, Except.bind, pure, Except.pure] using hpair

theorem except_bind_eq_ok_iff {x : Except ε α} {f : α → Except ε β} {b : β} :
    (x >>= f) = .ok b ↔ ∃ a, x = .ok a ∧ f a = .ok b := by
  cases x with
  | error e => exact iff_of_false nofun (by rintro ⟨a, h, -⟩; cases h)
  | ok a => simp [bind, Except.bind]

theorem except_map_eq_ok_iff {x : Except ε α} {f : α → β} {b : β} :
    x.map f = .ok b ↔ ∃ a, x = .ok a ∧ f a = b := by
  cases x with
  | error e => exact iff_of_false nofun (by rintro ⟨a, h, -⟩; cases h)
  | ok a => simp [Except.map]

/-! ### Items one after the other -/

def items (next : Bool → Reader (Option κ)) (item : κ → Reader ι) :
    (fuel : Nat) → (first : Bool) → Reader (List ι)
  | 0, _ => unfinished .value
  | fuel + 1, first => do
    match ← next first with
    | some k => do
      let x ← item k
      let xs ← items next item fuel false
      pure (x :: xs)
    | none => pure []

def nextUnit (first : Bool) : Reader (Option Unit) :=
  (fun more => if more then some () else none) <$> nextElement first

def elements (item : Reader ι) : Reader (List ι) := do
  advance
  let xs ← fun cs => items nextUnit (fun _ => item) (cs.length + 1) true cs
  closeArray
  pure xs

def entries (item : String → Reader ι) : Reader (List ι) := do
  advance
  let xs ← fun cs => items nextKey item (cs.length + 1) true cs
  advance
  pure xs

theorem items_succ_eq_ok_iff {next : Bool → Reader (Option κ)} {item : κ → Reader ι}
    {fuel : Nat} {first : Bool} {cs rest : List Char} {xs : List ι} :
    items next item (fuel + 1) first cs = .ok (xs, rest) ↔
      next first cs = .ok (none, rest) ∧ xs = [] ∨
      ∃ k mid x mid' xs', next first cs = .ok (some k, mid) ∧ item k mid = .ok (x, mid') ∧
        items next item fuel false mid' = .ok (xs', rest) ∧ xs = x :: xs' := by
  rw [items, bind_eq_ok_iff]
  constructor
  · rintro ⟨o, mid, hnext, h⟩
    cases o with
    | none =>
        obtain ⟨rfl, rfl⟩ := pure_eq_ok_iff.1 h
        exact .inl ⟨hnext, rfl⟩
    | some k =>
        obtain ⟨x, mid', hitem, h⟩ := bind_eq_ok_iff.1 h
        obtain ⟨xs', mid'', hitems, h⟩ := bind_eq_ok_iff.1 h
        obtain ⟨rfl, rfl⟩ := pure_eq_ok_iff.1 h
        exact .inr ⟨k, mid, x, mid', xs', hnext, hitem, hitems, rfl⟩
  · rintro (⟨hnext, rfl⟩ | ⟨k, mid, x, mid', xs', hnext, hitem, hitems, rfl⟩)
    · exact ⟨none, rest, hnext, rfl⟩
    · exact ⟨some k, mid, hnext, bind_eq_ok_iff.2 ⟨x, mid', hitem,
        bind_eq_ok_iff.2 ⟨xs', rest, hitems, rfl⟩⟩⟩

/-- A loop that hands each item to its caller, as long as there is a next one. -/
structure IsFold (next : Bool → Reader (Option κ)) (step : κ → σ → Reader σ)
    (fold : Nat → Bool → σ → Reader σ) : Prop where
  zero : ∀ first s cs p, fold 0 first s cs ≠ .ok p
  succ : ∀ fuel first s cs s' rest, fold (fuel + 1) first s cs = .ok (s', rest) ↔
    next first cs = .ok (none, rest) ∧ s' = s ∨
    ∃ k mid s₁ mid', next first cs = .ok (some k, mid) ∧ step k s mid = .ok (s₁, mid') ∧
      fold fuel false s₁ mid' = .ok (s', rest)

theorem isFold_foldEntries (step : String → σ → Reader σ) :
    IsFold nextKey step (foldEntries step) := by
  refine ⟨fun _ _ _ _ => nofun, fun fuel first s cs s' rest => ?_⟩
  rw [foldEntries, bind_eq_ok_iff]
  constructor
  · rintro ⟨o, mid, hnext, h⟩
    cases o with
    | none =>
        obtain ⟨rfl, rfl⟩ := pure_eq_ok_iff.1 h
        exact .inl ⟨hnext, rfl⟩
    | some k =>
        obtain ⟨s₁, mid', hstep, h⟩ := bind_eq_ok_iff.1 h
        exact .inr ⟨k, mid, s₁, mid', hnext, hstep, h⟩
  · rintro (⟨hnext, rfl⟩ | ⟨k, mid, s₁, mid', hnext, hstep, h⟩)
    · exact ⟨none, rest, hnext, rfl⟩
    · exact ⟨some k, mid, hnext, bind_eq_ok_iff.2 ⟨s₁, mid', hstep, h⟩⟩

theorem isFold_foldElements (step : σ → Reader σ) :
    IsFold nextUnit (fun _ => step) (foldElements step) := by
  refine ⟨fun _ _ _ _ => nofun, fun fuel first s cs s' rest => ?_⟩
  rw [foldElements, bind_eq_ok_iff]
  simp only [nextUnit, map_eq_ok_iff]
  constructor
  · rintro ⟨more, mid, hnext, h⟩
    cases more with
    | false =>
        obtain ⟨rfl, rfl⟩ := pure_eq_ok_iff.1 h
        exact .inl ⟨⟨false, hnext, rfl⟩, rfl⟩
    | true =>
        obtain ⟨s₁, mid', hstep, h⟩ := bind_eq_ok_iff.1 h
        exact .inr ⟨(), mid, s₁, mid', ⟨true, hnext, rfl⟩, hstep, h⟩
  · rintro (⟨⟨more, hnext, hmore⟩, rfl⟩ | ⟨k, mid, s₁, mid', ⟨more, hnext, hmore⟩, hstep, h⟩)
    · cases more with
      | false => exact ⟨false, rest, hnext, rfl⟩
      | true => cases hmore
    · cases more with
      | false => cases hmore
      | true => exact ⟨true, mid, hnext, bind_eq_ok_iff.2 ⟨s₁, mid', hstep, h⟩⟩

/-- A step of a caller reads an item, and takes it up or refuses it. -/
def Takes (step : κ → σ → Reader σ) (item : κ → Reader ι) (take : σ → ι → Except ε σ) : Prop :=
  ∀ k s cs s' rest, step k s cs = .ok (s', rest) ↔
    ∃ x, item k cs = .ok (x, rest) ∧ take s x = .ok s'

variable {next : Bool → Reader (Option κ)} {step : κ → σ → Reader σ} {item : κ → Reader ι}
variable {take : σ → ι → Except ε σ} {s s' : σ} {cs rest : List Char}

/-- To take up each item when it is read is to read all items and take them up then. -/
theorem IsFold.eq_ok_iff {fold : Nat → Bool → σ → Reader σ} (hfold : IsFold next step fold)
    (h : Takes step item take) {fuel : Nat} {first : Bool} :
    fold fuel first s cs = .ok (s', rest) ↔
      ∃ xs, items next item fuel first cs = .ok (xs, rest) ∧ xs.foldlM take s = .ok s' := by
  induction fuel generalizing first s cs with
  | zero => exact iff_of_false (hfold.zero _ _ _ _) (by rintro ⟨xs, hxs, -⟩; cases hxs)
  | succ fuel ih =>
      simp only [items_succ_eq_ok_iff]
      rw [hfold.succ]
      constructor
      · rintro (⟨hnext, rfl⟩ | ⟨k, mid, s₁, mid', hnext, hstep, hrest⟩)
        · exact ⟨[], .inl ⟨hnext, rfl⟩, rfl⟩
        · obtain ⟨x, hitem, htake⟩ := (h ..).1 hstep
          obtain ⟨xs, hitems, htakes⟩ := ih.1 hrest
          refine ⟨x :: xs, .inr ⟨k, mid, x, mid', xs, hnext, hitem, hitems, rfl⟩, ?_⟩
          rw [List.foldlM_cons, htake]
          exact htakes
      · rintro ⟨xs, ⟨hnext, rfl⟩ | ⟨k, mid, x, mid', xs, hnext, hitem, hitems, rfl⟩, htakes⟩
        · exact .inl ⟨hnext, (Except.ok.inj htakes).symm⟩
        · rw [List.foldlM_cons] at htakes
          obtain ⟨s₁, htake, htakes⟩ := except_bind_eq_ok_iff.1 htakes
          exact .inr ⟨k, mid, s₁, mid', hnext, (h ..).2 ⟨x, hitem, htake⟩,
            ih.2 ⟨xs, hitems, htakes⟩⟩

theorem object_eq_ok_iff {step : String → σ → Reader σ} {item : String → Reader ι}
    (h : Takes step item take) :
    object step s cs = .ok (s', rest) ↔
      ∃ xs, entries item cs = .ok (xs, rest) ∧ xs.foldlM take s = .ok s' := by
  simp only [object, entries, bind_eq_ok_iff, pure_eq_ok_iff,
    (isFold_foldEntries step).eq_ok_iff h]
  constructor
  · rintro ⟨_, mid, hopen, _, mid', ⟨xs, hitems, htakes⟩, _, _, hclose, rfl, rfl⟩
    exact ⟨xs, ⟨_, mid, hopen, _, mid', hitems, _, _, hclose, rfl, rfl⟩, htakes⟩
  · rintro ⟨xs, ⟨_, mid, hopen, _, mid', hitems, _, _, hclose, rfl, rfl⟩, htakes⟩
    exact ⟨_, mid, hopen, _, mid', ⟨_, hitems, htakes⟩, _, _, hclose, rfl, rfl⟩

theorem array_eq_ok_iff {step : σ → Reader σ} {item : Reader ι}
    (h : Takes (fun _ : Unit => step) (fun _ => item) take) :
    array step s cs = .ok (s', rest) ↔
      ∃ xs, elements item cs = .ok (xs, rest) ∧ xs.foldlM take s = .ok s' := by
  simp only [array, elements, bind_eq_ok_iff, pure_eq_ok_iff,
    (isFold_foldElements step).eq_ok_iff h]
  constructor
  · rintro ⟨_, mid, hopen, _, mid', ⟨xs, hitems, htakes⟩, _, _, hclose, rfl, rfl⟩
    exact ⟨xs, ⟨_, mid, hopen, _, mid', hitems, _, _, hclose, rfl, rfl⟩, htakes⟩
  · rintro ⟨xs, ⟨_, mid, hopen, _, mid', hitems, _, _, hclose, rfl, rfl⟩, htakes⟩
    exact ⟨_, mid, hopen, _, mid', ⟨_, hitems, htakes⟩, _, _, hclose, rfl, rfl⟩

/-! ### Values by their first character -/

theorem peek_bind {f : Option Char → Reader α} {cs : List Char} :
    (peek >>= f) cs = f (cs.dropWhile isSpace).head? (cs.dropWhile isSpace) := rfl

def scalar (c : Char) : Reader Json :=
  if c = 'n' then do
    word ['n', 'u', 'l', 'l']
    pure .null
  else if c = 't' then do
    word ['t', 'r', 'u', 'e']
    pure (.bool true)
  else if c = 'f' then do
    word ['f', 'a', 'l', 's', 'e']
    pure (.bool false)
  else if c = '-' ∨ Scan.isDigit c then Json.number <$> number
  else malformed .expectedValue

def entry (depth : Nat) (key : String) : Reader (String × Json) := do
  colon
  pure (key, ← value depth)

/-- To collect items from the last to the first and to turn them round in the end is to
collect them in their order. -/
theorem exists_collected_iff {P : List ι → Prop} {make : List ι → Json} {v : Json} :
    (∃ acc, (∃ xs, P xs ∧
      xs.foldlM (fun acc x => (.ok (x :: acc) : Except Error (List ι))) [] = .ok acc) ∧
        make acc.reverse = v) ↔ ∃ xs, P xs ∧ make xs = v := by
  have hfold (xs acc : List ι) :
      xs.foldlM (fun acc x => (.ok (x :: acc) : Except Error (List ι))) acc =
        .ok (xs.reverse ++ acc) := by
    induction xs generalizing acc with
    | nil => rfl
    | cons x xs ih =>
        rw [List.foldlM_cons]
        exact (ih (x :: acc)).trans (by simp)
  simp only [hfold, List.append_nil, Except.ok.injEq]
  constructor
  · rintro ⟨_, ⟨xs, hxs, rfl⟩, hv⟩
    exact ⟨xs, hxs, by rwa [List.reverse_reverse] at hv⟩
  · rintro ⟨xs, hxs, hv⟩
    exact ⟨xs.reverse, ⟨xs, hxs, rfl⟩, by rwa [List.reverse_reverse]⟩

theorem array_value_eq_ok_iff {depth : Nat} {v : Json} :
    (do
      let elements ← array (fun vs => do pure ((← value depth) :: vs)) []
      pure (Json.array elements.reverse) : Reader Json) cs = .ok (v, rest) ↔
      ∃ xs, elements (value depth) cs = .ok (xs, rest) ∧ .array xs = v := by
  have htakes : Takes (fun (_ : Unit) vs => do pure ((← value depth) :: vs))
      (fun _ => value depth) (fun acc x => (.ok (x :: acc) : Except Error (List Json))) := by
    intro k s cs s' rest
    simp only [bind_eq_ok_iff, pure_eq_ok_iff, Except.ok.injEq]
    constructor
    · rintro ⟨x, mid, hvalue, rfl, rfl⟩
      exact ⟨x, hvalue, rfl⟩
    · rintro ⟨x, hvalue, rfl⟩
      exact ⟨x, rest, hvalue, rfl, rfl⟩
  refine Iff.trans ?_ exists_collected_iff
  simp only [bind_eq_ok_iff, pure_eq_ok_iff, array_eq_ok_iff htakes]
  constructor
  · rintro ⟨acc, mid, hacc, hv, rfl⟩
    exact ⟨acc, hacc, hv⟩
  · rintro ⟨acc, hacc, hv⟩
    exact ⟨acc, rest, hacc, hv, rfl⟩

theorem object_value_eq_ok_iff {depth : Nat} {v : Json} :
    (do
      let entries ← object (fun key es => do
        colon
        pure ((key, ← value depth) :: es)) []
      pure (ofEntries entries.reverse) : Reader Json) cs = .ok (v, rest) ↔
      ∃ xs, entries (entry depth) cs = .ok (xs, rest) ∧ ofEntries xs = v := by
  have htakes : Takes (fun key es => do
        colon
        pure ((key, ← value depth) :: es))
      (entry depth) (fun acc x => (.ok (x :: acc) : Except Error (List (String × Json)))) := by
    intro key s cs s' rest
    simp only [entry, bind_eq_ok_iff, pure_eq_ok_iff, Except.ok.injEq]
    constructor
    · rintro ⟨_, mid, hcolon, x, mid', hvalue, rfl, rfl⟩
      exact ⟨(key, x), ⟨_, mid, hcolon, x, mid', hvalue, rfl, rfl⟩, rfl⟩
    · rintro ⟨_, ⟨_, mid, hcolon, x, mid', hvalue, rfl, rfl⟩, rfl⟩
      exact ⟨_, mid, hcolon, x, mid', hvalue, rfl, rfl⟩
  refine Iff.trans ?_ exists_collected_iff
  simp only [bind_eq_ok_iff, pure_eq_ok_iff, object_eq_ok_iff htakes]
  constructor
  · rintro ⟨acc, mid, hacc, hv, rfl⟩
    exact ⟨acc, hacc, hv⟩
  · rintro ⟨acc, hacc, hv⟩
    exact ⟨acc, rest, hacc, hv, rfl⟩

/-- A value, if arrays and objects are read in a given way. Its first character says what
it is. -/
def byFirst (array object : Reader Json) : Reader Json := do
  match ← peek with
  | none => unfinished .value
  | some c =>
    if c = '"' then Json.string <$> string
    else if c = '[' then array
    else if c = '{' then object
    else scalar c

theorem byFirst_eq_ok_iff {array object : Reader Json} {v : Json} :
    byFirst array object cs = .ok (v, rest) ↔
      (cs.dropWhile isSpace).head? = some '"' ∧
        (∃ text, string (cs.dropWhile isSpace) = .ok (text, rest) ∧ .string text = v) ∨
      (cs.dropWhile isSpace).head? = some '[' ∧ array (cs.dropWhile isSpace) = .ok (v, rest) ∨
      (cs.dropWhile isSpace).head? = some '{' ∧ object (cs.dropWhile isSpace) = .ok (v, rest) ∨
      ∃ c, (cs.dropWhile isSpace).head? = some c ∧
        scalar c (cs.dropWhile isSpace) = .ok (v, rest) := by
  rw [byFirst, peek_bind]
  generalize cs.dropWhile isSpace = mid
  cases mid.head? with
  | none => simp [unfinished, fail]
  | some c =>
      simp only [Option.some.injEq, exists_eq_left']
      by_cases hquote : c = '"'
      · have hscalar : ¬scalar c mid = .ok (v, rest) := by rw [hquote]; exact nofun
        simp [hquote, map_eq_ok_iff, hquote ▸ hscalar]
      by_cases hbracket : c = '['
      · have hscalar : ¬scalar c mid = .ok (v, rest) := by rw [hbracket]; exact nofun
        simp [hbracket, hbracket ▸ hscalar]
      by_cases hbrace : c = '{'
      · have hscalar : ¬scalar c mid = .ok (v, rest) := by rw [hbrace]; exact nofun
        simp [hbrace, hbrace ▸ hscalar]
      · simp [hquote, hbracket, hbrace]

theorem value_eq_byFirst (depth : Nat) :
    value depth =
      byFirst
        (match depth with
        | 0 => malformed .tooDeep
        | depth + 1 => do
          let elements ← array (fun vs => do pure ((← value depth) :: vs)) []
          pure (Json.array elements.reverse))
        (match depth with
        | 0 => malformed .tooDeep
        | depth + 1 => do
          let entries ← object (fun key es => do
            colon
            pure ((key, ← value depth) :: es)) []
          pure (ofEntries entries.reverse)) := by
  funext cs
  rw [value.eq_def, byFirst, peek_bind, peek_bind]
  generalize cs.dropWhile isSpace = mid
  cases mid.head? with
  | none => rfl
  | some c =>
      dsimp only
      by_cases hquote : c = '"'
      · subst hquote
        rfl
      by_cases hbracket : c = '['
      · subst hbracket
        rfl
      by_cases hbrace : c = '{'
      · subst hbrace
        rfl
      · simp only [hquote, hbracket, hbrace, if_false, scalar]

theorem scalar_kinds {c : Char} {v : Json} (h : scalar c cs = .ok (v, rest)) :
    v = .null ∨ (∃ b, v = .bool b) ∨ ∃ x, v = .number x := by
  unfold scalar at h
  split at h
  · obtain ⟨_, _, -, h⟩ := bind_eq_ok_iff.1 h
    exact .inl (pure_eq_ok_iff.1 h).1.symm
  split at h
  · obtain ⟨_, _, -, h⟩ := bind_eq_ok_iff.1 h
    exact .inr (.inl ⟨true, (pure_eq_ok_iff.1 h).1.symm⟩)
  split at h
  · obtain ⟨_, _, -, h⟩ := bind_eq_ok_iff.1 h
    exact .inr (.inl ⟨false, (pure_eq_ok_iff.1 h).1.symm⟩)
  split at h
  · obtain ⟨x, -, h⟩ := map_eq_ok_iff.1 h
    exact .inr (.inr ⟨x, h.symm⟩)
  · cases h

theorem sorted_of_scalar {c : Char} {v : Json} (h : scalar c cs = .ok (v, rest)) :
    v.sorted = v := by
  rcases scalar_kinds h with rfl | ⟨b, rfl⟩ | ⟨x, rfl⟩
  · rfl
  · rfl
  · rfl

/-- A value that begins with a quote is a string, and no other value is. -/
theorem value_eq_string_iff {depth : Nat} {text : String} :
    value depth cs = .ok (.string text, rest) ↔
      (cs.dropWhile isSpace).head? = some '"' ∧
        string (cs.dropWhile isSpace) = .ok (text, rest) := by
  rw [value_eq_byFirst, byFirst_eq_ok_iff]
  constructor
  · rintro (⟨hquote, text', hstring, htext⟩ | ⟨-, h⟩ | ⟨-, h⟩ | ⟨c, -, h⟩)
    · obtain rfl := Json.string.inj htext
      exact ⟨hquote, hstring⟩
    · cases depth with
      | zero => cases h
      | succ depth =>
          obtain ⟨xs, -, hxs⟩ := array_value_eq_ok_iff.1 h
          cases hxs
    · cases depth with
      | zero => cases h
      | succ depth =>
          obtain ⟨xs, -, hxs⟩ := object_value_eq_ok_iff.1 h
          cases hxs
    · rcases scalar_kinds h with h | ⟨b, h⟩ | ⟨x, h⟩
      · cases h
      · cases h
      · cases h
  · rintro ⟨hquote, hstring⟩
    exact .inl ⟨hquote, text, hstring, rfl⟩

theorem refuse_ne_ok {expected : String} {a : α} :
    (refuse expected : Reader α) cs ≠ .ok (a, rest) := by
  rw [refuse, peek_bind]
  generalize cs.dropWhile isSpace = mid
  intro h
  cases hhead : mid.head? with
  | none =>
      rw [hhead] at h
      cases h
  | some c =>
      rw [hhead] at h
      dsimp only at h
      split at h
      · cases h
      split at h
      · cases h
      · obtain ⟨_, _, -, h⟩ := bind_eq_ok_iff.1 h
        cases h

/-- A string that is asked for is read as any value is, and nothing else is accepted. -/
theorem stringValue_eq_ok_iff {expected text : String} (depth : Nat) :
    stringValue expected cs = .ok (text, rest) ↔
      value depth cs = .ok (.string text, rest) := by
  rw [value_eq_string_iff, stringValue, expect, peek_bind]
  generalize cs.dropWhile isSpace = mid
  cases mid.head? with
  | none => exact iff_of_false nofun (by rintro ⟨h, -⟩; cases h)
  | some c =>
      dsimp only
      by_cases hquote : c = '"'
      · subst hquote
        simp
      · rw [if_neg (by simpa using hquote)]
        refine iff_of_false (fun h => ?_) (by rintro ⟨h, -⟩; exact hquote (Option.some.inj h))
        exact refuse_ne_ok h

/-! ### Values as they are written -/

/-- Any value, of which the outermost entries are kept as they are written. -/
def written (depth : Nat) : Reader Json :=
  byFirst (Json.array <$> elements (value depth)) (Json.object <$> entries (entry depth))

/-- Once the outermost entries of an object are sorted by key, and only the last of equal
keys is kept, what is written is the value that is read. -/
theorem value_succ_eq_ok_iff {depth : Nat} {v : Json} :
    value (depth + 1) cs = .ok (v, rest) ↔
      ∃ w, written depth cs = .ok (w, rest) ∧ w.sorted = v := by
  rw [value_eq_byFirst]
  dsimp only
  simp only [written, byFirst_eq_ok_iff, array_value_eq_ok_iff, object_value_eq_ok_iff,
    map_eq_ok_iff]
  constructor
  · rintro (⟨hc, text, h, rfl⟩ | ⟨hc, xs, h, rfl⟩ | ⟨hc, xs, h, rfl⟩ | ⟨c, hc, h⟩)
    · exact ⟨_, .inl ⟨hc, text, h, rfl⟩, rfl⟩
    · exact ⟨_, .inr (.inl ⟨hc, xs, h, rfl⟩), rfl⟩
    · exact ⟨_, .inr (.inr (.inl ⟨hc, xs, h, rfl⟩)), rfl⟩
    · exact ⟨v, .inr (.inr (.inr ⟨c, hc, h⟩)), sorted_of_scalar h⟩
  · rintro ⟨w, ⟨hc, text, h, rfl⟩ | ⟨hc, xs, h, rfl⟩ | ⟨hc, xs, h, rfl⟩ | ⟨c, hc, h⟩, rfl⟩
    · exact .inl ⟨hc, text, h, rfl⟩
    · exact .inr (.inl ⟨hc, xs, h, rfl⟩)
    · exact .inr (.inr (.inl ⟨hc, xs, h, rfl⟩))
    · rw [sorted_of_scalar h]
      exact .inr (.inr (.inr ⟨c, hc, h⟩))

/-! ### Whole texts -/

theorem endOfText_eq_ok_iff {u : Unit} :
    endOfText cs = .ok (u, rest) ↔ cs.dropWhile isSpace = [] ∧ rest = [] := by
  rw [endOfText, peek_bind]
  cases cs.dropWhile isSpace with
  | nil =>
      refine pure_eq_ok_iff.trans ?_
      simp [eq_comm]
  | cons c mid => simp [malformed, fail]

/-- A text is read if nothing but blanks is left of it. -/
theorem run_eq_ok_iff {r : Reader α} {text : String} {a : α} :
    r.run text = .ok a ↔
      ∃ rest, r text.toList = .ok (a, rest) ∧ rest.dropWhile isSpace = [] := by
  have hrun (x : Reader α) :
      x.run' text.toList = .ok a ↔ ∃ rest, x text.toList = .ok (a, rest) := by
    change (x text.toList).map Prod.fst = _ ↔ _
    cases x text.toList with
    | error e => simp [Except.map]
    | ok p =>
        obtain ⟨a', rest⟩ := p
        simp [Except.map]
  rw [run, hrun]
  simp only [bind_eq_ok_iff, pure_eq_ok_iff, endOfText_eq_ok_iff]
  constructor
  · rintro ⟨_, _, rest, hread, _, _, ⟨hend, rfl⟩, rfl, rfl⟩
    exact ⟨rest, hread, hend⟩
  · rintro ⟨rest, hread, hend⟩
    exact ⟨[], a, rest, hread, (), [], ⟨hend, rfl⟩, rfl, rfl⟩

end Reader

/-- A text as it is written: a value whose outermost entries are all kept, in their order. -/
def parseWritten (text : String) : Except Error Json :=
  (Reader.written (Reader.maxDepth - 1)).run text

theorem parse_eq_ok_iff {text : String} {v : Json} :
    parse text = .ok v ↔ ∃ w, parseWritten text = .ok w ∧ w.sorted = v := by
  have hvalue {cs rest : List Char} : Reader.value Reader.maxDepth cs = .ok (v, rest) ↔
      ∃ w, Reader.written (Reader.maxDepth - 1) cs = .ok (w, rest) ∧ w.sorted = v :=
    Reader.value_succ_eq_ok_iff
  simp only [parse, parseWritten, Reader.run_eq_ok_iff, hvalue]
  constructor
  · rintro ⟨rest, ⟨w, hwritten, hsorted⟩, hend⟩
    exact ⟨w, ⟨rest, hwritten, hend⟩, hsorted⟩
  · rintro ⟨w, ⟨rest, hwritten, hend⟩, hsorted⟩
    exact ⟨rest, ⟨w, hwritten, hsorted⟩, hend⟩

end NameOwners.Json
