/-!
Finite maps from texts to values, kept as a list of entries in strictly increasing order of the
keys. The order makes the list a normal form: two dictionaries with the same readings are equal
(`Dictionary.ext_get?`), and printing one lists its keys in order. Every update has one lemma that
says what is read afterwards.
-/

namespace NameOwners

structure Dictionary (α : Type) where
  entries : List (String × α)
  sorted : entries.Pairwise (fun a b => a.1 < b.1)

namespace Dictionary

variable {α β : Type}

instance [DecidableEq α] : DecidableEq (Dictionary α) := fun a b =>
  decidable_of_iff (a.entries = b.entries)
    ⟨fun h => by cases a; cases b; simp_all, fun h => h ▸ rfl⟩

def empty : Dictionary α := ⟨[], .nil⟩

instance : EmptyCollection (Dictionary α) := ⟨empty⟩

instance : Inhabited (Dictionary α) := ⟨empty⟩

def find? (key : String) : List (String × α) → Option α
  | [] => none
  | (k, v) :: rest => if key = k then some v else find? key rest

def get? (d : Dictionary α) (key : String) : Option α :=
  find? key d.entries

def keys (d : Dictionary α) : List String :=
  d.entries.map Prod.fst

def size (d : Dictionary α) : Nat :=
  d.entries.length

def isEmpty (d : Dictionary α) : Bool :=
  d.entries.isEmpty

/-- Put an entry at its place in an ordered list, instead of one with the same key. -/
def insertEntry (key : String) (value : α) : List (String × α) → List (String × α)
  | [] => [(key, value)]
  | (k, v) :: rest =>
    if key < k then (key, value) :: (k, v) :: rest
    else if key = k then (key, value) :: rest
    else (k, v) :: insertEntry key value rest

theorem eq_or_mem_of_mem_insertEntry {key : String} {value : α} {e : String × α} :
    ∀ {l : List (String × α)}, e ∈ insertEntry key value l → e = (key, value) ∨ e ∈ l
  | [], h => by simpa [insertEntry] using h
  | (k, v) :: rest, h => by
    unfold insertEntry at h
    split at h
    · simpa using h
    · split at h
      · grind
      · rcases List.mem_cons.1 h with h | h
        · simp [h]
        · rcases eq_or_mem_of_mem_insertEntry h with h | h <;> simp [h]

theorem lt_of_not_lt_of_ne {a b : String} (h : ¬a < b) (hne : a ≠ b) : b < a :=
  Decidable.byContradiction fun h' =>
    hne (String.le_antisymm (String.not_lt.1 h') (String.not_lt.1 h))

theorem pairwise_insertEntry (key : String) (value : α) :
    ∀ {l : List (String × α)}, l.Pairwise (fun a b => a.1 < b.1) →
      (insertEntry key value l).Pairwise (fun a b => a.1 < b.1)
  | [], _ => by simp [insertEntry]
  | (k, v) :: rest, h => by
    have hrest := (List.pairwise_cons.1 h).2
    have hk := (List.pairwise_cons.1 h).1
    unfold insertEntry
    split
    · rename_i hlt
      refine List.pairwise_cons.2 ⟨fun e he => ?_, h⟩
      rcases List.mem_cons.1 he with rfl | he
      · exact hlt
      · exact String.lt_trans hlt (hk e he)
    · split
      · rename_i _ heq
        subst heq
        exact List.pairwise_cons.2 ⟨hk, hrest⟩
      · rename_i hlt hne
        refine List.pairwise_cons.2 ⟨fun e he => ?_, pairwise_insertEntry key value hrest⟩
        rcases eq_or_mem_of_mem_insertEntry he with rfl | he
        · exact lt_of_not_lt_of_ne hlt hne
        · exact hk e he

/-- Store a value under a key, instead of what was there. -/
def insert (d : Dictionary α) (key : String) (value : α) : Dictionary α :=
  ⟨insertEntry key value d.entries, pairwise_insertEntry key value d.sorted⟩

def erase (d : Dictionary α) (key : String) : Dictionary α :=
  ⟨d.entries.filter (fun e => e.1 != key), d.sorted.filter _⟩

def map (f : α → β) (d : Dictionary α) : Dictionary β :=
  ⟨d.entries.map fun e => (e.1, f e.2), List.pairwise_map.2 d.sorted⟩

/-- Store the entries one after the other, so that of equal keys the last one counts. -/
def ofList (entries : List (String × α)) : Dictionary α :=
  entries.foldl (fun d e => d.insert e.1 e.2) ∅

/-! ### Reading after an update -/

@[simp] theorem get?_empty (key : String) : (∅ : Dictionary α).get? key = none := rfl

theorem find?_insertEntry (key : String) (value : α) (k : String) :
    ∀ l : List (String × α),
      find? k (insertEntry key value l) = if k = key then some value else find? k l
  | [] => rfl
  | (k', v') :: rest => by
    have ih := find?_insertEntry key value k rest
    unfold insertEntry
    split
    · rfl
    · split <;> grind [find?]

@[simp] theorem get?_insert (d : Dictionary α) (key : String) (value : α) (k : String) :
    (d.insert key value).get? k = if k = key then some value else d.get? k :=
  find?_insertEntry key value k d.entries

theorem find?_filter_ne (key k : String) :
    ∀ l : List (String × α),
      find? k (l.filter fun e => e.1 != key) = if k = key then none else find? k l
  | [] => by simp [find?]
  | (k', v') :: rest => by
    have ih := find?_filter_ne key k rest
    grind [find?]

@[simp] theorem get?_erase (d : Dictionary α) (key k : String) :
    (d.erase key).get? k = if k = key then none else d.get? k :=
  find?_filter_ne key k d.entries

theorem find?_map (f : α → β) (key : String) :
    ∀ l : List (String × α), find? key (l.map fun e => (e.1, f e.2)) = (find? key l).map f
  | [] => rfl
  | (k, v) :: rest => by
    have ih := find?_map f key rest
    grind [find?]

@[simp] theorem get?_map (f : α → β) (d : Dictionary α) (key : String) :
    (d.map f).get? key = (d.get? key).map f :=
  find?_map f key d.entries

/-! ### Equality -/

theorem find?_eq_none_of_lt {key : String} :
    ∀ {l : List (String × α)}, (∀ e ∈ l, key < e.1) → find? key l = none
  | [], _ => rfl
  | (k, v) :: rest, h => by
    have hne : key ≠ k := fun hk => String.lt_irrefl k (hk ▸ h (k, v) (by simp))
    have hrest : find? key rest = none :=
      find?_eq_none_of_lt fun e he => h e (List.mem_cons_of_mem _ he)
    simpa [find?, hne] using hrest

theorem find?_cons_eq_none_of_lt {key k : String} {v : α} {l : List (String × α)}
    (h : key < k) (hl : ∀ e ∈ l, k < e.1) : find? key ((k, v) :: l) = none :=
  find?_eq_none_of_lt fun e he => by
    rcases List.mem_cons.1 he with rfl | he
    · exact h
    · exact String.lt_trans h (hl e he)

theorem entries_eq_of_find?_eq :
    ∀ {l m : List (String × α)}, l.Pairwise (fun a b => a.1 < b.1) →
      m.Pairwise (fun a b => a.1 < b.1) → (∀ k, find? k l = find? k m) → l = m
  | [], [], _, _, _ => rfl
  | [], (k, v) :: _, _, _, h => by simpa [find?] using h k
  | (k, v) :: _, [], _, _, h => by simpa [find?] using h k
  | (k, v) :: l, (k', v') :: m, hl, hm, h => by
    have hl' := List.pairwise_cons.1 hl
    have hm' := List.pairwise_cons.1 hm
    have hkk : k = k' := by
      refine Decidable.byContradiction fun hne => ?_
      rcases Decidable.em (k < k') with hlt | hlt
      · have := h k
        rw [find?_cons_eq_none_of_lt hlt hm'.1] at this
        simp [find?] at this
      · have := h k'
        rw [find?_cons_eq_none_of_lt (lt_of_not_lt_of_ne hlt hne) hl'.1] at this
        simp [find?] at this
    subst hkk
    have hv : v = v' := by simpa [find?] using h k
    subst hv
    have hrest : ∀ x, find? x l = find? x m := fun x => by
      by_cases hx : x = k
      · subst hx
        rw [find?_eq_none_of_lt hl'.1, find?_eq_none_of_lt hm'.1]
      · simpa [find?, hx] using h x
    rw [entries_eq_of_find?_eq hl'.2 hm'.2 hrest]

/-- Dictionaries that answer every reading alike are equal. -/
theorem ext_get? {d e : Dictionary α} (h : ∀ key, d.get? key = e.get? key) : d = e := by
  obtain ⟨l, hl⟩ := d
  obtain ⟨m, hm⟩ := e
  obtain rfl := entries_eq_of_find?_eq hl hm h
  rfl

theorem entries_inj {d e : Dictionary α} : d.entries = e.entries ↔ d = e := by
  cases d
  cases e
  simp

/-- Where the function loses nothing, applying it to all values loses nothing. -/
theorem map_inj {f : α → β} (hf : ∀ a b, f a = f b → a = b) {d e : Dictionary α} :
    d.map f = e.map f ↔ d = e := by
  refine ⟨fun h => ext_get? fun key => ?_, congrArg _⟩
  have hkey := congrArg (fun d => get? d key) h
  simp only [get?_map] at hkey
  exact (Option.map_inj_right hf).1 hkey

theorem isEmpty_iff {d : Dictionary α} : d.isEmpty = true ↔ ∀ key, d.get? key = none := by
  constructor
  · intro h key
    have : d.entries = [] := by simpa [isEmpty] using h
    simp [get?, this, find?]
  · intro h
    have : d = ∅ := ext_get? (by simpa using h)
    rw [this]
    rfl

theorem isEmpty_iff_eq_empty {d : Dictionary α} : d.isEmpty = true ↔ d = ∅ :=
  ⟨fun h => ext_get? (isEmpty_iff.1 h), fun h => h ▸ rfl⟩

theorem isEmpty_eq_false_iff {d : Dictionary α} :
    d.isEmpty = false ↔ ∃ key v, d.get? key = some v := by
  rw [← Bool.not_eq_true, isEmpty_iff, Classical.not_forall]
  simp only [← ne_eq, Option.ne_none_iff_exists']

/-- An entry that is forgotten and stored again is back in its place. -/
theorem insert_erase {d : Dictionary α} {key : String} {value : α} (h : d.get? key = some value) :
    (d.erase key).insert key value = d := by
  refine ext_get? fun k => ?_
  rw [get?_insert, get?_erase]
  split
  · rename_i hk
    rw [hk, h]
  · rfl

/-- An entry that is stored under a new key and forgotten leaves nothing behind. -/
theorem erase_insert {d : Dictionary α} {key : String} (h : d.get? key = none) (value : α) :
    (d.insert key value).erase key = d := by
  refine ext_get? fun k => ?_
  rw [get?_erase, get?_insert]
  split
  · rename_i hk
    rw [hk, h]
  · rfl

theorem mem_keys_iff {d : Dictionary α} {key : String} :
    key ∈ d.keys ↔ ∃ v, d.get? key = some v := by
  obtain ⟨entries, sorted⟩ := d
  simp only [keys, get?]
  clear sorted
  induction entries with
  | nil => simp [find?]
  | cons e rest ih =>
      rw [List.map_cons, List.mem_cons, ih, find?]
      by_cases hk : key = e.1
      · simp [hk]
      · simp [hk]

end Dictionary

end NameOwners
