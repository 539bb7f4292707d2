import NameOwners.Notification.Wire
import NameOwners.Proofs.Json.Written

/-!
The wire form of a notification, from both ends. A value is a wire form of a
notification if it is an object with the entries that the notification is written
with, in any order and with any entries under other keys among them, or if it is the
array of its kind and its objects (`Notification.IsWireForm`). Decoding finds a
notification in exactly its wire forms. For objects this goes over the values under
each key: the decoder asks that every key of the notification has one value, and this
is so exactly if the entries are a rearrangement of the required ones and others
(`forall_valuesOf_eq_iff`).
-/

namespace NameOwners

theorem Tag.ofLabel_eq_ok_iff {name : String} {tag : Tag} :
    ofLabel name = .ok tag ↔ name = tag.label := by
  constructor
  · intro h
    unfold ofLabel at h
    split at h
    · rename_i found hfound
      obtain rfl := Except.ok.inj h
      have hlabel := List.find?_some hfound
      exact (of_decide_eq_true hlabel).symm
    · cases h
  · rintro rfl
    cases tag with
    | added => rfl
    | updated => rfl
    | deleted => rfl
    | synced => rfl

theorem Tag.label_injective : Function.Injective label := by
  intro tag other h
  have hother := ofLabel_eq_ok_iff.2 h
  rw [ofLabel_eq_ok_iff.2 rfl] at hother
  exact Except.ok.inj hother

theorem Tag.ofJson_eq_ok_iff {v : Json} {tag : Tag} :
    ofJson v = .ok tag ↔ v = .string tag.label := by
  cases v with
  | string name => rw [ofJson, ofLabel_eq_ok_iff, Json.string.injEq]
  | _ => exact iff_of_false nofun nofun

namespace Notification

open Json.Reader (except_bind_eq_ok_iff except_map_eq_ok_iff)

/-! ### The values under a key -/

section Entries

variable {key key' : String} {v : Json} {entries more : List (String × Json)}

@[simp] theorem valuesOf_nil (key : String) : valuesOf key [] = [] := rfl

@[simp] theorem valuesOf_cons_self (key : String) (v : Json) (entries : List (String × Json)) :
    valuesOf key ((key, v) :: entries) = v :: valuesOf key entries := by
  simp [valuesOf]

theorem valuesOf_cons_of_ne (h : key' ≠ key) (v : Json) (entries : List (String × Json)) :
    valuesOf key ((key', v) :: entries) = valuesOf key entries := by
  simp [valuesOf, h]

theorem valuesOf_append (key : String) (entries more : List (String × Json)) :
    valuesOf key (entries ++ more) = valuesOf key entries ++ valuesOf key more := by
  simp [valuesOf]

theorem valuesOf_eq_nil_iff : valuesOf key entries = [] ↔ ∀ e ∈ entries, e.1 ≠ key := by
  simp [valuesOf]

theorem valuesOf_filter_ne (h : key ≠ key') (entries : List (String × Json)) :
    valuesOf key (entries.filter fun e => e.1 ≠ key') = valuesOf key entries := by
  have hfilter : (entries.filter fun e => e.1 ≠ key').filter (fun e => e.1 = key) =
      entries.filter fun e => e.1 = key := by
    rw [List.filter_filter]
    refine List.filter_congr fun e _ => ?_
    by_cases hkey : e.1 = key
    · simp [hkey, h]
    · simp [hkey]
  rw [valuesOf, hfilter, valuesOf]

theorem filter_ne_of_valuesOf_eq_nil (h : valuesOf key entries = []) :
    (entries.filter fun e => e.1 ≠ key) = entries :=
  List.filter_eq_self.2 fun e he => decide_eq_true (valuesOf_eq_nil_iff.1 h e he)

theorem perm_valuesOf (h : entries.Perm more) (key : String) :
    (valuesOf key entries).Perm (valuesOf key more) :=
  (h.filter _).map _

theorem valuesOf_of_mem {e : String × Json} (hkeys : (entries.map Prod.fst).Nodup)
    (he : e ∈ entries) : valuesOf e.1 entries = [e.2] := by
  induction entries with
  | nil => cases he
  | cons e' entries ih =>
      obtain ⟨hnew, hkeys⟩ := List.nodup_cons.1 hkeys
      rcases List.mem_cons.1 he with rfl | he
      · have hrest : valuesOf e.1 entries = [] :=
          valuesOf_eq_nil_iff.2 fun e' he' heq => hnew (heq ▸ List.mem_map_of_mem he')
        rw [valuesOf_cons_self, hrest]
      · have hne : e'.1 ≠ e.1 := fun heq => hnew (heq ▸ List.mem_map_of_mem he)
        rw [valuesOf_cons_of_ne hne, ih hkeys he]

/-- A key with one value stands at one place. -/
theorem exists_split_of_valuesOf_eq (h : valuesOf key entries = [v]) :
    ∃ before after, entries = before ++ (key, v) :: after ∧
      valuesOf key before = [] ∧ valuesOf key after = [] := by
  induction entries with
  | nil => cases h
  | cons e entries ih =>
      obtain ⟨k, w⟩ := e
      by_cases hkey : k = key
      · subst hkey
        rw [valuesOf_cons_self] at h
        obtain ⟨rfl, hrest⟩ := List.cons.inj h
        exact ⟨[], entries, rfl, rfl, hrest⟩
      · rw [valuesOf_cons_of_ne hkey] at h
        obtain ⟨before, after, rfl, hbefore, hafter⟩ := ih h
        exact ⟨(k, w) :: before, after, rfl, by rw [valuesOf_cons_of_ne hkey, hbefore], hafter⟩

/-- Entries have one given value under each of some keys exactly if they are a
rearrangement of the entries for them and of others. -/
theorem forall_valuesOf_eq_iff {required : List (String × Json)}
    (hkeys : (required.map Prod.fst).Nodup) (entries : List (String × Json)) :
    (∀ e ∈ required, valuesOf e.1 entries = [e.2]) ↔
      ∃ others, (∀ e ∈ others, e.1 ∉ required.map Prod.fst) ∧
        entries.Perm (required ++ others) := by
  constructor
  · intro h
    induction required generalizing entries with
    | nil => exact ⟨entries, by simp, .refl _⟩
    | cons e required ih =>
        obtain ⟨hnew, hkeys⟩ := List.nodup_cons.1 hkeys
        obtain ⟨before, after, rfl, hbefore, hafter⟩ :=
          exists_split_of_valuesOf_eq (h e List.mem_cons_self)
        have hrest : ∀ e' ∈ required, valuesOf e'.1 (before ++ after) = [e'.2] := by
          intro e' he'
          have hne : e.1 ≠ e'.1 := fun heq => hnew (heq ▸ List.mem_map_of_mem he')
          have hboth := h e' (List.mem_cons_of_mem e he')
          rw [valuesOf_append, valuesOf_cons_of_ne hne] at hboth
          rw [valuesOf_append, hboth]
        obtain ⟨others, hothers, hperm⟩ := ih hkeys (before ++ after) hrest
        refine ⟨others, fun o ho => ?_, ?_⟩
        · have hmem : o ∈ before ++ after := hperm.mem_iff.2 (List.mem_append_right _ ho)
          have hne : o.1 ≠ e.1 := by
            rcases List.mem_append.1 hmem with hmem | hmem
            · exact valuesOf_eq_nil_iff.1 hbefore o hmem
            · exact valuesOf_eq_nil_iff.1 hafter o hmem
          simpa [hne] using hothers o ho
        · exact List.perm_middle.trans (hperm.cons e)
  · rintro ⟨others, hothers, hperm⟩ e he
    have hnone : valuesOf e.1 others = [] :=
      valuesOf_eq_nil_iff.2 fun o ho heq => hothers o ho (heq ▸ List.mem_map_of_mem he)
    have hvalues := perm_valuesOf hperm e.1
    rw [valuesOf_append, valuesOf_of_mem hkeys he, hnone, List.append_nil] at hvalues
    exact List.perm_singleton.1 hvalues

end Entries

/-! ### The parts of a notification -/

def tag : Notification → Tag
  | added _ => .added
  | updated .. => .updated
  | deleted _ => .deleted
  | synced => .synced

def fields : Notification → List (String × Json)
  | added object => [("object", object)]
  | updated old new => [("old", old), ("new", new)]
  | deleted object => [("object", object)]
  | synced => []

def entries (n : Notification) : List (String × Json) :=
  (tagKey, .string n.tag.label) :: n.fields

theorem toJson_eq (n : Notification) : n.toJson = .object n.entries := by
  cases n with
  | added object => rfl
  | updated old new => rfl
  | deleted object => rfl
  | synced => rfl

theorem nodup_keys_entries (n : Notification) : (n.entries.map Prod.fst).Nodup := by
  cases n with
  | added object => simp [entries, fields, tagKey]
  | updated old new => simp [entries, fields, tagKey]
  | deleted object => simp [entries, fields, tagKey]
  | synced => simp [entries, fields]

theorem ne_tagKey_of_mem_fields {n : Notification} {e : String × Json} (h : e ∈ n.fields) :
    e.1 ≠ tagKey := by
  have hnew : tagKey ∉ n.fields.map Prod.fst := (List.nodup_cons.1 n.nodup_keys_entries).1
  exact fun heq => hnew (heq ▸ List.mem_map_of_mem h)

/-- A value from which a notification is decoded: its entries in any order among others,
or its kind and its objects in a row. -/
def IsWireForm (n : Notification) : Json → Prop
  | .object entries => ∃ others, (∀ e ∈ others, e.1 ∉ n.entries.map Prod.fst) ∧
      entries.Perm (n.entries ++ others)
  | .array elements => elements = .string n.tag.label :: n.fields.map Prod.snd
  | _ => False

theorem isWireForm_object_iff {n : Notification} {entries : List (String × Json)} :
    n.IsWireForm (.object entries) ↔
      valuesOf tagKey entries = [.string n.tag.label] ∧
        ∀ e ∈ n.fields, valuesOf e.1 entries = [e.2] := by
  rw [IsWireForm, ← forall_valuesOf_eq_iff n.nodup_keys_entries, Notification.entries,
    List.forall_mem_cons]

/-! ### Decoding -/

variable {n : Notification} {entries : List (String × Json)}

/-- No key that matters is written a second time, those that were seen before included. -/
theorem repeatedKey?_eq_none_iff {keys seen : List String} :
    repeatedKey? keys seen entries = none ↔
      ∀ key ∈ keys, (valuesOf key entries).length + (if key ∈ seen then 1 else 0) ≤ 1 := by
  induction entries generalizing seen with
  | nil =>
      simp only [repeatedKey?, valuesOf_nil, List.length_nil, Nat.zero_add, true_iff]
      intro key _
      split
      · exact Nat.le_refl 1
      · exact Nat.zero_le 1
  | cons e entries ih =>
      obtain ⟨key, v⟩ := e
      have hother (k : String) (hk : k ≠ key) :
          valuesOf k ((key, v) :: entries) = valuesOf k entries :=
        valuesOf_cons_of_ne (Ne.symm hk) v entries
      unfold repeatedKey?
      split
      · rename_i hkey
        split
        · rename_i hseen
          refine iff_of_false nofun fun hall => ?_
          have htwo := hall key hkey
          rw [valuesOf_cons_self, if_pos hseen, List.length_cons] at htwo
          omega
        · rename_i hseen
          rw [ih]
          refine forall₂_congr fun k hk => ?_
          by_cases heq : k = key
          · subst heq
            simp [hseen]
          · simp [hother k heq, heq]
      · rename_i hkey
        rw [ih]
        refine forall₂_congr fun k hk => ?_
        have hne : k ≠ key := fun heq => hkey (heq ▸ hk)
        rw [hother k hne]

theorem fieldOf_eq_ok_iff {keys : List String} {key : String} (hkey : key ∈ keys) {v : Json} :
    fieldOf keys entries key = .ok v ↔
      (∀ k ∈ keys, (valuesOf k entries).length ≤ 1) ∧ valuesOf key entries = [v] := by
  have hrepeat : repeatedKey? keys [] entries = none ↔
      ∀ k ∈ keys, (valuesOf k entries).length ≤ 1 := by
    rw [repeatedKey?_eq_none_iff]
    simp
  unfold fieldOf
  split
  · rename_i k hk
    refine iff_of_false nofun fun hall => ?_
    rw [hrepeat.2 hall.1] at hk
    cases hk
  · rename_i hnone
    have hall := hrepeat.1 hnone
    have hlength := hall key hkey
    split
    · rename_i w more hvalues
      rw [hvalues, List.length_cons] at hlength
      have hmore : more = [] := List.eq_nil_of_length_eq_zero (by omega)
      simpa [hvalues, hmore] using fun _ => hall
    · rename_i hvalues
      simp [hvalues]

/-- Once the kind is known, only other entries may follow. -/
theorem foldlM_takeEntry_known {tag : Tag} {before : List (String × Json)} {draft : Draft} :
    entries.foldlM takeEntry (some tag, before) = .ok draft ↔
      valuesOf tagKey entries = [] ∧ draft = (some tag, before ++ entries) := by
  induction entries generalizing before with
  | nil => simp [pure, Except.pure, eq_comm]
  | cons e entries ih =>
      obtain ⟨key, v⟩ := e
      rw [List.foldlM_cons, takeEntry]
      by_cases hkey : key = tagKey
      · subst hkey
        rw [if_pos rfl, valuesOf_cons_self]
        exact iff_of_false nofun nofun
      · rw [if_neg hkey, valuesOf_cons_of_ne hkey, List.append_cons before (key, v) entries]
        exact ih

theorem foldlM_takeEntry_unknown {tag : Tag} {before rest : List (String × Json)} :
    entries.foldlM takeEntry (none, before) = .ok (some tag, rest) ↔
      valuesOf tagKey entries = [.string tag.label] ∧
        rest = before ++ entries.filter fun e => e.1 ≠ tagKey := by
  induction entries generalizing before with
  | nil => simp [pure, Except.pure]
  | cons e entries ih =>
      obtain ⟨key, v⟩ := e
      rw [List.foldlM_cons, takeEntry]
      by_cases hkey : key = tagKey
      · subst hkey
        rw [if_pos rfl, valuesOf_cons_self, List.filter_cons_of_neg (by simp)]
        cases htag : Tag.ofJson v with
        | error cause =>
            refine iff_of_false nofun fun hall => ?_
            rw [Tag.ofJson_eq_ok_iff.2 (List.cons.inj hall.1).1] at htag
            cases htag
        | ok found =>
            obtain rfl := Tag.ofJson_eq_ok_iff.1 htag
            refine foldlM_takeEntry_known.trans ⟨?_, ?_⟩
            · rintro ⟨hnone, hdraft⟩
              obtain ⟨htag, rfl⟩ := Prod.mk.inj hdraft
              obtain rfl := Option.some.inj htag
              exact ⟨by rw [hnone], by rw [filter_ne_of_valuesOf_eq_nil hnone]⟩
            · rintro ⟨hvalues, rfl⟩
              obtain ⟨hlabel, hnone⟩ := List.cons.inj hvalues
              obtain rfl := Tag.label_injective (Json.string.inj hlabel)
              exact ⟨hnone, by rw [filter_ne_of_valuesOf_eq_nil hnone]⟩
      · rw [if_neg hkey, valuesOf_cons_of_ne hkey, List.filter_cons_of_pos (by simpa using hkey),
          List.append_cons before (key, v) (entries.filter fun e => e.1 ≠ tagKey)]
        exact ih

theorem assembleOne_named_eq_ok_iff {name : String} {make : Json → Notification} :
    assembleOne name make (.named entries) = .ok n ↔
      ∃ v, valuesOf "object" entries = [v] ∧ make v = n := by
  have hfield (v : Json) :
      fieldOf ["object"] entries "object" = .ok v ↔ valuesOf "object" entries = [v] := by
    rw [fieldOf_eq_ok_iff List.mem_cons_self, List.forall_mem_singleton]
    exact ⟨And.right, fun h => ⟨by simp [h], h⟩⟩
  simp only [assembleOne, except_map_eq_ok_iff, hfield]

theorem assembleUpdate_named_eq_ok_iff :
    assembleUpdate (.named entries) = .ok n ↔
      ∃ old new, valuesOf "old" entries = [old] ∧ valuesOf "new" entries = [new] ∧
        updated old new = n := by
  have hfield (key : String) (hkey : key ∈ ["old", "new"]) (v : Json) :
      fieldOf ["old", "new"] entries key = .ok v ↔
        (∀ k ∈ ["old", "new"], (valuesOf k entries).length ≤ 1) ∧ valuesOf key entries = [v] :=
    fieldOf_eq_ok_iff hkey
  simp only [assembleUpdate, except_bind_eq_ok_iff, hfield "old" (by simp), hfield "new" (by simp),
    Except.ok.injEq]
  constructor
  · rintro ⟨old, ⟨-, hold⟩, new, ⟨-, hnew⟩, rfl⟩
    exact ⟨old, new, hold, hnew, rfl⟩
  · rintro ⟨old, new, hold, hnew, rfl⟩
    have honce : ∀ k ∈ ["old", "new"], (valuesOf k entries).length ≤ 1 := by
      simp [hold, hnew]
    exact ⟨old, ⟨honce, hold⟩, new, ⟨honce, hnew⟩, rfl⟩

theorem assembleOne_positional_eq_ok_iff {name : String} {make : Json → Notification}
    {elements : List Json} :
    assembleOne name make (.positional elements) = .ok n ↔ ∃ v, elements = [v] ∧ make v = n := by
  match elements with
  | [] => simp [assembleOne]
  | [v] => simp [assembleOne]
  | v :: w :: vs => simp [assembleOne]

theorem assembleUpdate_positional_eq_ok_iff {elements : List Json} :
    assembleUpdate (.positional elements) = .ok n ↔
      ∃ old new, elements = [old, new] ∧ updated old new = n := by
  match elements with
  | [] => simp [assembleUpdate]
  | [v] => simp [assembleUpdate]
  | [v, w] => simp [assembleUpdate, and_assoc]
  | v :: w :: x :: vs =>
      refine iff_of_false ?_ (by simp)
      rw [assembleUpdate, if_neg (by simp)]
      · exact nofun
      · simp

/-- Content with names makes a notification of its kind if each of its objects is there,
once. -/
theorem assemble_named_eq_ok_iff {tag : Tag} :
    assemble tag (.named entries) = .ok n ↔
      n.tag = tag ∧ ∀ e ∈ n.fields, valuesOf e.1 entries = [e.2] := by
  cases tag with
  | added =>
      rw [assemble, assembleOne_named_eq_ok_iff]
      cases n <;> simp [Notification.tag, fields]
  | updated =>
      rw [assemble, assembleUpdate_named_eq_ok_iff]
      cases n <;> simp [Notification.tag, fields]
  | deleted =>
      rw [assemble, assembleOne_named_eq_ok_iff]
      cases n <;> simp [Notification.tag, fields]
  | synced => cases n <;> simp [assemble, Notification.tag, fields]

/-- Content without names makes a notification of its kind if it is its objects. -/
theorem assemble_positional_eq_ok_iff {tag : Tag} {elements : List Json} :
    assemble tag (.positional elements) = .ok n ↔
      n.tag = tag ∧ elements = n.fields.map Prod.snd := by
  cases tag with
  | added =>
      rw [assemble, assembleOne_positional_eq_ok_iff]
      cases n <;> simp [Notification.tag, fields]
  | updated =>
      rw [assemble, assembleUpdate_positional_eq_ok_iff]
      cases n <;> simp [Notification.tag, fields]
  | deleted =>
      rw [assemble, assembleOne_positional_eq_ok_iff]
      cases n <;> simp [Notification.tag, fields]
  | synced => cases elements <;> cases n <;> simp [assemble, Notification.tag, fields]

theorem ofJson_object_eq_ok_iff :
    ofJson (.object entries) = .ok n ↔ n.IsWireForm (.object entries) := by
  have hdecode : ofJson (.object entries) = .ok n ↔
      ∃ tag rest, entries.foldlM takeEntry (none, []) = .ok (some tag, rest) ∧
        assemble tag (.named rest) = .ok n := by
    rw [ofJson, except_bind_eq_ok_iff]
    constructor
    · rintro ⟨⟨_ | tag, rest⟩, hfold, hfinish⟩
      · cases hfinish
      · exact ⟨tag, rest, hfold, hfinish⟩
    · rintro ⟨tag, rest, hfold, hassemble⟩
      exact ⟨_, hfold, hassemble⟩
  have hother (e : String × Json) (he : e ∈ n.fields) :
      valuesOf e.1 (entries.filter fun e => e.1 ≠ tagKey) = valuesOf e.1 entries :=
    valuesOf_filter_ne (ne_tagKey_of_mem_fields he) entries
  rw [hdecode, isWireForm_object_iff]
  constructor
  · rintro ⟨tag, rest, hfold, hassemble⟩
    obtain ⟨htag, rfl⟩ := foldlM_takeEntry_unknown.1 hfold
    obtain ⟨rfl, hfields⟩ := assemble_named_eq_ok_iff.1 hassemble
    exact ⟨htag, fun e he => hother e he ▸ hfields e he⟩
  · rintro ⟨htag, hfields⟩
    exact ⟨n.tag, _, foldlM_takeEntry_unknown.2 ⟨htag, rfl⟩,
      assemble_named_eq_ok_iff.2 ⟨rfl, fun e he => (hother e he).trans (hfields e he)⟩⟩

theorem ofJson_array_eq_ok_iff {elements : List Json} :
    ofJson (.array elements) = .ok n ↔ n.IsWireForm (.array elements) := by
  cases elements with
  | nil => exact iff_of_false nofun nofun
  | cons v elements =>
      rw [IsWireForm, List.cons.injEq, ofJson]
      cases htag : Tag.ofJson v with
      | error cause =>
          refine iff_of_false nofun fun hall => ?_
          rw [Tag.ofJson_eq_ok_iff.2 hall.1] at htag
          cases htag
      | ok tag =>
          obtain rfl := Tag.ofJson_eq_ok_iff.1 htag
          refine assemble_positional_eq_ok_iff.trans ?_
          rw [Json.string.injEq, Tag.label_injective.eq_iff, eq_comm]

theorem ofJson_eq_ok_iff {v : Json} : ofJson v = .ok n ↔ n.IsWireForm v := by
  cases v with
  | object entries => exact ofJson_object_eq_ok_iff
  | array elements => exact ofJson_array_eq_ok_iff
  | null => exact iff_of_false nofun id
  | bool b => exact iff_of_false nofun id
  | number x => exact iff_of_false nofun id
  | string s => exact iff_of_false nofun id

theorem isWireForm_toJson (n : Notification) : n.IsWireForm n.toJson := by
  rw [toJson_eq]
  exact ⟨[], by simp, by simp⟩

end Notification

end NameOwners
