import Mathlib.Data.List.Forall2
import Mathlib.Data.List.Nodup
import NameOwners.Proofs.Json.Printed
import NameOwners.Proofs.Json.Skipping

/-!
Lists and records as they may be written. A record has parts, each with a key and with
texts for its values; a text of the record is an object or an array of texts of its
parts (`IsRecordText`). A reader whose fields read the parts takes every one of these
texts for the record (`reads_record`): while an object is read, a part is either still
to come or has its value already (`Unread`), and the same goes for an array.
-/

namespace NameOwners.Json

open Reader
open Text (lead listed join_eq_listed length_le_length_listed)

variable {α β σ : Type}

/-! ### Readers put together -/

theorem Reader.Reads.map {r : Reader α} {core : List Char} {a : α} (h : Reads r core a)
    (f : α → β) : Reads (do pure (f (← r))) core (f a) :=
  ⟨h.starts, fun before _ hrest => bind_of_eq_ok (h.eq_ok before hrest) _⟩

/-! ### Elements of an array -/

theorem nextElement_close (first : Bool) (b : Blanks) (rest : List Char) :
    nextElement first (b.chars ++ ']' :: rest) = .ok (false, ']' :: rest) :=
  peek_bind_blanks _ b _

theorem closeArray_blanks (b : Blanks) (rest : List Char) :
    closeArray (b.chars ++ ']' :: rest) = .ok ((), rest) :=
  peek_bind_blanks _ b _

theorem peek_padded {e : Padded} (h : Starts e.core) (rest : List Char) :
    ∃ c, isSpace c = false ∧ c ≠ ']' ∧
      peek (e.chars ++ rest) = .ok (some c, e.core ++ (e.after.chars ++ rest)) := by
  have hdrop := h.dropWhile_append (e.after.chars ++ rest)
  obtain ⟨c, hc, hspace, hbracket⟩ := h
  obtain ⟨more, hcore⟩ := List.head?_eq_some_iff.1 hc
  refine ⟨c, hspace, hbracket, ?_⟩
  rw [peek, Padded.chars, List.append_assoc, List.append_assoc, e.before.dropWhile_append, hdrop,
    hcore]
  rfl

/-- An element comes next, and is read from its first character on. -/
theorem nextElement_listed (first : Bool) (b : Blanks) {e : Padded} (h : Starts e.core)
    (rest : List Char) :
    nextElement first (b.chars ++ (lead ',' first ++ (e.chars ++ rest))) =
      .ok (true, e.core ++ (e.after.chars ++ rest)) := by
  obtain ⟨c, -, hbracket, hpeek⟩ := peek_padded h rest
  refine (peek_bind_blanks _ b _).trans ?_
  cases first with
  | true =>
      refine (bind_of_eq_ok hpeek _).trans ?_
      -- The element does not begin with the closing bracket, which decides the match.
      simp only [if_true]
      rfl
  | false =>
      -- After the comma comes what begins the element.
      refine bind_eq_ok_iff.2 ⟨some ',', _, rfl, bind_eq_ok_iff.2 ⟨(), _, rfl,
        bind_eq_ok_iff.2 ⟨some c, _, hpeek, ?_⟩⟩⟩
      simp only
      rfl

/-- The elements of an array are taken one by one, up to the bracket that closes it. -/
theorem foldElements_listed {element : Reader α} {es : List Padded} {as : List α}
    (h : List.Forall₂ (fun e a => Reads element e.core a) es as) (first : Bool) (b : Blanks)
    (taken : List α) (rest : List Char) {fuel : Nat} (hfuel : es.length < fuel) :
    foldElements (fun vs => do pure ((← element) :: vs)) fuel first taken
      (b.chars ++ (listed ',' first (es.map Padded.chars) ++ ']' :: rest)) =
        .ok (as.reverse ++ taken, ']' :: rest) := by
  induction h generalizing first b taken fuel with
  | nil =>
      cases fuel with
      | zero => cases hfuel
      | succ fuel => exact bind_of_eq_ok (nextElement_close first b rest) _
  | @cons e a es as he _ ih =>
      cases fuel with
      | zero => cases hfuel
      | succ fuel =>
          have hends : Ends (listed ',' false (es.map Padded.chars) ++ ']' :: rest) :=
            ends_listed _ (ends_cons (by simp) rest)
          have hread := (he.map (· :: taken)).eq_ok .none (hends.blanks e.after)
          rw [List.map_cons, listed, List.append_assoc, List.append_assoc]
          refine (bind_of_eq_ok (nextElement_listed first b he.starts _) _).trans ?_
          refine (bind_of_eq_ok hread _).trans ?_
          rw [ih false e.after (a :: taken) (Nat.lt_of_succ_lt_succ hfuel), List.reverse_cons,
            List.append_assoc]
          rfl

def IsListText (IsForm : α → List Char → Prop) (as : List α) (cs : List Char) : Prop :=
  ∃ gap elements, cs = arrayText gap elements ∧
    List.Forall₂ (fun (e : Padded) a => IsForm a e.core) elements as

/-- There are characters enough for all parts of a row. -/
theorem length_lt_length_listed (gap : Blanks) (f : β → List Char) (parts : List β) (c : Char)
    (rest : List Char) :
    parts.length < (gap.chars ++ (listed ',' true (parts.map f) ++ c :: rest)).length + 1 := by
  have hlength := length_le_length_listed ',' true (parts.map f)
  rw [List.length_map] at hlength
  simp only [List.length_append, List.length_cons]
  omega

theorem reads_listValue {element : Reader α} {IsForm : α → List Char → Prop}
    (h : ∀ a core, IsForm a core → Reads element core a) {as : List α} {cs : List Char}
    (hcs : IsListText IsForm as cs) : Reads (listValue element) cs as := by
  obtain ⟨gap, elements, rfl, hforms⟩ := hcs
  refine ⟨⟨'[', rfl, by decide⟩, fun before rest hrest => ?_⟩
  have hreads : List.Forall₂ (fun (e : Padded) a => Reads element e.core a) elements as :=
    hforms.imp fun (e : Padded) a => h a e.core
  have hfold := foldElements_listed hreads true gap [] rest
    (length_lt_length_listed gap Padded.chars elements ']' rest)
  rw [arrayText_append]
  refine (expect_blanks before (by decide) (by decide) _).trans ?_
  have harray : Reader.array (fun vs => do pure ((← element) :: vs)) [] ('[' :: (gap.chars ++
      (listed ',' true (elements.map Padded.chars) ++ ']' :: rest))) =
        .ok (as.reverse ++ [], rest) :=
    bind_eq_ok_iff.2 ⟨(), _, rfl, bind_eq_ok_iff.2 ⟨_, _, hfold,
      bind_eq_ok_iff.2 ⟨(), _, closeArray_blanks .none rest, rfl⟩⟩⟩
  refine (bind_of_eq_ok harray _).trans ?_
  rw [List.append_nil, List.reverse_reverse]
  rfl

/-! ### Records as they may be written -/

/-- A part of a record: the value under one of its keys, and the texts for that value. -/
structure RecordPart (σ : Type) where
  key : String
  Value : Type
  get : σ → Value
  IsForm : Value → List Char → Prop

/-- A text of the record `s`: an object with entries for its parts, in any order and with
any entries under other keys anywhere among them, or an array of its parts in order.
What has the value that it has in `base` may be left out, in an array if nothing comes
after it. -/
inductive IsRecordText (parts : List (RecordPart σ)) (base s : σ) : List Char → Prop
  | object (gap : Blanks) {entries others : List Entry} {written : List (RecordPart σ × Entry)}
      {omitted : List (RecordPart σ)}
      (hparts : parts.Perm (written.map Prod.fst ++ omitted))
      (hentries : entries.Perm (written.map Prod.snd ++ others))
      (hwritten : ∀ w ∈ written, IsStringText w.1.key w.2.key.core ∧
        w.1.IsForm (w.1.get s) w.2.value.core)
      (homitted : ∀ p ∈ omitted, p.get s = p.get base)
      (hothers : ∀ e ∈ others, ∃ key, IsStringText key e.key.core ∧
        (∀ p ∈ parts, p.key ≠ key) ∧ IsText e.value.core) :
      IsRecordText parts base s (objectText gap entries)
  | array (gap : Blanks) {elements : List Padded} {written omitted : List (RecordPart σ)}
      (hparts : parts = written ++ omitted)
      (hwritten : List.Forall₂ (fun p (e : Padded) => p.IsForm (p.get s) e.core) written elements)
      (homitted : ∀ p ∈ omitted, p.get s = p.get base) :
      IsRecordText parts base s (arrayText gap elements)

/-! ### Fields and parts -/

/-- To read a field of a record is to give one of its parts a value and to leave the
others as they are. -/
structure ReadsPart (parts : List (RecordPart σ)) (f : RecordField σ) (p : RecordPart σ) :
    Prop where
  key_eq : f.key = p.key
  exists_reads : ∀ s a core, p.IsForm a core → ∃ s', Reads (f.read s) core s' ∧ p.get s' = a ∧
    ∀ q ∈ parts, q.key ≠ p.key → q.get s' = q.get s

/-- The fields that are read are the parts of a record, which make it up. -/
structure IsReaderOf (fields : List (RecordField σ)) (parts : List (RecordPart σ)) : Prop where
  reads : List.Forall₂ (ReadsPart parts) fields parts
  nodup_keys : (parts.map RecordPart.key).Nodup
  ext : ∀ s t, (∀ p ∈ parts, p.get s = p.get t) → s = t

theorem exists_find?_of_mem {fields : List (RecordField σ)} {parts ps : List (RecordPart σ)}
    (h : List.Forall₂ (ReadsPart parts) fields ps) (hkeys : (ps.map RecordPart.key).Nodup)
    {p : RecordPart σ} (hp : p ∈ ps) :
    ∃ f, fields.find? (·.key = p.key) = some f ∧ ReadsPart parts f p := by
  induction h with
  | nil => cases hp
  | @cons f q fields ps hf _ ih =>
      obtain ⟨hnew, hkeys⟩ := List.nodup_cons.1 hkeys
      rcases List.mem_cons.1 hp with rfl | hp
      · exact ⟨f, List.find?_cons_of_pos (by simp [hf.key_eq]), hf⟩
      · obtain ⟨f', hfind, hf'⟩ := ih hkeys hp
        have hne : f.key ≠ p.key := fun heq =>
          hnew (hf.key_eq ▸ heq ▸ List.mem_map_of_mem hp)
        exact ⟨f', by rw [List.find?_cons_of_neg (by simp [hne]), hfind], hf'⟩

theorem find?_eq_none {fields : List (RecordField σ)} {parts ps : List (RecordPart σ)}
    (h : List.Forall₂ (ReadsPart parts) fields ps) {key : String} (hkey : ∀ p ∈ ps, p.key ≠ key) :
    fields.find? (·.key = key) = none := by
  induction h with
  | nil => rfl
  | @cons f q fields ps hf _ ih =>
      obtain ⟨hq, hps⟩ := List.forall_mem_cons.1 hkey
      rw [List.find?_cons_of_neg (by simpa [hf.key_eq] using hq), ih hps]

/-! ### Entries of an object -/

theorem nextKey_close (first : Bool) (b : Blanks) (rest : List Char) :
    nextKey first (b.chars ++ '}' :: rest) = .ok (none, '}' :: rest) :=
  peek_bind_blanks _ b _

theorem nextKey_listed (first : Bool) (b : Blanks) {e : Entry} {key : String}
    (h : IsStringText key e.key.core) (rest : List Char) :
    nextKey first (b.chars ++ (lead ',' first ++ (e.chars ++ rest))) =
      .ok (some key, e.key.after.chars ++ ':' :: (e.value.chars ++ rest)) := by
  have hstring : (some <$> Reader.string) (e.key.core ++ (e.key.after.chars ++
      ':' :: (e.value.chars ++ rest))) =
        .ok (some key, e.key.after.chars ++ ':' :: (e.value.chars ++ rest)) :=
    map_eq_ok_iff.2 ⟨key, h.string_eq _, rfl⟩
  have hchars : e.chars ++ rest = e.key.before.chars ++ (e.key.core ++
      (e.key.after.chars ++ ':' :: (e.value.chars ++ rest))) := by
    simp [Entry.chars, Padded.chars]
  obtain ⟨body, hcore, -⟩ := h
  rw [hcore] at hstring hchars
  rw [hchars]
  refine (peek_bind_blanks _ b _).trans ?_
  cases first with
  | true => exact (peek_bind_blanks _ e.key.before _).trans hstring
  | false =>
      exact bind_eq_ok_iff.2 ⟨some ',', _, rfl, bind_eq_ok_iff.2 ⟨(), _, rfl,
        (peek_bind_blanks _ e.key.before _).trans hstring⟩⟩

/-- What is still to come of the entries for a record: those for the parts that have not
been read, and others. All other parts have their values already. -/
structure Unread (parts : List (RecordPart σ)) (s : σ) (written : List (RecordPart σ × Entry))
    (others entries : List Entry) (seen : List String) (state : σ) : Prop where
  perm : entries.Perm (written.map Prod.snd ++ others)
  form : ∀ w ∈ written, w.1 ∈ parts ∧ IsStringText w.1.key w.2.key.core ∧
    w.1.IsForm (w.1.get s) w.2.value.core
  other : ∀ e ∈ others, ∃ key, IsStringText key e.key.core ∧ (∀ p ∈ parts, p.key ≠ key) ∧
    IsText e.value.core
  nodup_keys : (written.map fun w => w.1.key).Nodup
  not_seen : ∀ w ∈ written, w.1.key ∉ seen
  settled : ∀ p ∈ parts, p ∈ written.map Prod.fst ∨ p.get state = p.get s

section Entries

variable {fields : List (RecordField σ)} {parts : List (RecordPart σ)} {s state : σ}
variable {written : List (RecordPart σ × Entry)} {others entries : List Entry} {seen : List String}
variable {e : Entry} {key : String}

theorem eq_of_key_eq (h : (parts.map RecordPart.key).Nodup) {p q : RecordPart σ} (hp : p ∈ parts)
    (hq : q ∈ parts) (hkey : p.key = q.key) : p = q :=
  List.inj_on_of_nodup_map h hp hq hkey

/-- When a part has been read, it has its value, and the others keep theirs. -/
theorem get_of_read {p q : RecordPart σ} (h : (parts.map RecordPart.key).Nodup) (hp : p ∈ parts)
    {next : σ} (hget : p.get next = p.get s)
    (hother : ∀ q ∈ parts, q.key ≠ p.key → q.get next = q.get state) (hq : q ∈ parts)
    (hsettled : q = p ∨ q.get state = q.get s) : q.get next = q.get s := by
  by_cases hkey : q.key = p.key
  · rw [eq_of_key_eq h hq hp hkey, hget]
  · have hne : q ≠ p := fun heq => hkey (congrArg RecordPart.key heq)
    exact (hother q hq hkey).trans (hsettled.resolve_left hne)

/-- At first all entries are still to come. -/
theorem unread_all {base : σ} {omitted : List (RecordPart σ)}
    (hkeys : (parts.map RecordPart.key).Nodup)
    (hparts : parts.Perm (written.map Prod.fst ++ omitted))
    (hentries : entries.Perm (written.map Prod.snd ++ others))
    (hwritten : ∀ w ∈ written, IsStringText w.1.key w.2.key.core ∧
      w.1.IsForm (w.1.get s) w.2.value.core)
    (homitted : ∀ p ∈ omitted, p.get s = p.get base)
    (hothers : ∀ e ∈ others, ∃ key, IsStringText key e.key.core ∧ (∀ p ∈ parts, p.key ≠ key) ∧
      IsText e.value.core) :
    Unread parts s written others entries [] base := by
  have hmem (p : RecordPart σ) : p ∈ parts ↔ p ∈ written.map Prod.fst ∨ p ∈ omitted := by
    rw [hparts.mem_iff, List.mem_append]
  have hkeys := (hparts.map RecordPart.key).nodup_iff.1 hkeys
  rw [List.map_append, List.map_map] at hkeys
  exact {
    perm := hentries
    form := fun w hw => ⟨(hmem w.1).2 (.inl (List.mem_map_of_mem hw)), hwritten w hw⟩
    other := hothers
    nodup_keys := (List.nodup_append.1 hkeys).1
    not_seen := fun _ _ => List.not_mem_nil
    settled := fun p hp => ((hmem p).1 hp).imp_right fun hp => (homitted p hp).symm }

/-- Once a part has been read, one fewer is to come. -/
theorem Unread.read_part {before after : List (RecordPart σ × Entry)} {p : RecordPart σ}
    (h : Unread parts s (before ++ (p, e) :: after) others (e :: entries) seen state)
    (hkeys : (parts.map RecordPart.key).Nodup) {state' : σ} (hget : p.get state' = p.get s)
    (hother : ∀ q ∈ parts, q.key ≠ p.key → q.get state' = q.get state) :
    Unread parts s (before ++ after) others entries (p.key :: seen) state' := by
  have hsub : ∀ w ∈ before ++ after, w ∈ before ++ (p, e) :: after := by
    intro w hw
    simp only [List.mem_append, List.mem_cons] at hw ⊢
    tauto
  have hnodup := h.nodup_keys
  rw [List.map_append, List.map_cons] at hnodup
  obtain ⟨hnew, hnodup⟩ := List.nodup_cons.1 (List.perm_middle.nodup_iff.1 hnodup)
  rw [← List.map_append] at hnew hnodup
  refine ⟨?_, fun w hw => h.form w (hsub w hw), h.other, hnodup, fun w hw hseen => ?_,
    fun q hq => ?_⟩
  · have hperm := h.perm
    rw [List.map_append, List.map_cons, List.append_assoc, List.cons_append] at hperm
    rw [List.map_append, List.append_assoc]
    exact (hperm.trans List.perm_middle).cons_inv
  · rcases List.mem_cons.1 hseen with hkey | hseen
    · exact hnew (hkey ▸ List.mem_map_of_mem hw)
    · exact h.not_seen w (hsub w hw) hseen
  · have hp : p ∈ parts := (h.form (p, e) (by simp)).1
    have hread := get_of_read hkeys hp hget hother hq
    rcases h.settled q hq with hwritten | hsettled
    · have hwritten : q = p ∨ q ∈ (before ++ after).map Prod.fst := by
        simpa [or_left_comm] using hwritten
      exact hwritten.symm.imp_right fun heq => hread (.inl heq)
    · exact .inr (hread (.inr hsettled))

/-- An entry under another key changes nothing. -/
theorem Unread.skip {before after : List Entry}
    (h : Unread parts s written (before ++ e :: after) (e :: entries) seen state) :
    Unread parts s written (before ++ after) entries seen state := by
  refine ⟨?_, h.form, fun o ho => h.other o ?_, h.nodup_keys, h.not_seen, h.settled⟩
  · have hperm := h.perm
    rw [← List.append_assoc] at hperm ⊢
    exact (hperm.trans List.perm_middle).cons_inv
  · simp only [List.mem_append, List.mem_cons] at ho ⊢
    tauto

/-- The entry of a part is read as its value. -/
theorem namedField_part {f : RecordField σ} {p : RecordPart σ}
    (hfind : fields.find? (·.key = p.key) = some f) (hseen : p.key ∉ seen) {state' : σ}
    (hread : Reads (f.read state) e.value.core state') {rest : List Char} (hrest : Ends rest) :
    namedField fields p.key (seen, state)
      (e.key.after.chars ++ ':' :: (e.value.chars ++ rest)) =
        .ok ((p.key :: seen, state'), e.value.after.chars ++ rest) := by
  rw [namedField, hfind]
  dsimp only
  rw [if_neg hseen]
  exact bind_eq_ok_iff.2 ⟨(), _, colon_blanks e.key.after _,
    bind_eq_ok_iff.2 ⟨state', _, hread.padded hrest, rfl⟩⟩

/-- An entry under another key is passed over. -/
theorem namedField_other (hfind : fields.find? (·.key = key) = none)
    (htext : IsText e.value.core) {rest : List Char} (hrest : Ends rest) :
    namedField fields key (seen, state)
      (e.key.after.chars ++ ':' :: (e.value.chars ++ rest)) =
        .ok ((seen, state), e.value.after.chars ++ rest) := by
  rw [namedField, hfind]
  exact bind_eq_ok_iff.2 ⟨(), _, colon_blanks e.key.after _,
    bind_eq_ok_iff.2 ⟨(), _, (reads_skipValue htext).padded hrest, rfl⟩⟩

/-- When all entries have been read, so have all parts. -/
theorem exists_foldEntries (hfields : IsReaderOf fields parts)
    (h : Unread parts s written others entries seen state) (first : Bool) (b : Blanks)
    (rest : List Char) {fuel : Nat} (hfuel : entries.length < fuel) :
    ∃ seen', foldEntries (namedField fields) fuel first (seen, state)
      (b.chars ++ (listed ',' first (entries.map Entry.chars) ++ '}' :: rest)) =
        .ok ((seen', s), '}' :: rest) := by
  induction entries generalizing written others seen state first b fuel with
  | nil =>
      cases fuel with
      | zero => cases hfuel
      | succ fuel =>
          have hnone := List.append_eq_nil_iff.1 h.perm.nil_eq.symm
          have hstate : state = s := hfields.ext state s fun p hp => by
            rcases h.settled p hp with hwritten | hsettled
            · simp [List.map_eq_nil_iff.1 hnone.1] at hwritten
            · exact hsettled
          exact ⟨seen, hstate ▸ bind_of_eq_ok (nextKey_close first b rest) _⟩
  | cons e entries ih =>
      cases fuel with
      | zero => cases hfuel
      | succ fuel =>
          have hends : Ends (listed ',' false (entries.map Entry.chars) ++ '}' :: rest) :=
            ends_listed _ (ends_cons (by simp) rest)
          have hmem : e ∈ written.map Prod.snd ++ others :=
            h.perm.mem_iff.1 List.mem_cons_self
          have hless := Nat.lt_of_succ_lt_succ hfuel
          rw [List.map_cons, listed, List.append_assoc, List.append_assoc]
          rcases List.mem_append.1 hmem with hwritten | hother
          · obtain ⟨⟨p, w⟩, hw, he⟩ := List.mem_map.1 hwritten
            obtain rfl : w = e := he
            obtain ⟨before, after, rfl⟩ := List.append_of_mem hw
            obtain ⟨hp, hkey, hform⟩ := h.form _ hw
            obtain ⟨f, hfind, hf⟩ := exists_find?_of_mem hfields.reads hfields.nodup_keys hp
            obtain ⟨state', hread, hget, hothers⟩ := hf.exists_reads state _ _ hform
            have hnext := h.read_part hfields.nodup_keys hget hothers
            obtain ⟨seen', hrun⟩ := ih hnext false w.value.after hless
            refine ⟨seen', ?_⟩
            refine (bind_of_eq_ok (nextKey_listed first b hkey _) _).trans ?_
            refine (bind_of_eq_ok (namedField_part hfind (h.not_seen _ hw) hread hends) _).trans ?_
            exact hrun
          · obtain ⟨before, after, rfl⟩ := List.append_of_mem hother
            obtain ⟨key, hkey, hne, htext⟩ := h.other e hother
            have hfind := find?_eq_none hfields.reads hne
            obtain ⟨seen', hrun⟩ := ih h.skip false e.value.after hless
            refine ⟨seen', ?_⟩
            refine (bind_of_eq_ok (nextKey_listed first b hkey _) _).trans ?_
            refine (bind_of_eq_ok (namedField_other hfind htext hends) _).trans ?_
            exact hrun

end Entries

/-! ### Elements for the parts of a record -/

/-- When all elements have been read, so have all parts that had to come. -/
theorem exists_positional {fields : List (RecordField σ)}
    {parts ps written omitted : List (RecordPart σ)} {elements : List Padded} {s state : σ}
    (hkeys : (parts.map RecordPart.key).Nodup) (hfields : List.Forall₂ (ReadsPart parts) fields ps)
    (hps : ps = written ++ omitted) (hmem : ∀ p ∈ written, p ∈ parts)
    (hwritten : List.Forall₂ (fun p (e : Padded) => p.IsForm (p.get s) e.core) written elements)
    (hstate : ∀ p ∈ parts, p ∈ written ∨ p.get state = p.get s) (first : Bool) (b : Blanks)
    (rest : List Char) :
    ∃ (state' : σ) (b' : Blanks), positional first fields state
        (b.chars ++ (listed ',' first (elements.map Padded.chars) ++ ']' :: rest)) =
          .ok (state', b'.chars ++ ']' :: rest) ∧ ∀ p ∈ parts, p.get state' = p.get s := by
  induction hwritten generalizing fields ps state first b with
  | nil =>
      have hsettled : ∀ p ∈ parts, p.get state = p.get s := fun p hp =>
        (hstate p hp).resolve_left List.not_mem_nil
      cases fields with
      | nil => exact ⟨state, b, rfl, hsettled⟩
      | cons f fields =>
          exact ⟨state, .none, bind_of_eq_ok (nextElement_close first b rest) _, hsettled⟩
  | @cons p e written elements hform _ ih =>
      subst hps
      cases hfields with
      | @cons f _ fields _ hf hfields =>
          have hends : Ends (listed ',' false (elements.map Padded.chars) ++ ']' :: rest) :=
            ends_listed _ (ends_cons (by simp) rest)
          obtain ⟨hp, hmem⟩ := List.forall_mem_cons.1 hmem
          obtain ⟨next, hread, hget, hothers⟩ := hf.exists_reads state _ _ hform
          have hnext : ∀ q ∈ parts, q ∈ written ∨ q.get next = q.get s := by
            intro q hq
            have hread := get_of_read hkeys hp hget hothers hq
            rcases hstate q hq with hwritten | hsettled
            · exact (List.mem_cons.1 hwritten).symm.imp_right fun heq => hread (.inl heq)
            · exact .inr (hread (.inr hsettled))
          obtain ⟨state', b', hrun, hsettled⟩ := ih hfields rfl hmem hnext false e.after
          refine ⟨state', b', ?_, hsettled⟩
          rw [List.map_cons, listed, List.append_assoc, List.append_assoc]
          refine (bind_of_eq_ok (nextElement_listed first b hread.starts _) _).trans ?_
          refine (bind_of_eq_ok (hread.eq_ok .none (hends.blanks e.after)) _).trans ?_
          exact hrun

/-! ### Records -/

/-- Every text of a record is read as that record. -/
theorem reads_record {fields : List (RecordField σ)} {parts : List (RecordPart σ)}
    (hfields : IsReaderOf fields parts) {base s : σ} {cs : List Char}
    (h : IsRecordText parts base s cs) (expected : String) :
    Reads (record expected fields base) cs s := by
  cases h with
  | @object gap entries others written omitted hparts hentries hwritten homitted hothers =>
      refine ⟨⟨'{', rfl, by decide⟩, fun before rest _ => ?_⟩
      have hunread := unread_all hfields.nodup_keys hparts hentries hwritten homitted hothers
      obtain ⟨seen, hrun⟩ := exists_foldEntries hfields hunread true gap rest
        (length_lt_length_listed gap Entry.chars entries '}' rest)
      rw [objectText_append]
      refine (expect_blanks before (by decide) (by decide) _).trans ?_
      have hobject : Reader.object (namedField fields) ([], base) ('{' :: (gap.chars ++
          (listed ',' true (entries.map Entry.chars) ++ '}' :: rest))) = .ok ((seen, s), rest) :=
        bind_eq_ok_iff.2 ⟨(), _, rfl, bind_eq_ok_iff.2 ⟨_, _, hrun, rfl⟩⟩
      exact bind_eq_ok_iff.2 ⟨some '{', _, rfl, bind_eq_ok_iff.2 ⟨_, _, hobject, rfl⟩⟩
  | @array gap elements written omitted hparts hwritten homitted =>
      refine ⟨⟨'[', rfl, by decide⟩, fun before rest _ => ?_⟩
      have hstate : ∀ p ∈ parts, p ∈ written ∨ p.get base = p.get s := by
        intro p hp
        rw [hparts] at hp
        exact (List.mem_append.1 hp).imp_right fun hp => (homitted p hp).symm
      have hmem : ∀ p ∈ written, p ∈ parts := fun p hp => hparts ▸ List.mem_append_left _ hp
      obtain ⟨state, b, hrun, hsettled⟩ := exists_positional hfields.nodup_keys
        hfields.reads hparts hmem hwritten hstate true gap rest
      obtain rfl := hfields.ext state s hsettled
      rw [arrayText_append]
      refine (expect_blanks before (by decide) (by decide) _).trans ?_
      exact bind_eq_ok_iff.2 ⟨some '[', _, rfl, bind_eq_ok_iff.2 ⟨(), _, rfl,
        bind_eq_ok_iff.2 ⟨_, _, hrun, bind_eq_ok_iff.2 ⟨(), _, closeArray_blanks b rest, rfl⟩⟩⟩⟩

/-! ### Lists and records as they are printed -/

/-- A printed array is a text of a list if its elements are texts of those of the list. -/
theorem isListText_chars {IsForm : α → List Char → Prop} {f : α → Json}
    (h : ∀ a, IsForm a (chars (f a))) (as : List α) :
    IsListText IsForm as (chars (.array (as.map f))) := by
  refine ⟨.none, as.map fun a => .plain (chars (f a)), ?_, ?_⟩
  · rw [chars_array, List.map_map]
    rfl
  · exact List.forall₂_map_left_iff.2 (List.forall₂_same.2 fun a _ => h a)

theorem exists_printed {parts : List (RecordPart σ)} {s : σ} {es : List (String × Json)}
    (h : List.Forall₂ (fun p e => e.1 = p.key ∧ p.IsForm (p.get s) (chars e.2)) parts es) :
    ∃ written : List (RecordPart σ × Entry), written.map Prod.fst = parts ∧
      written.map Prod.snd = es.map printedEntry ∧
      ∀ w ∈ written, IsStringText w.1.key w.2.key.core ∧
        w.1.IsForm (w.1.get s) w.2.value.core := by
  induction h with
  | nil => exact ⟨[], rfl, rfl, nofun⟩
  | @cons p e parts es hform _ ih =>
      obtain ⟨written, rfl, hentries, hwritten⟩ := ih
      have hkey : IsStringText p.key (printedEntry e).key.core :=
        hform.1 ▸ isStringText_stringChars e.1
      exact ⟨(p, printedEntry e) :: written, rfl, by rw [List.map_cons, hentries, List.map_cons],
        List.forall_mem_cons.2 ⟨⟨hkey, hform.2⟩, hwritten⟩⟩

/-- A printed object is a text of a record if its entries are those of the parts. -/
theorem isRecordText_chars {parts : List (RecordPart σ)} {s : σ} {es : List (String × Json)}
    (h : List.Forall₂ (fun p e => e.1 = p.key ∧ p.IsForm (p.get s) (chars e.2)) parts es)
    (base : σ) : IsRecordText parts base s (chars (.object es)) := by
  obtain ⟨written, hparts, hentries, hwritten⟩ := exists_printed h
  have hallParts : parts.Perm (written.map Prod.fst ++ []) := by
    rw [hparts, List.append_nil]
  have hallEntries : (es.map printedEntry).Perm (written.map Prod.snd ++ []) := by
    rw [hentries, List.append_nil]
  rw [chars_object]
  exact .object .none hallParts hallEntries hwritten nofun nofun

end NameOwners.Json
