import NameOwners.Proofs.Notification.WireForm

/-!
Reading a notification from a text is decoding what is written there. The reader
decides the kind as soon as it meets it and refuses a repeated kind at once; in the
end it accepts a text exactly if the text is a value that decodes (`read_eq_ok_iff`).
-/

namespace NameOwners

namespace Notification

open Json.Reader (Takes bind_eq_ok_iff pure_eq_ok_iff except_map_eq_ok_iff peek_bind)

variable {n : Notification} {cs rest : List Char}

theorem lift_eq_ok_iff {α : Type} {x : Except Json.Mismatch α} {a : α} :
    lift x cs = .ok (a, rest) ↔ x = .ok a ∧ cs = rest := by
  cases x with
  | error cause => exact iff_of_false nofun nofun
  | ok b => exact pure_eq_ok_iff.trans (by rw [Except.ok.injEq])

/-- A kind is read as the value that names it. -/
theorem readTag_eq_ok_iff {tag : Tag} (depth : Nat) :
    readTag cs = .ok (tag, rest) ↔
      ∃ v, Json.Reader.value depth cs = .ok (v, rest) ∧ Tag.ofJson v = .ok tag := by
  simp only [readTag, bind_eq_ok_iff, lift_eq_ok_iff, Json.Reader.stringValue_eq_ok_iff depth,
    Tag.ofLabel_eq_ok_iff, Tag.ofJson_eq_ok_iff]
  constructor
  · rintro ⟨name, mid, hvalue, rfl, rfl⟩
    exact ⟨_, hvalue, rfl⟩
  · rintro ⟨v, hvalue, rfl⟩
    exact ⟨tag.label, rest, hvalue, rfl, rfl⟩

theorem takeEntry_of_ne {key : String} (h : key ≠ tagKey) (tag : Option Tag)
    (before : List (String × Json)) (v : Json) :
    takeEntry (tag, before) (key, v) = .ok (tag, before ++ [(key, v)]) := by
  rw [takeEntry.eq_def]
  exact if_neg h

/-- An entry is taken as it is read. For the kind this is so because it is read as any
value is. -/
theorem takes_readEntry :
    Takes readEntry (Json.Reader.entry (Json.Reader.maxDepth - 1)) takeEntry := by
  rintro key ⟨tag, before⟩ cs draft rest
  rw [readEntry.eq_def]
  dsimp only
  by_cases hkey : key = tagKey
  · rw [if_pos hkey]
    cases tag with
    | some tag =>
        refine iff_of_false nofun ?_
        rintro ⟨x, hentry, htake⟩
        obtain ⟨_, _, -, h⟩ := bind_eq_ok_iff.1 hentry
        obtain ⟨v, _, -, h⟩ := bind_eq_ok_iff.1 h
        obtain ⟨rfl, -⟩ := pure_eq_ok_iff.1 h
        rw [takeEntry, if_pos hkey] at htake
        cases htake
    | none =>
        simp only [Json.Reader.entry, bind_eq_ok_iff, pure_eq_ok_iff,
          readTag_eq_ok_iff (Json.Reader.maxDepth - 1)]
        constructor
        · rintro ⟨_, mid, hcolon, tag, _, ⟨v, hvalue, htag⟩, rfl, rfl⟩
          refine ⟨(key, v), ⟨_, mid, hcolon, v, _, hvalue, rfl, rfl⟩, ?_⟩
          rw [takeEntry, if_pos hkey]
          exact except_map_eq_ok_iff.2 ⟨tag, htag, rfl⟩
        · rintro ⟨_, ⟨_, mid, hcolon, v, _, hvalue, rfl, rfl⟩, htake⟩
          rw [takeEntry, if_pos hkey] at htake
          obtain ⟨tag, htag, rfl⟩ := except_map_eq_ok_iff.1 htake
          exact ⟨_, mid, hcolon, tag, _, ⟨v, hvalue, htag⟩, rfl, rfl⟩
  · rw [if_neg hkey]
    simp only [Json.Reader.entry, bind_eq_ok_iff, pure_eq_ok_iff]
    constructor
    · rintro ⟨_, mid, hcolon, v, _, hvalue, rfl, rfl⟩
      exact ⟨_, ⟨_, mid, hcolon, v, _, hvalue, rfl, rfl⟩, takeEntry_of_ne hkey ..⟩
    · rintro ⟨_, ⟨_, mid, hcolon, v, _, hvalue, rfl, rfl⟩, htake⟩
      rw [takeEntry_of_ne hkey] at htake
      exact ⟨_, mid, hcolon, v, _, hvalue, Except.ok.inj htake, rfl⟩

def takeElement : Option Tag × List Json → Json → Except Json.Mismatch (Option Tag × List Json)
  | (none, vs), v => (Tag.ofJson v).map fun tag => (some tag, vs)
  | (some tag, vs), v => .ok (some tag, vs ++ [v])

theorem takes_readElement :
    Takes (fun _ : Unit => readElement)
      (fun _ => Json.Reader.value (Json.Reader.maxDepth - 1)) takeElement := by
  rintro _ ⟨tag, vs⟩ cs found rest
  cases tag with
  | none =>
      simp only [readElement, takeElement, bind_eq_ok_iff, pure_eq_ok_iff, except_map_eq_ok_iff,
        readTag_eq_ok_iff (Json.Reader.maxDepth - 1)]
      constructor
      · rintro ⟨tag, _, ⟨v, hvalue, htag⟩, rfl, rfl⟩
        exact ⟨v, hvalue, tag, htag, rfl⟩
      · rintro ⟨v, hvalue, tag, htag, rfl⟩
        exact ⟨tag, rest, ⟨v, hvalue, htag⟩, rfl, rfl⟩
  | some tag =>
      simp only [readElement, bind_eq_ok_iff, pure_eq_ok_iff]
      constructor
      · rintro ⟨v, _, hvalue, rfl, rfl⟩
        exact ⟨v, hvalue, rfl⟩
      · rintro ⟨v, hvalue, htake⟩
        exact ⟨v, rest, hvalue, Except.ok.inj htake, rfl⟩

theorem foldlM_takeElement_known {tag : Tag} {before elements : List Json}
    {found : Option Tag × List Json} :
    elements.foldlM takeElement (some tag, before) = .ok found ↔
      found = (some tag, before ++ elements) := by
  induction elements generalizing before with
  | nil => simp [pure, Except.pure, eq_comm]
  | cons v elements ih =>
      rw [List.foldlM_cons, List.append_cons]
      exact ih

/-- An array decodes as the kind that its first element names, with the others. -/
theorem ofJson_array_eq_ok_iff_foldlM {elements : List Json} :
    ofJson (.array elements) = .ok n ↔
      ∃ tag vs, elements.foldlM takeElement (none, []) = .ok (some tag, vs) ∧
        assemble tag (.positional vs) = .ok n := by
  cases elements with
  | nil =>
      constructor
      · intro h
        cases h
      · rintro ⟨tag, vs, h, -⟩
        cases h
  | cons v elements =>
      rw [ofJson, List.foldlM_cons, takeElement]
      cases Tag.ofJson v with
      | error cause =>
          constructor
          · intro h
            cases h
          · rintro ⟨tag, vs, h, -⟩
            cases h
      | ok tag =>
          constructor
          · exact fun h => ⟨tag, elements, foldlM_takeElement_known.2 rfl, h⟩
          · rintro ⟨tag', vs, hfold, h⟩
            obtain ⟨htag, rfl⟩ := Prod.mk.inj (foldlM_takeElement_known.1 hfold)
            obtain rfl := Option.some.inj htag
            exact h

/-- What decodes is an array or an object. -/
theorem exists_written_iff {depth : Nat} :
    (∃ v, Json.Reader.written depth cs = .ok (v, rest) ∧ ofJson v = .ok n) ↔
      (cs.dropWhile Json.Reader.isSpace).head? = some '[' ∧
        (∃ xs, Json.Reader.elements (Json.Reader.value depth) (cs.dropWhile Json.Reader.isSpace) =
          .ok (xs, rest) ∧ ofJson (.array xs) = .ok n) ∨
      (cs.dropWhile Json.Reader.isSpace).head? = some '{' ∧
        ∃ xs, Json.Reader.entries (Json.Reader.entry depth) (cs.dropWhile Json.Reader.isSpace) =
          .ok (xs, rest) ∧ ofJson (.object xs) = .ok n := by
  simp only [Json.Reader.written, Json.Reader.byFirst_eq_ok_iff, Json.Reader.map_eq_ok_iff]
  constructor
  · rintro ⟨v, ⟨-, text, -, rfl⟩ | ⟨hc, xs, hxs, rfl⟩ | ⟨hc, xs, hxs, rfl⟩ | ⟨c, -, h⟩, hdecode⟩
    · cases hdecode
    · exact .inl ⟨hc, xs, hxs, hdecode⟩
    · exact .inr ⟨hc, xs, hxs, hdecode⟩
    · rcases Json.Reader.scalar_kinds h with rfl | ⟨b, rfl⟩ | ⟨x, rfl⟩
      · cases hdecode
      · cases hdecode
      · cases hdecode
  · rintro (⟨hc, xs, hxs, hdecode⟩ | ⟨hc, xs, hxs, hdecode⟩)
    · exact ⟨_, .inr (.inl ⟨hc, xs, hxs, rfl⟩), hdecode⟩
    · exact ⟨_, .inr (.inr (.inl ⟨hc, xs, hxs, rfl⟩)), hdecode⟩

theorem reader_eq_ok_iff :
    reader cs = .ok (n, rest) ↔
      ∃ v, Json.Reader.written (Json.Reader.maxDepth - 1) cs = .ok (v, rest) ∧
        ofJson v = .ok n := by
  rw [exists_written_iff, reader, peek_bind]
  generalize cs.dropWhile Json.Reader.isSpace = mid
  cases mid.head? with
  | none => simp [Json.Reader.unfinished, Json.Reader.fail]
  | some c =>
      simp only [Option.some.injEq]
      by_cases hbrace : c = '{'
      · subst hbrace
        simp only [bind_eq_ok_iff, Json.Reader.object_eq_ok_iff takes_readEntry, lift_eq_ok_iff,
          ofJson, Json.Reader.except_bind_eq_ok_iff]
        simp only [Char.reduceEq, false_and, true_and, false_or]
        constructor
        · rintro ⟨draft, _, ⟨xs, hxs, hfold⟩, hfinish, rfl⟩
          exact ⟨xs, hxs, draft, hfold, hfinish⟩
        · rintro ⟨xs, hxs, draft, hfold, hfinish⟩
          exact ⟨draft, _, ⟨xs, hxs, hfold⟩, hfinish, rfl⟩
      by_cases hbracket : c = '['
      · subst hbracket
        simp only [bind_eq_ok_iff, Json.Reader.array_eq_ok_iff takes_readElement,
          ofJson_array_eq_ok_iff_foldlM]
        simp only [Char.reduceEq, false_and, true_and, or_false]
        constructor
        · rintro ⟨⟨_ | tag, vs⟩, _, ⟨xs, hxs, hfold⟩, hlift⟩
          · cases hlift
          · obtain ⟨hassemble, rfl⟩ := lift_eq_ok_iff.1 hlift
            exact ⟨xs, hxs, tag, vs, hfold, hassemble⟩
        · rintro ⟨xs, hxs, tag, vs, hfold, hassemble⟩
          exact ⟨(some tag, vs), rest, ⟨xs, hxs, hfold⟩, lift_eq_ok_iff.2 ⟨hassemble, rfl⟩⟩
      · refine iff_of_false (fun h => ?_) (by simp [hbrace, hbracket])
        simp only [bind_eq_ok_iff] at h
        obtain ⟨_, _, -, h⟩ := h
        cases h

/-- A text is read as a notification exactly if what is written there decodes. -/
theorem read_eq_ok_iff {text : String} :
    read text = .ok n ↔ ∃ v, Json.parseWritten text = .ok v ∧ ofJson v = .ok n := by
  simp only [read, Json.parseWritten, Json.Reader.run_eq_ok_iff, reader_eq_ok_iff]
  constructor
  · rintro ⟨rest, ⟨v, hwritten, hdecode⟩, hend⟩
    exact ⟨v, ⟨rest, hwritten, hend⟩, hdecode⟩
  · rintro ⟨v, ⟨rest, hwritten, hend⟩, hdecode⟩
    exact ⟨rest, ⟨v, hwritten, hdecode⟩, hend⟩

/-- Decoding finds a notification in exactly its wire forms: in an object with its
entries, in any order and with any entries under other keys anywhere among them, and
in the array of its kind and its objects. One of them is the form that it is written
in. And a text is read as a notification exactly if one of its wire forms is written
there. -/
theorem decodes_exactly_wire_forms (n : Notification) :
    ofJson n.toJson = .ok n ∧
    (∀ v, ofJson v = .ok n ↔ n.IsWireForm v) ∧
    ∀ text, read text = .ok n ↔ ∃ v, Json.parseWritten text = .ok v ∧ n.IsWireForm v := by
  refine ⟨ofJson_eq_ok_iff.2 n.isWireForm_toJson, fun v => ofJson_eq_ok_iff, fun text => ?_⟩
  rw [read_eq_ok_iff]
  simp only [ofJson_eq_ok_iff]

example : ofJson (.object [("object", .null), ("note", .null), ("type", .string "ADDED")]) =
    .ok (.added .null) := rfl

end Notification

end NameOwners
