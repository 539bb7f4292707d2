import NameOwners.Dictionary

/-!
The index of owners. Every DNS name that somebody owns has a map from namespaces to the objects
that own the name there, and the names are kept in two partitions, wildcard patterns and all
others. A namespace's ownership of a name is claimed and released on behalf of an object: who came
first keeps it, and only the owner gives it up. `Index.owner?_claim` and `Index.owner?_release` say
what both do to every single ownership.
-/

namespace NameOwners

inductive Partition where
  /-- Names that match only themselves. -/
  | regular
  /-- Patterns that match the names below a domain. -/
  | wildcard
deriving DecidableEq, Repr

namespace Partition

/-- Where a name belongs, by its text: a pattern begins with a star and a dot. -/
def of (name : String) : Partition :=
  if ['*', '.'].isPrefixOf name.toList then wildcard else regular

theorem of_eq_wildcard_iff {name : String} :
    of name = wildcard ↔ ∃ rest, name = "*." ++ rest := by
  have hstarts : of name = wildcard ↔ ['*', '.'] <+: name.toList := by
    rw [← List.isPrefixOf_iff_prefix, of]
    split <;> simp_all
  rw [hstarts]
  constructor
  · rintro ⟨rest, h⟩
    refine ⟨String.ofList rest, ?_⟩
    rw [← String.toList_inj, ← h]
    simp
  · rintro ⟨rest, rfl⟩
    exact ⟨rest.toList, by simp⟩

def label : Partition → String
  | regular => "regular"
  | wildcard => "wildcard"

end Partition

/-- The owners of one name: from a namespace to the name of an object in it. -/
abbrev Owners := Dictionary String

structure Index where
  regular : Dictionary Owners := ∅
  wildcard : Dictionary Owners := ∅
deriving DecidableEq, Inhabited

inductive Claim where
  /-- The object owns the name from now on. -/
  | inserted
  /-- The object owned the name already. -/
  | unchanged
  /-- Another object keeps the name. -/
  | conflict (owner : String)
deriving DecidableEq, Repr

inductive Release where
  /-- The object no longer owns the name. -/
  | removed
  /-- The namespace's owner is another object, or there is none. -/
  | notOwner
  /-- Nobody owns the name. -/
  | absent
deriving DecidableEq, Repr

def Claim.isMutation : Claim → Bool
  | .inserted => true
  | _ => false

def Release.isMutation : Release → Bool
  | .removed => true
  | _ => false

namespace Index

def names (i : Index) : Partition → Dictionary Owners
  | .regular => i.regular
  | .wildcard => i.wildcard

def setNames (i : Index) (p : Partition) (names : Dictionary Owners) : Index :=
  match p with
  | .regular => { i with regular := names }
  | .wildcard => { i with wildcard := names }

@[simp] theorem names_setNames (i : Index) (p q : Partition) (names : Dictionary Owners) :
    (i.setNames p names).names q = if q = p then names else i.names q := by
  cases p <;> cases q <;> rfl

/-- Indexes with the same names in both partitions are equal. -/
theorem ext_names {i j : Index} (h : ∀ p, i.names p = j.names p) : i = j := by
  cases i
  cases j
  have hr := h .regular
  have hw := h .wildcard
  simp only [names] at hr hw
  rw [hr, hw]

def owners? (i : Index) (p : Partition) (name : String) : Option Owners :=
  (i.names p).get? name

def owner? (i : Index) (p : Partition) (name ns : String) : Option String :=
  (i.owners? p name).bind (·.get? ns)

def claim (i : Index) (p : Partition) (name ns object : String) : Index × Claim :=
  match i.owner? p name ns with
  | some owner => (i, if owner = object then .unchanged else .conflict owner)
  | none =>
    let owners := ((i.owners? p name).getD ∅).insert ns object
    (i.setNames p ((i.names p).insert name owners), .inserted)

def release (i : Index) (p : Partition) (name ns object : String) : Index × Release :=
  match i.owners? p name with
  | none => (i, .absent)
  | some owners =>
    if owners.get? ns = some object then
      -- A name is forgotten with its last owner.
      let rest := owners.erase ns
      let names :=
        if rest.isEmpty then (i.names p).erase name else (i.names p).insert name rest
      (i.setNames p names, .removed)
    else (i, .notOwner)

def count (i : Index) (p : Partition) : Nat :=
  (i.names p).size

def isEmpty (i : Index) : Bool :=
  i.count .regular = 0 && i.count .wildcard = 0

/-- A claim fills an ownership that is free and leaves all others alone. -/
theorem owner?_claim (i : Index) (p : Partition) (name ns object : String)
    (q : Partition) (name' ns' : String) :
    (i.claim p name ns object).1.owner? q name' ns' =
      if q = p ∧ name' = name ∧ ns' = ns then some ((i.owner? p name ns).getD object)
      else i.owner? q name' ns' := by
  unfold claim
  split
  · rename_i owner h
    by_cases hc : q = p ∧ name' = name ∧ ns' = ns
    · obtain ⟨rfl, rfl, rfl⟩ := hc
      simp [h]
    · rw [if_neg hc]
  · rename_i h
    simp only [owner?, owners?, names_setNames] at h ⊢
    by_cases hp : q = p
    · subst hp
      by_cases hn : name' = name
      · subst hn
        by_cases hs : ns' = ns
        · simp [hs, h]
        · cases ho : (i.names q).get? name' <;> simp [hs]
      · simp [hn]
    · simp [hp]

/-- A release empties the ownership if the object holds it and leaves all others alone. -/
theorem owner?_release (i : Index) (p : Partition) (name ns object : String)
    (q : Partition) (name' ns' : String) :
    (i.release p name ns object).1.owner? q name' ns' =
      if q = p ∧ name' = name ∧ ns' = ns ∧ i.owner? p name ns = some object then none
      else i.owner? q name' ns' := by
  unfold release
  split
  · rename_i h
    have hnone : i.owner? p name ns = none := by simp [owner?, h]
    simp [hnone]
  · rename_i owners h
    have howner : i.owner? p name ns = owners.get? ns := by simp [owner?, h]
    split
    · rename_i hobj
      by_cases hp : q = p
      · subst hp
        by_cases hn : name' = name
        · subst hn
          have hsome : (i.names q).get? name' = some owners := h
          by_cases he : (owners.erase ns).isEmpty = true
          · have hread := Dictionary.isEmpty_iff.1 he ns'
            rw [Dictionary.get?_erase] at hread
            by_cases hs : ns' = ns
            · simp [owner?, owners?, he, hs, hsome, hobj]
            · rw [if_neg hs] at hread
              simp [owner?, owners?, he, hs, hsome, hread]
          · by_cases hs : ns' = ns
            · simp [owner?, owners?, he, hs, hsome, hobj]
            · simp [owner?, owners?, he, hs, hsome]
        · by_cases he : (owners.erase ns).isEmpty = true <;> simp [owner?, owners?, hn, he]
      · simp [owner?, owners?, hp]
    · rename_i hobj
      rw [howner]
      simp [hobj]

end Index

end NameOwners
