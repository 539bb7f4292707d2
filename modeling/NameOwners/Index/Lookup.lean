import NameOwners.Index.Basic
import NameOwners.Dns.Presentation

/-!
Queries. A query matches the regular entry with exactly its text, and the wildcard entries for the
domains above it. The domains above a text are what follows each of its dots, up to the first that
is empty or a single dot; `Index.allMatches` lists what matches from the most to the least
specific, and `Index.lookup` is the first of it. A parsed name is looked up by its lower-case text,
in which encoded labels are decoded (`Index.lookupWith`).
-/

namespace NameOwners

/-- An entry of the index that matches a query. -/
structure Match where
  name : String
  partition : Partition
  owners : Owners
deriving DecidableEq

/-- The domains above a text, longest first: what follows its first dot, its second and so on,
until nothing or a single dot is left. -/
def domainsAbove : List Char → List (List Char)
  | [] => []
  | c :: cs =>
    if c = '.' then if cs = [] ∨ cs = ['.'] then [] else cs :: domainsAbove cs
    else domainsAbove cs

def wildcardPattern (domain : List Char) : String :=
  String.ofList ('*' :: '.' :: domain)

namespace Index

def regularMatch (i : Index) (query : String) : Option Match :=
  (i.regular.get? query).map fun owners => ⟨query, .regular, owners⟩

def wildcardMatch (i : Index) (domain : List Char) : Option Match :=
  let pattern := wildcardPattern domain
  (i.wildcard.get? pattern).map fun owners => ⟨pattern, .wildcard, owners⟩

/-- The wildcard entries that match a query, from the most to the least specific. The domains above
the query do not matter while there are none at all. -/
def wildcardMatches (i : Index) (query : String) : List Match :=
  if i.wildcard.isEmpty then [] else (domainsAbove query.toList).filterMap i.wildcardMatch

/-- All entries that match a query, from the most to the least specific. -/
def allMatches (i : Index) (query : String) : List Match :=
  (i.regularMatch query).toList ++ i.wildcardMatches query

def lookup (i : Index) (query : String) : Option Match :=
  match i.regularMatch query with
  | some m => some m
  | none => (i.wildcardMatches query).head?

/-- The most specific entry that matches a name without encoded labels, without regard to case. -/
def lookupName (i : Index) (name : Dns.Name) : Option Match :=
  i.lookup name.lower.text

/-- The most specific entry that matches a name without encoded labels as it was given, absolute
or relative. -/
def lookupGiven (i : Index) (name : Dns.GivenName) : Option Match :=
  i.lookup name.query

/-- The most specific entry that matches a name as it was given, with its encoded labels decoded. -/
def lookupWith (decode : Dns.Label → Option (List Char)) (i : Index) (name : Dns.GivenName) :
    Option Match :=
  i.lookup (name.queryWith decode)

theorem lookupGiven_eq (i : Index) (name : Dns.GivenName) :
    i.lookupGiven name = i.lookupName name.toName := rfl

theorem lookupWith_eq_lookupGiven {name : Dns.GivenName}
    (h : ∀ l ∈ name.lower.labels, Dns.isEncoded l = false)
    (decode : Dns.Label → Option (List Char)) (i : Index) :
    i.lookupWith decode name = i.lookupGiven name := by
  rw [lookupWith, Dns.GivenName.queryWith_eq_query h decode, lookupGiven]

end Index

end NameOwners
