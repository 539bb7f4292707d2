import NameOwners.Proofs.Dns.Reading
import NameOwners.Proofs.Index.WellKept

/-!
Whether a stored name is found again. Names are stored as they were registered and
compared as texts, so a name is found by exactly its own text. A parsed name is looked
up under its text in small letters, with encoded labels decoded and with a final dot; a
stored name that is spelled like this is found by it
(`Synchronizer.finds_stored_name`), one that is spelled differently need not be
(`Synchronizer.misses_other_spellings`). The patterns that have nothing behind their
first dot, or just another one, are never found.
-/

namespace NameOwners

/-! ### Patterns -/

/-- A pattern is the most specific one that its own text can match. -/
theorem domainsAbove_pattern {s : List Char} (hempty : s ≠ []) (hdot : s ≠ ['.']) :
    domainsAbove ('*' :: '.' :: s) = s :: domainsAbove s := by
  rw [domainsAbove, if_neg (by decide), domainsAbove, if_pos rfl, if_neg (by simp [hempty, hdot])]

namespace Index

variable {i : Index} {owners : Owners}

theorem lookup_pattern {s : String} (hregular : i.regular.get? ("*." ++ s) = none)
    (hwildcard : i.wildcard.get? ("*." ++ s) = some owners) (hempty : s ≠ "") (hdot : s ≠ ".") :
    i.lookup ("*." ++ s) = some ⟨"*." ++ s, .wildcard, owners⟩ := by
  have hchars : ("*." ++ s).toList = '*' :: '.' :: s.toList := by simp
  have hmatch : i.wildcardMatch s.toList = some ⟨"*." ++ s, .wildcard, owners⟩ := by
    rw [wildcardMatch, wildcardPattern_eq, String.ofList_toList, hwildcard]
    rfl
  have hdot' : s.toList ≠ ['.'] := fun h => hdot (String.toList_inj.1 h)
  rw [lookup_of_no_regular _ _ hregular, wildcardMatches_eq, hchars,
    domainsAbove_pattern (mt String.toList_eq_nil_iff.1 hempty) hdot',
    List.filterMap_cons_some hmatch]
  rfl

/-- What is stored is found under its own text, but for two patterns. -/
theorem WellKept.lookup_eq {f : NamespaceFilter} (h : i.WellKept f) {p : Partition} {name : String}
    (hstored : i.owners? p name = some owners) (hempty : name ≠ "*.") (hdot : name ≠ "*..") :
    i.lookup name = some ⟨name, p, owners⟩ := by
  cases p with
  | regular => exact i.lookup_of_regular name hstored
  | wildcard =>
      have hplaced := h.placed .wildcard name owners hstored
      -- A pattern has no regular entry beside it.
      have hregular : i.regular.get? name = none := by
        refine Option.eq_none_iff_forall_ne_some.2 fun other hother => ?_
        cases (h.placed .regular name other hother).trans hplaced.symm
      obtain ⟨s, rfl⟩ := Partition.of_eq_wildcard_iff.1 hplaced.symm
      refine lookup_pattern hregular hstored ?_ ?_
      · rintro rfl
        exact hempty (by decide)
      · rintro rfl
        exact hdot (by decide)

end Index

namespace Synchronizer

open Notification (ofAdded)

/-- After any run of a synchronizer that began with an empty index, a stored name is
found by every name that is looked up under its text: in any case of the letters, given
as absolute or relative, and however encoded labels are decoded. The exceptions are the
pattern with nothing behind its dot and the one with just another dot, which is not the
text of a name because it has an empty label. -/
theorem finds_stored_name (f : NamespaceFilter) (o : Observer) (run : List Notification)
    {p : Partition} {name : String} {owners : Owners}
    (hstored : ((fresh f o).handleAll run).index.owners? p name = some owners)
    (hempty : name ≠ "*.") (hdot : name ≠ "*..") (decode : Dns.Label → Option (List Char))
    (n : Dns.GivenName) (hquery : n.queryWith decode = name) :
    ((fresh f o).handleAll run).index.lookupWith decode n = some ⟨name, p, owners⟩ := by
  have hkept : ((fresh f o).handleAll run).index.WellKept f := by
    rw [index_handleAll_fresh]
    exact (Index.WellKept.empty f).handleAll run
  rw [Index.lookupWith, hquery]
  exact hkept.lookup_eq hstored hempty hdot

/-- A pattern with an escaped dot and a label in other letters, asked for in capitals, with
this label encoded and without the final dot, next to a wider pattern. -/
theorem finds_stored_pattern :
    let run :=
      [ofAdded ⟨"ns", "wide", "*.com."⟩, ofAdded ⟨"ns", "narrow", "*.a\\.b.bücher.com."⟩]
    let i := ((fresh .all .recording).handleAll run).index
    let owners := (∅ : Owners).insert "ns" "narrow"
    let label : String → Dns.Label := fun text => text.toList.map (·.toNat.toUInt8)
    let decode := fun l => if l = label "xn--bcher-kva" then some "bücher".toList else none
    let n : Dns.GivenName :=
      ⟨⟨["*", "A.B", "XN--BCHER-KVA", "COM"].map label, by decide +kernel⟩, false⟩
    n.queryWith decode = "*.a\\.b.bücher.com." ∧
      i.lookupWith decode n = some ⟨"*.a\\.b.bücher.com.", .wildcard, owners⟩ := by
  intro run i owners label decode n
  have hstored : i.owners? .wildcard "*.a\\.b.bücher.com." = some owners := by decide +kernel
  have hquery : n.queryWith decode = "*.a\\.b.bücher.com." := by decide +kernel
  exact ⟨hquery,
    finds_stored_name .all .recording run hstored (by decide) (by decide) decode n hquery⟩

/-- A name in capital letters, one without its final dot, one with an escape that it
does not need and the pattern with nothing behind its dot: all of them are stored, all
are read as names, and none is found by the name that it is read as. -/
theorem misses_other_spellings :
    let names := ["WWW.example.com.", "api.example.com", "m\\141il.example.com.", "*."]
    let i := ((fresh .all .recording).handleAll (names.map fun name =>
      ofAdded ⟨"ns", "object", name⟩)).index
    ∀ name ∈ names, (i.owners? (.of name) name).isSome ∧
      (Dns.GivenName.read? name).map i.lookupGiven = some none := by
  decide +kernel

end Synchronizer

end NameOwners
