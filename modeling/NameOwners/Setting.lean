import NameOwners.Dictionary
import NameOwners.Double.Floating
import NameOwners.Text.Case

/-!
Settings: the loosely typed values that files and environment variables give, and what they say
when a value of a certain type is wanted. A text may spell a number, a number or truth value may be
taken for a text, and a table may be written as a list of its fields in order.
-/

namespace NameOwners

inductive Setting where
  | bool (b : Bool)
  | integer (n : Int)
  | float (x : Floating)
  | string (s : String)
  | array (elements : List Setting)
  | table (entries : List (String × Setting))
  /-- A place that something was put behind, but nothing into. -/
  | nothing

namespace Setting

def entries : Setting → List (String × Setting)
  | table es => es
  | _ => []

def elements : Setting → List Setting
  | array vs => vs
  | _ => []

/-! ### Putting settings in place -/

def put (key : String) (v : Setting) : List (String × Setting) → List (String × Setting)
  | [] => [(key, v)]
  | (k, w) :: rest => if k = key then (k, v) :: rest else (k, w) :: put key v rest

mutual

/-- What there is in a place after a value was set there. The entries of a table join those of a
table that was there; any other value is replaced. -/
def merge (old : Option Setting) : Setting → Setting
  | table es => mergeEntries (old.getD (table [])) es
  | v => v

def mergeEntries (target : Setting) : List (String × Setting) → Setting
  | [] => target
  | (key, v) :: es =>
    let key := Text.lowerCase key
    let old := Dictionary.find? key target.entries
    mergeEntries (table (put key (merge old v) target.entries)) es

end

inductive Step where
  | key (name : String)
  /-- An element of an array, counted from its end if negative. -/
  | index (i : Int)

def longestArray : Nat := 0x1000000

/-- The position of an element, which may lie beyond the end of an array with `size` elements but
not before its start. -/
def position? (i : Int) (size : Nat) : Option Nat :=
  if 0 ≤ i then if i < longestArray then some i.toNat else none
  else if i.natAbs ≤ size then some (size - i.natAbs)
  else none

/-- Put a value where a path leads, if all its positions exist. Tables and arrays on the way are
made as needed, in place of values of other kinds. -/
def putAt? (v : Setting) : List Step → Setting → Option Setting
  | [], _ => some v
  | [.key name], s => some (mergeEntries s [(name, v)])
  | .key name :: path, s => do
    let old := (Dictionary.find? name s.entries).getD nothing
    some (table (put name (← putAt? v path old) s.entries))
  | .index i :: path, s => do
    let p ← position? i s.elements.length
    let vs := s.elements ++ List.replicate (p + 1 - s.elements.length) nothing
    some (array (vs.set p (← putAt? v path (vs[p]?.getD nothing))))

/-! ### Taking settings for values -/

def natural? (bound : Nat) (s : Setting) : Option Nat :=
  let n? :=
    match s with
    | bool b => some b.toNat
    | integer n => if 0 ≤ n then some n.toNat else none
    | float x => some x.toNat
    | string t =>
      let word := Text.lowerCase t
      if ["true", "on", "yes"].contains word then some 1
      else if ["false", "off", "no"].contains word then some 0
      else
        match t.toList with
        | '+' :: digits => Text.natural? digits
        | digits => Text.natural? digits
    | _ => none
  n?.filter (· < bound)

def text? : Setting → Option String
  | bool b => some (if b then "true" else "false")
  | integer n => some (toString n)
  | float x => some x.text
  | string t => some t
  | _ => none

def texts? : Setting → Option (List String)
  | array vs => vs.mapM text?
  | _ => none

/-- A field of a record of type `σ`: its key, and how its setting changes the record. -/
structure RecordField (σ : Type) where
  key : String
  set : σ → Setting → Option σ

/-- The record that a table gives, or an array of its fields in order, starting from the values
that fields have when they are left out. Other entries and further elements do not matter. -/
def record? {σ : Type} (fields : List (RecordField σ)) (start : σ) : Setting → Option σ
  | table es => fields.foldlM (fun r f =>
      match Dictionary.find? f.key es with
      | some v => f.set r v
      | none => some r) start
  | array vs => (fields.zip vs).foldlM (fun r (f, v) => f.set r v) start
  | _ => none

end Setting

end NameOwners
