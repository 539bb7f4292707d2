import NameOwners.Dictionary
import NameOwners.Double.Shortest

/-!
JSON values. An object is a list of entries in the order of the text that it stands for; a value
that nobody asks about its order is built by `Json.ofEntries`, which sorts the keys and keeps the
last value of each.
-/

namespace NameOwners

/-- A number is a whole number or a binary fraction, according to how it was written. -/
inductive Number where
  | whole (n : Int)
  | double (x : Double)
deriving DecidableEq, Repr

def Number.text : Number → String
  | .whole n => toString n
  | .double x => Layout.signedExponent.render x

inductive Json where
  | null
  | bool (b : Bool)
  | number (n : Number)
  | string (s : String)
  | array (elements : List Json)
  | object (entries : List (String × Json))

namespace Json

/-- The object with the given entries, sorted by key, where the last of equal keys counts. -/
def ofEntries (entries : List (String × Json)) : Json :=
  object (Dictionary.ofList entries).entries

def field? (key : String) : Json → Option Json
  | object entries => Dictionary.find? key entries
  | _ => none

def nat (n : Nat) : Json :=
  number (.whole n)

end Json

end NameOwners
