import NameOwners.Json.Reader
import NameOwners.Notification.Basic

/-!
The wire form of notifications: an object whose entry `type` names the kind, or an array that
begins with that name and goes on with the objects in order. The kind is decided as soon as it is
read; the other entries are kept and looked at when the end is reached.
-/

namespace NameOwners

inductive Tag where
  | added
  | updated
  | deleted
  | synced
deriving DecidableEq, Repr

namespace Tag

def label : Tag → String
  | added => "ADDED"
  | updated => "UPDATED"
  | deleted => "DELETED"
  | synced => "SYNCED"

def all : List Tag := [added, updated, deleted, synced]

def ofLabel (name : String) : Except Json.Mismatch Tag :=
  match all.find? (·.label = name) with
  | some tag => .ok tag
  | none => .error (.unknownVariant name (all.map label))

def expected : String := "variant identifier"

def ofJson : Json → Except Json.Mismatch Tag
  | .string name => ofLabel name
  | v => .error (.invalidType v.found expected)

end Tag

namespace Notification

def tagKey : String := "type"

/-- What the wire form holds besides the kind: entries in the order in which they were written, or
objects without keys. -/
inductive Content where
  | named (entries : List (String × Json))
  | positional (elements : List Json)

def valuesOf (key : String) (entries : List (String × Json)) : List Json :=
  (entries.filter (·.1 = key)).map Prod.snd

/-- The first key of the two that is written a second time, in the order of the entries. -/
def repeatedKey? (keys : List String) : (seen : List String) → List (String × Json) →
    Option String
  | _, [] => none
  | seen, (key, _) :: rest =>
    if key ∈ keys then if key ∈ seen then some key else repeatedKey? keys (key :: seen) rest
    else repeatedKey? keys seen rest

/-- The value under a key, if no key that matters is written twice. -/
def fieldOf (keys : List String) (entries : List (String × Json)) (key : String) :
    Except Json.Mismatch Json :=
  match repeatedKey? keys [] entries with
  | some key => .error (.duplicateField key)
  | none =>
    match valuesOf key entries with
    | v :: _ => .ok v
    | [] => .error (.missingField key)

def assembleOne (name : String) (make : Json → Notification) :
    Content → Except Json.Mismatch Notification
  | .named entries => (fieldOf ["object"] entries "object").map make
  | .positional [] =>
    .error (.invalidLength 0 ("struct variant Notification::" ++ name ++ " with 1 element"))
  | .positional [v] => .ok (make v)
  | .positional vs => .error (.invalidLength vs.length "1 element in sequence")

def assembleUpdate : Content → Except Json.Mismatch Notification
  | .named entries => do
    let old ← fieldOf ["old", "new"] entries "old"
    let new ← fieldOf ["old", "new"] entries "new"
    .ok (updated old new)
  | .positional [old, new] => .ok (updated old new)
  | .positional vs =>
    if vs.length < 2 then
      .error (.invalidLength vs.length "struct variant Notification::Updated with 2 elements")
    else .error (.invalidLength vs.length "2 elements in sequence")

def assemble : Tag → Content → Except Json.Mismatch Notification
  | .added, content => assembleOne "Added" added content
  | .updated, content => assembleUpdate content
  | .deleted, content => assembleOne "Deleted" deleted content
  | .synced, .named _ => .ok synced
  | .synced, .positional [] => .ok synced
  | .synced, .positional vs => .error (.invalidLength vs.length "0 elements in sequence")

def expected : String := "internally tagged enum Notification"

/-- The kind and the other entries, both as far as they are known. -/
abbrev Draft := Option Tag × List (String × Json)

def takeEntry : Draft → String × Json → Except Json.Mismatch Draft
  | (tag, entries), (key, v) =>
    if key = tagKey then
      match tag with
      | some _ => .error (.duplicateField tagKey)
      | none => (Tag.ofJson v).map fun tag => (some tag, entries)
    else .ok (tag, entries ++ [(key, v)])

def finish : Draft → Except Json.Mismatch Notification
  | (some tag, entries) => assemble tag (.named entries)
  | (none, _) => .error (.missingField tagKey)

def ofJson : Json → Except Json.Mismatch Notification
  | .object entries => do finish (← entries.foldlM takeEntry (none, []))
  | .array [] => .error (.missingField tagKey)
  | .array (tag :: vs) => do assemble (← Tag.ofJson tag) (.positional vs)
  | v => .error (.invalidType v.found expected)

def toJson : Notification → Json
  | added object => .object [("type", .string "ADDED"), ("object", object)]
  | updated old new => .object [("type", .string "UPDATED"), ("old", old), ("new", new)]
  | deleted object => .object [("type", .string "DELETED"), ("object", object)]
  | synced => .object [("type", .string "SYNCED")]

/-! ### Reading text -/

open Json.Reader (RecordField)

def lift {α : Type} : Except Json.Mismatch α → Json.Reader α
  | .ok a => pure a
  | .error cause => Json.Reader.mismatch cause

def readTag : Json.Reader Tag := do
  lift (Tag.ofLabel (← Json.Reader.stringValue Tag.expected))

def readEntry (key : String) : Draft → Json.Reader Draft
  | (tag, entries) =>
    if key = tagKey then
      match tag with
      | some _ => Json.Reader.mismatch (.duplicateField tagKey)
      | none => do
        Json.Reader.colon
        pure (some (← readTag), entries)
    else do
      Json.Reader.colon
      pure (tag, entries ++ [(key, ← Json.Reader.value (Json.Reader.maxDepth - 1))])

def readElement : Option Tag × List Json → Json.Reader (Option Tag × List Json)
  | (none, vs) => do pure (some (← readTag), vs)
  | (some tag, vs) => do pure (some tag, vs ++ [← Json.Reader.value (Json.Reader.maxDepth - 1)])

def reader : Json.Reader Notification := do
  match ← Json.Reader.peek with
  | none => Json.Reader.unfinished .value
  | some '{' => do lift (finish (← Json.Reader.object readEntry (none, [])))
  | some '[' => do
    match ← Json.Reader.array readElement (none, []) with
    | (some tag, vs) => lift (assemble tag (.positional vs))
    | (none, _) => Json.Reader.mismatch (.missingField tagKey)
  | some _ => do
    let v ← Json.Reader.value 0
    Json.Reader.mismatch (.invalidType v.found expected)

def read (text : String) : Except Json.Error Notification :=
  reader.run text

end Notification

end NameOwners
