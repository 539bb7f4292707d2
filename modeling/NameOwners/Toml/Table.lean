import NameOwners.Setting
import NameOwners.Toml.Moment

/-!
How the lines of a TOML text build a table. A table is opened by a header, which may be there only
once, as the way to another header, or by the dots in a key; a key may add to a table only in the
way in which it was opened, and no key is set twice.
-/

namespace NameOwners.Toml

/-- How a table came to be. -/
inductive Origin where
  /-- It has a header of its own. -/
  | header
  /-- A header leads through it. -/
  | passage
  /-- A dotted key leads into it. -/
  | dotted
deriving DecidableEq, Repr

inductive Node where
  | value (v : Setting)
  | table (origin : Origin) (entries : List (String × Node))
  /-- The tables of a repeated header, the last one first. -/
  | tables (last : List (String × Node)) (before : List (List (String × Node)))

/-- The entries of a table while a text is read, in the order of the text. -/
abbrev Entries := List (String × Node)

namespace Entries

def update (key : String) (f : Option Node → Option Node) : Entries → Option Entries
  | [] => (f none).map fun n => [(key, n)]
  | (k, n) :: rest =>
    if k = key then (f (some n)).map fun n => (k, n) :: rest
    else (update key f rest).map ((k, n) :: ·)

/-- Open the table of a header. It becomes the last entry, also if other headers have led through
it before. -/
def open? : (path : List String) → Entries → Option Entries
  | [], _ => none
  | [key], es =>
    match Dictionary.find? key es with
    | none => some (es ++ [(key, .table .header [])])
    | some (.table .passage below) =>
      some (es.filter (fun e => e.1 ≠ key) ++ [(key, .table .header below)])
    | some _ => none
  | key :: path, es => es.update key fun
    | none => (open? path []).map (.table .passage)
    | some (.table origin es) => (open? path es).map (.table origin)
    | some (.tables last before) => (open? path last).map (.tables · before)
    | some (.value _) => none

/-- Open one more table of a repeated header. -/
def openNext? : (path : List String) → Entries → Option Entries
  | [], _ => none
  | [key], es => es.update key fun
    | none => some (.tables [] [])
    | some (.tables last before) => some (.tables [] (last :: before))
    | some _ => none
  | key :: path, es => es.update key fun
    | none => (openNext? path []).map (.table .passage)
    | some (.table origin es) => (openNext? path es).map (.table origin)
    | some (.tables last before) => (openNext? path last).map (.tables · before)
    | some (.value _) => none

/-- Set a dotted key below a table. The value may be put directly into that table only if this is
`allowed`, and below it only into tables that dotted keys have opened. -/
def set? (v : Setting) (allowed : Bool) : (path : List String) → Entries → Option Entries
  | [], _ => none
  | [key], es =>
    if allowed then es.update key fun
      | none => some (.value v)
      | some _ => none
    else none
  | key :: path, es => es.update key fun
    | none => (set? v true path []).map (.table .dotted)
    | some (.table .dotted es) => (set? v true path es).map (.table .dotted)
    | some (.table .passage es) => (set? v false path es).map (.table .passage)
    | some (.tables last before) => (set? v false path last).map (.tables · before)
    | some (.table .header _) => none
    | some (.value _) => none

def setBelow? (v : Setting) (path : List String) : (current : List String) → Entries →
    Option Entries
  | [], es => set? v true path es
  | key :: current, es => es.update key fun
    | some (.table origin es) => (setBelow? v path current es).map (.table origin)
    | some (.tables last before) => (setBelow? v path current last).map (.tables · before)
    | _ => none

end Entries

mutual

/-- What a node is once the text has been read. -/
def Node.setting : Node → Setting
  | .value v => v
  | .table _ entries => .table (settings entries)
  | .tables last before => .array (tableSettings before [.table (settings last)])

def settings : Entries → List (String × Setting)
  | [] => []
  | (key, n) :: rest => (key, n.setting) :: settings rest

/-- The settings of tables that are listed last to first, before those that come after. -/
def tableSettings : List Entries → List Setting → List Setting
  | [], after => after
  | es :: before, after => tableSettings before (.table (settings es) :: after)

end

/-! ### Moments -/

/-- The key that is reserved for moments: a table that begins with it stands for the moment that is
given there as a string. -/
def momentKey : String := "$__toml_private_datetime"

def momentTable (text : String) : Setting :=
  .table [(momentKey, .string text)]

mutual

/-- A value with texts in place of the tables that stand for moments. -/
def withMoments? : Setting → Option Setting
  | .array vs => (elementsWithMoments? vs).map .array
  | .table es =>
    match es.head? with
    | some (key, v) =>
      if key = momentKey then
        match v with
        | .string text => (Moment.read? .strings text.toList).map .string
        | _ => none
      else (entriesWithMoments? es).map .table
    | none => some (.table [])
  | v => some v

def elementsWithMoments? : List Setting → Option (List Setting)
  | [] => some []
  | v :: vs => do some ((← withMoments? v) :: (← elementsWithMoments? vs))

def entriesWithMoments? : List (String × Setting) → Option (List (String × Setting))
  | [] => some []
  | (key, v) :: es => do some ((key, ← withMoments? v) :: (← entriesWithMoments? es))

end

end NameOwners.Toml
