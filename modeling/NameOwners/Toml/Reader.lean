import NameOwners.Toml.Scan
import NameOwners.Toml.Table

/-!
Reading a TOML text: its lines one after the other, then the table that they build.
-/

namespace NameOwners.Toml

/-! ### Values -/

def word : Scanner Setting := do
  let cs ← bareWord
  if cs = ['t', 'r', 'u', 'e'] then pure (.bool true)
  else if cs = ['f', 'a', 'l', 's', 'e'] then pure (.bool false)
  else
    Scanner.lift ((Moment.read? .words cs).map momentTable <|> (float? cs).map .float <|>
      (integer? cs).map .integer)

/-- The elements of an array up to its closing bracket, with commas between them and perhaps one
after the last. -/
def elements (element : Scanner Setting) : (fuel : Nat) → Scanner (List Setting)
  | 0 => Scanner.fail
  | fuel + 1 => do
    skipSpace
    if (← Scanner.peek) = some ']' then do
      Scanner.advance
      pure []
    else do
      let v ← element
      skipSpace
      match ← Scanner.peek with
      | some ',' => do
        Scanner.advance
        (v :: ·) <$> elements element fuel
      | some ']' => do
        Scanner.advance
        pure [v]
      | _ => Scanner.fail

def pair (v : Scanner Setting) : Scanner (List String × Setting) := do
  let path ← key
  Scanner.char '='
  skipBlanks
  pure (path, ← v)

def inlineEntries (v : Scanner Setting) : (fuel : Nat) → Entries → Scanner Entries
  | 0, _ => Scanner.fail
  | fuel + 1, es => do
    let (path, v') ← pair v
    let es ← Scanner.lift (es.set? v' true path)
    skipBlanks
    match ← Scanner.peek with
    | some ',' => do
      Scanner.advance
      inlineEntries v fuel es
    | some '}' => do
      Scanner.advance
      pure es
    | _ => Scanner.fail

def inlineTable (v : Scanner Setting) : Scanner Entries := do
  skipBlanks
  if (← Scanner.peek) = some '}' then do
    Scanner.advance
    pure []
  else fun cs => inlineEntries v (cs.length + 1) [] cs

/-- A value, in which at most `depth` arrays and tables are open at once. -/
def value (depth : Nat) : Scanner Setting := do
  match ← Scanner.peek with
  | some '"' | some '\'' => .string <$> string
  | some '[' =>
    match depth with
    | 0 => Scanner.fail
    | depth + 1 => do
      Scanner.advance
      .array <$> fun cs => elements (value depth) (cs.length + 1) cs
  | some '{' =>
    match depth with
    | 0 => Scanner.fail
    | depth + 1 => do
      Scanner.advance
      let es ← inlineTable (value depth)
      pure (.table (settings es))
  | _ => word

/-! ### Lines -/

inductive Line where
  /-- At most a comment. -/
  | empty
  | entry (path : List String) (v : Setting)
  | header (path : List String)
  /-- A header that may be repeated. -/
  | nextHeader (path : List String)

def lineContent : Scanner Line := do
  skipBlanks
  match ← Scanner.peek with
  | none | some '#' | some '\n' | some '\r' => pure .empty
  | some '[' => do
    Scanner.advance
    if (← Scanner.peek) = some '[' then do
      Scanner.advance
      let path ← key
      Scanner.char ']'
      Scanner.char ']'
      pure (.nextHeader path)
    else do
      let path ← key
      Scanner.char ']'
      pure (.header path)
  | some _ => do
    let (path, v) ← pair (value (depthLimit - 1))
    pure (.entry path v)

def lines : (fuel : Nat) → Scanner (List Line)
  | 0 => Scanner.fail
  | fuel + 1 => do
    let line ← lineContent
    endOfLine
    if (← Scanner.peek).isNone then pure [line] else (line :: ·) <$> lines fuel

/-- The table as far as it has been read, and the path of the last header. -/
structure Draft where
  entries : Entries := []
  current : List String := []

def Draft.take? (d : Draft) : Line → Option Draft
  | .empty => some d
  | .entry path v => (d.entries.setBelow? v path d.current).map ({ d with entries := · })
  | .header path => (d.entries.open? path).map (⟨·, path⟩)
  | .nextHeader path => (d.entries.openNext? path).map (⟨·, path⟩)

def read? (text : String) : Option (List (String × Setting)) := do
  let cs := text.toList
  let cs := if cs.head? = some '\uFEFF' then cs.drop 1 else cs
  let ls ← (lines (cs.length + 1)).readAll cs
  let d ← ls.foldlM Draft.take? {}
  match ← withMoments? (.table (settings d.entries)) with
  | .table es => some es
  | _ => none

end NameOwners.Toml
