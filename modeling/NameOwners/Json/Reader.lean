import NameOwners.Json.Scan

/-!
Reading JSON text from left to right. A `Reader` takes the characters that are left and gives a
result and the characters after it, or the first error in the order of the text. Arrays and
objects are read through `foldElements` and `foldEntries`, which hand each element or entry to a
reader of the caller's choice; so a caller decides what a value means while it is read, and an
error of meaning can come before an error of grammar further on. `value` reads any value, and
`skipValue` passes over one that nobody asks for.
-/

namespace NameOwners.Json

abbrev Reader (α : Type) := StateT (List Char) (Except Error) α

namespace Reader

variable {α σ : Type}

def fail (e : Error) : Reader α := fun _ => .error e

def malformed (cause : Malformed) : Reader α := fail (.malformed cause)

def unfinished (what : Unfinished) : Reader α := fail (.unfinished what)

def mismatch (cause : Mismatch) : Reader α := fail (.mismatch cause)

def isSpace (c : Char) : Bool :=
  c = ' ' || c = '\t' || c = '\n' || c = '\r'

def peek : Reader (Option Char) := fun cs =>
  let rest := cs.dropWhile isSpace
  .ok (rest.head?, rest)

def advance : Reader Unit := fun cs => .ok ((), cs.drop 1)

def word : List Char → Reader Unit
  | [] => pure ()
  | c :: more => fun cs =>
    match cs with
    | [] => unfinished .value cs
    | d :: rest => if d = c then word more rest else malformed .expectedWord rest

def string : Reader String := fun cs => Scan.string (cs.drop 1)

def number : Reader Number := fun cs =>
  match cs with
  | '-' :: rest => Scan.number true rest
  | cs => Scan.number false cs

/-! ### Arrays and objects -/

/-- Whether an array has another element. Between two elements there is a comma, which is passed
over, and no closing bracket comes after it. -/
def nextElement (first : Bool) : Reader Bool := do
  match ← peek with
  | none => unfinished .list
  | some ']' => pure false
  | some c =>
    if first then pure true
    else if c = ',' then do
      advance
      match ← peek with
      | none => unfinished .value
      | some ']' => malformed .trailingComma
      | some _ => pure true
    else malformed .expectedListEnd

def closeArray : Reader Unit := do
  match ← peek with
  | none => unfinished .list
  | some ']' => advance
  | some ',' => do
    advance
    match ← peek with
    | some ']' => malformed .trailingComma
    | _ => malformed .trailingCharacters
  | some _ => malformed .trailingCharacters

def nextKey (first : Bool) : Reader (Option String) := do
  match ← peek with
  | none => unfinished .object
  | some '}' => pure none
  | some c =>
    if first then
      if c = '"' then some <$> string else malformed .keyNotString
    else if c = ',' then do
      advance
      match ← peek with
      | none => unfinished .value
      | some '"' => some <$> string
      | some '}' => malformed .trailingComma
      | some _ => malformed .keyNotString
    else malformed .expectedObjectEnd

def colon : Reader Unit := do
  match ← peek with
  | none => unfinished .object
  | some ':' => advance
  | some _ => malformed .expectedColon

/-- Hand each element of an array to `step`, which must read it. The array ends before its closing
bracket. -/
def foldElements (step : σ → Reader σ) : (fuel : Nat) → (first : Bool) → σ → Reader σ
  | 0, _, _ => unfinished .list
  | fuel + 1, first, s => do
    if ← nextElement first then foldElements step fuel false (← step s) else pure s

/-- Hand each key of an object to `step`, which must read the colon and the value. The object ends
before its closing brace. -/
def foldEntries (step : String → σ → Reader σ) : (fuel : Nat) → (first : Bool) → σ → Reader σ
  | 0, _, _ => unfinished .object
  | fuel + 1, first, s => do
    match ← nextKey first with
    | some key => foldEntries step fuel false (← step key s)
    | none => pure s

/-- The elements of an array from its opening bracket through its closing one. Each element takes
at least one character, so that the characters left bound their number. -/
def array (step : σ → Reader σ) (s : σ) : Reader σ := do
  advance
  let s ← fun cs => foldElements step (cs.length + 1) true s cs
  closeArray
  pure s

def object (step : String → σ → Reader σ) (s : σ) : Reader σ := do
  advance
  let s ← fun cs => foldEntries step (cs.length + 1) true s cs
  advance
  pure s

/-! ### Any value -/

/-- How many arrays and objects may be open at once. -/
def maxDepth : Nat := 127

def value (depth : Nat) : Reader Json := do
  match ← peek with
  | none => unfinished .value
  | some c =>
    if c = 'n' then do
      word ['n', 'u', 'l', 'l']
      pure .null
    else if c = 't' then do
      word ['t', 'r', 'u', 'e']
      pure (.bool true)
    else if c = 'f' then do
      word ['f', 'a', 'l', 's', 'e']
      pure (.bool false)
    else if c = '"' then Json.string <$> string
    else if c = '-' ∨ Scan.isDigit c then Json.number <$> number
    else if c = '[' then
      match depth with
      | 0 => malformed .tooDeep
      | depth + 1 => do
        let elements ← array (fun vs => do pure ((← value depth) :: vs)) []
        pure (.array elements.reverse)
    else if c = '{' then
      match depth with
      | 0 => malformed .tooDeep
      | depth + 1 => do
        let entries ← object (fun key es => do
          colon
          pure ((key, ← value depth) :: es)) []
        pure (ofEntries entries.reverse)
    else malformed .expectedValue

def endOfText : Reader Unit := do
  match ← peek with
  | none => pure ()
  | some _ => malformed .trailingCharacters

def run (r : Reader α) (text : String) : Except Error α :=
  (do
    let a ← r
    endOfText
    pure a : Reader α).run' text.toList

/-! ### Passing over a value

Here arrays and objects may be nested without limit, a string may hold half a surrogate pair and a
number may be out of range. A list of the arrays and objects that are open takes the place of the
recursion. -/

inductive Open where
  | array
  | object

/-- What comes next while passing over a value. -/
inductive Stage where
  /-- A value. -/
  | value
  /-- The first element or entry of what was opened last, or its end. -/
  | first
  /-- The next element or entry, or the end. -/
  | next

def skipKey : Reader Unit := do
  match ← peek with
  | none => unfinished .object
  | some '"' => do
    advance
    fun cs => (Scan.skipStringBody 0 cs).map fun rest => ((), rest)
    colon
  | some _ => malformed .keyNotString

def Open.lead : Open → Reader Unit
  | .array => pure ()
  | .object => skipKey

def skipStart : Reader (Option Open) := do
  match ← peek with
  | none => unfinished .value
  | some c =>
    if c = 'n' then do
      word ['n', 'u', 'l', 'l']
      pure none
    else if c = 't' then do
      word ['t', 'r', 'u', 'e']
      pure none
    else if c = 'f' then do
      word ['f', 'a', 'l', 's', 'e']
      pure none
    else if c = '"' then do
      advance
      fun cs => (Scan.skipStringBody 0 cs).map fun rest => (none, rest)
    else if c = '-' then do
      advance
      fun cs => (Scan.skipNumber cs).map fun rest => (none, rest)
    else if Scan.isDigit c then fun cs => (Scan.skipNumber cs).map fun rest => (none, rest)
    else if c = '[' then do
      advance
      pure (some .array)
    else if c = '{' then do
      advance
      pure (some .object)
    else malformed .expectedValue

/-- Pass over what is left of a value inside the arrays and objects that are open. -/
def skipRest : (fuel : Nat) → Stage → List Open → Reader Unit
  | 0, _, _ => unfinished .value
  | fuel + 1, .value, opened => do
    match ← skipStart with
    | some o => skipRest fuel .first (o :: opened)
    | none => skipRest fuel .next opened
  | _ + 1, _, [] => pure ()
  | fuel + 1, .first, o :: opened => do
    match o, ← peek with
    | .array, none => unfinished .list
    | .object, none => unfinished .object
    | .array, some ']' => do
      advance
      skipRest fuel .next opened
    | .object, some '}' => do
      advance
      skipRest fuel .next opened
    | o, some _ => do
      o.lead
      skipRest fuel .value (o :: opened)
  | fuel + 1, .next, o :: opened => do
    match o, ← peek with
    | .array, none => unfinished .list
    | .object, none => unfinished .object
    | .array, some ']' => do
      advance
      skipRest fuel .next opened
    | .object, some '}' => do
      advance
      skipRest fuel .next opened
    | o, some ',' => do
      advance
      o.lead
      skipRest fuel .value (o :: opened)
    | .array, some _ => malformed .expectedListEnd
    | .object, some _ => malformed .expectedObjectEnd

/-- Pass over a value. Every two steps take at least one character. -/
def skipValue : Reader Unit := fun cs => skipRest (2 * cs.length + 2) .value [] cs

/-! ### Values of a given kind -/

/-- Refuse a value that is of another kind than expected; of an array or object only the opening
bracket is looked at. -/
def refuse (expected : String) : Reader α := do
  match ← peek with
  | none => malformed .expectedValue
  | some c =>
    if c = '[' then mismatch (.invalidType .sequence expected)
    else if c = '{' then mismatch (.invalidType .map expected)
    else do
      let v ← value 0
      mismatch (.invalidType v.found expected)

/-- Read with `r` if the next character is one that `starts`, and refuse the value otherwise. -/
def expect (expected : String) (starts : Char → Bool) (r : Reader α) : Reader α := do
  match ← peek with
  | none => unfinished .value
  | some c => if starts c then r else refuse expected

def stringValue (expected : String) : Reader String :=
  expect expected (· = '"') string

/-- A whole number below a bound. -/
def boundedNumber (expected : String) (bound : Nat) : Reader Nat :=
  expect expected (fun c => c = '-' || Scan.isDigit c) do
    match ← number with
    | .whole n =>
      if 0 ≤ n ∧ n < bound then pure n.toNat
      else mismatch (.invalidValue (.number (.whole n)) expected)
    | .double x => mismatch (.invalidType (.number (.double x)) expected)

def listValue (element : Reader α) : Reader (List α) :=
  expect "a sequence" (· = '[') do
    let elements ← array (fun vs => do pure ((← element) :: vs)) []
    pure elements.reverse

/-! ### Records

A record is written as an object, or as an array of its fields in order. Fields that are left out
keep their value, entries with other keys are passed over, and no field may be written twice.
Records here are nested so little that the limit on depth cannot be reached. -/

/-- A field of a record of type `σ`: its key, and how reading its value changes the record. -/
structure RecordField (σ : Type) where
  key : String
  read : σ → Reader σ

/-- The fields of a record in an array, as far as it goes. -/
def positional : (first : Bool) → List (RecordField σ) → σ → Reader σ
  | _, [], s => pure s
  | first, f :: fields, s => do
    if ← nextElement first then positional false fields (← f.read s) else pure s

/-- One entry of a record in an object; `seen` are the keys of the fields that have been read. -/
def namedField (fields : List (RecordField σ)) (key : String) :
    List String × σ → Reader (List String × σ)
  | (seen, s) =>
    match fields.find? (·.key = key) with
    | some f =>
      if key ∈ seen then mismatch (.duplicateField key)
      else do
        colon
        pure (key :: seen, ← f.read s)
    | none => do
      colon
      skipValue
      pure (seen, s)

/-- A record, starting from the values that fields have when they are left out. -/
def record (expected : String) (fields : List (RecordField σ)) (s : σ) : Reader σ :=
  expect expected (fun c => c = '[' || c = '{') do
    match ← peek with
    | some '[' => do
      advance
      let s ← positional true fields s
      closeArray
      pure s
    | _ => do
      let (_, s) ← object (namedField fields) ([], s)
      pure s

end Reader

def parse (text : String) : Except Error Json :=
  (Reader.value Reader.maxDepth).run text

end NameOwners.Json
