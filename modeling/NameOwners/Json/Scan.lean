import NameOwners.Json.Error
import NameOwners.Text.Digits

/-!
The leaves of a JSON text: strings and numbers, read from the characters that are left. A scanner
gives what it found and the characters after it. A string is read character by character; an
escape says how many characters it took, and those are passed over. A number that is not whole
becomes the double that one gets by rounding its digits to a double first and then multiplying or
dividing by a rounded power of ten.
-/

namespace NameOwners.Json.Scan

def malformed {α : Type} (cause : Malformed) : Except Error α :=
  .error (.malformed cause)

def unfinished {α : Type} (what : Unfinished) : Except Error α :=
  .error (.unfinished what)

/-! ### Strings -/

/-- The number that four hexadecimal digits stand for. Fewer than four bytes are an unfinished
string, whatever they are. -/
def hexNumber (cs : List Char) : Except Error Nat :=
  match (cs.take 4).mapM (Text.digitValue? 16) with
  | some [a, b, c, d] => .ok (((a * 16 + b) * 16 + c) * 16 + d)
  | _ =>
    if 4 ≤ (String.ofList (cs.take 4)).utf8ByteSize then malformed .invalidEscape
    else unfinished .string

def isLeadingSurrogate (n : Nat) : Bool :=
  0xd800 ≤ n && n ≤ 0xdbff

def isTrailingSurrogate (n : Nat) : Bool :=
  0xdc00 ≤ n && n ≤ 0xdfff

/-- The second half of a surrogate pair, which must follow its first half `n` directly. -/
def surrogatePair (n : Nat) : List Char → Except Error Char
  | '\\' :: 'u' :: cs => do
    let m ← hexNumber cs
    if isTrailingSurrogate m then
      .ok (Char.ofNat (0x10000 + (n - 0xd800) * 0x400 + (m - 0xdc00)))
    else malformed .loneSurrogate
  | [] | ['\\'] => unfinished .string
  | _ => malformed .unfinishedSurrogate

/-- The character that a numeric escape stands for, and how many characters follow the `u`. -/
def numericEscape (cs : List Char) : Except Error (Char × Nat) := do
  let n ← hexNumber cs
  if isTrailingSurrogate n then malformed .loneSurrogate
  else if isLeadingSurrogate n then do
    let c ← surrogatePair n (cs.drop 4)
    .ok (c, 10)
  else .ok (Char.ofNat n, 4)

/-- The character that an escape stands for, and how many characters follow the backslash. -/
def escape : List Char → Except Error (Char × Nat)
  | [] => unfinished .string
  | '"' :: _ => .ok ('"', 1)
  | '\\' :: _ => .ok ('\\', 1)
  | '/' :: _ => .ok ('/', 1)
  | 'b' :: _ => .ok ('\x08', 1)
  | 'f' :: _ => .ok ('\x0c', 1)
  | 'n' :: _ => .ok ('\n', 1)
  | 'r' :: _ => .ok ('\r', 1)
  | 't' :: _ => .ok ('\t', 1)
  | 'u' :: cs => (numericEscape cs).map fun (c, used) => (c, used + 1)
  | _ => malformed .invalidEscape

/-- The characters of a string up to its closing quote, after passing over the first `skip`. -/
def stringBody : (skip : Nat) → List Char → Except Error (List Char × List Char)
  | _, [] => unfinished .string
  | skip + 1, _ :: cs => stringBody skip cs
  | 0, c :: cs =>
    if c = '"' then .ok ([], cs)
    else if c = '\\' then do
      let (d, used) ← escape cs
      let (body, rest) ← stringBody used cs
      .ok (d :: body, rest)
    else if c.toNat < 0x20 then malformed .controlCharacter
    else do
      let (body, rest) ← stringBody 0 cs
      .ok (c :: body, rest)

def string (cs : List Char) : Except Error (String × List Char) :=
  (stringBody 0 cs).map fun (body, rest) => (String.ofList body, rest)

/-- How many characters an escape takes when nobody asks what it stands for. -/
def skipEscape : List Char → Except Error Nat
  | [] => unfinished .string
  | c :: cs =>
    if c ∈ ['"', '\\', '/', 'b', 'f', 'n', 'r', 't'] then .ok 1
    else if c = 'u' then (hexNumber cs).map fun _ => 5
    else malformed .invalidEscape

def skipStringBody : (skip : Nat) → List Char → Except Error (List Char)
  | _, [] => unfinished .string
  | skip + 1, _ :: cs => skipStringBody skip cs
  | 0, c :: cs =>
    if c = '"' then .ok cs
    else if c = '\\' then do skipStringBody (← skipEscape cs) cs
    else if c.toNat < 0x20 then malformed .controlCharacter
    else skipStringBody 0 cs

/-! ### Numbers -/

def isDigit (c : Char) : Bool :=
  '0' ≤ c && c ≤ '9'

def digitValue (c : Char) : Nat :=
  c.toNat - '0'.toNat

/-- Append digits to a number as long as it stays below two to the sixty-fourth; the digits from
the first one that does not fit are left over. -/
def absorb (n : Nat) : List Char → Nat × List Char
  | [] => (n, [])
  | c :: cs =>
    if n * 10 + digitValue c < UInt64.size then absorb (n * 10 + digitValue c) cs else (n, c :: cs)

/-- Divide by ten to the 308th until the exponent is at least -308, then multiply by the power of
ten that is left. Coefficients are below two to the sixty-fourth, so that after two divisions
nothing is left of them. -/
def scale (m : Magnitude) (exponent : Int) : (fuel : Nat) → Option Magnitude
  | 0 => some .zero
  | fuel + 1 =>
    if exponent.natAbs ≤ 308 then do
      let power ← Magnitude.ofNat (Nat.pow 10 exponent.natAbs)
      if 0 ≤ exponent then m.mul power else m.div power
    else if m.isZero then some m
    else if 0 ≤ exponent then none
    else do
      let power ← Magnitude.ofNat (Nat.pow 10 308)
      scale (← m.div power) (exponent + 308) fuel

def double (negative : Bool) (digits : Nat) (exponent : Int) : Except Error Number :=
  match (Magnitude.ofNat digits).bind fun m => scale m exponent 4 with
  | some m => .ok (.double ⟨negative, m⟩)
  | none => malformed .numberOutOfRange

/-- A number written without fraction and exponent. Minus zero is not whole, nor is a number below
the 64-bit ones. -/
def whole (negative : Bool) (digits : Nat) : Except Error Number :=
  if !negative then .ok (.whole digits)
  else if 0 < digits ∧ Text.fitsInt64 (-(digits : Int)) then .ok (.whole (-(digits : Int)))
  else double true digits 0

/-- The greatest exponent that is read as written. -/
def maxExponent : Nat := 0x7fffffff

/-- A number after its exponent mark. An exponent that is too large makes zero zero, a positive one
is out of range otherwise. -/
def exponentPart (negative : Bool) (digits : Nat) (exponent : Int) (cs : List Char) :
    Except Error (Number × List Char) :=
  let down := cs.head? = some '-'
  let cs := if cs.head? = some '-' ∨ cs.head? = some '+' then cs.drop 1 else cs
  match cs with
  | [] => unfinished .value
  | c :: _ =>
    if !isDigit c then malformed .invalidNumber
    else do
      let written := (cs.takeWhile isDigit).foldl (fun n d => n * 10 + digitValue d) 0
      let rest := cs.dropWhile isDigit
      if maxExponent < written then
        if digits ≠ 0 ∧ !down then malformed .numberOutOfRange
        else .ok (.double ⟨negative, .zero⟩, rest)
      else
        let n ← double negative digits (if down then exponent - written else exponent + written)
        .ok (n, rest)

def scaledPart (negative : Bool) (digits : Nat) (exponent : Int) :
    List Char → Except Error (Number × List Char)
  | 'e' :: cs | 'E' :: cs => exponentPart negative digits exponent cs
  | cs => (double negative digits exponent).map fun n => (n, cs)

/-- A number after its point. Digits that no longer fit are dropped. -/
def fractionPart (negative : Bool) (digits : Nat) (exponent : Int) (cs : List Char) :
    Except Error (Number × List Char) :=
  let fraction := cs.takeWhile isDigit
  if fraction.isEmpty then if cs.isEmpty then unfinished .value else malformed .invalidNumber
  else
    let (digits, dropped) := absorb digits fraction
    scaledPart negative digits (exponent - (fraction.length - dropped.length))
      (cs.dropWhile isDigit)

def number (negative : Bool) : List Char → Except Error (Number × List Char)
  | [] => unfinished .value
  | c :: cs =>
    if !isDigit c then malformed .invalidNumber
    else if c = '0' ∧ (cs.head?.any isDigit) then malformed .invalidNumber
    else
      let (digits, dropped) := absorb 0 ((c :: cs).takeWhile isDigit)
      match (c :: cs).dropWhile isDigit with
      | '.' :: rest => fractionPart negative digits dropped.length rest
      | 'e' :: rest | 'E' :: rest => exponentPart negative digits dropped.length rest
      | rest =>
        if dropped.isEmpty then (whole negative digits).map fun n => (n, rest)
        else (double negative digits dropped.length).map fun n => (n, rest)

def skipExponent (cs : List Char) : Except Error (List Char) :=
  let cs := if cs.head? = some '-' ∨ cs.head? = some '+' then cs.drop 1 else cs
  if cs.head?.any isDigit then .ok (cs.dropWhile isDigit) else malformed .invalidNumber

def skipFraction (cs : List Char) : Except Error (List Char) :=
  if cs.head?.any isDigit then
    match cs.dropWhile isDigit with
    | 'e' :: rest | 'E' :: rest => skipExponent rest
    | rest => .ok rest
  else malformed .invalidNumber

def skipNumber : List Char → Except Error (List Char)
  | [] => malformed .invalidNumber
  | c :: cs =>
    if !isDigit c then malformed .invalidNumber
    else if c = '0' ∧ (cs.head?.any isDigit) then malformed .invalidNumber
    else
      match (c :: cs).dropWhile isDigit with
      | '.' :: rest => skipFraction rest
      | 'e' :: rest | 'E' :: rest => skipExponent rest
      | rest => .ok rest

end NameOwners.Json.Scan
