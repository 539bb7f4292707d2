import NameOwners.Double.Floating
import NameOwners.Toml.Moment

/-!
The leaves of a TOML text: blanks and comments, strings, keys, and the bare words that stand for
truth values, numbers, dates and times. A bare word is the longest run of characters that may be
part of one; only then it is decided what it stands for.
-/

namespace NameOwners.Toml

/-! ### Blanks, comments and line ends -/

def isBlank (c : Char) : Bool :=
  c = ' ' || c = '\t'

def isPlain (c : Char) : Bool :=
  c = '\t' || (0x20 ≤ c.toNat && c.toNat ≠ 0x7f)

def skipBlanks : Scanner Unit :=
  Scanner.skipWhile isBlank

def skipComment : Scanner Unit := do
  if (← Scanner.peek) = some '#' then Scanner.skipWhile isPlain

def afterLines : List Char → List Char
  | [] => []
  | '\r' :: '\n' :: cs => afterLines cs
  | c :: cs => if isBlank c || c = '\n' then afterLines cs else c :: cs

def endOfLine : Scanner Unit := do
  skipBlanks
  skipComment
  fun
    | [] => some ((), [])
    | '\n' :: cs => some ((), cs)
    | '\r' :: '\n' :: cs => some ((), cs)
    | _ => none

/-- Pass over blanks, line ends and comments, of which there are at most `fuel`. -/
def skipLines : (fuel : Nat) → Scanner Unit
  | 0 => Scanner.fail
  | fuel + 1 => do
    fun cs => some ((), afterLines cs)
    if (← Scanner.peek) = some '#' then do
      endOfLine
      skipLines fuel

def skipSpace : Scanner Unit := fun cs => skipLines (cs.length + 1) cs

/-! ### Strings -/

def numbered? (count : Nat) (cs : List Char) : Option (Char × Nat) :=
  let digits := cs.take count
  let n := Text.digitsValue 16 digits
  if digits.length = count ∧ digits.all (Text.isDigit 16) ∧ n.isValidChar then
    some (Char.ofNat n, count + 1)
  else none

def escape? : List Char → Option (Char × Nat)
  | 'b' :: _ => some ('\x08', 1)
  | 't' :: _ => some ('\t', 1)
  | 'n' :: _ => some ('\n', 1)
  | 'f' :: _ => some ('\x0c', 1)
  | 'r' :: _ => some ('\r', 1)
  | '"' :: _ => some ('"', 1)
  | '\\' :: _ => some ('\\', 1)
  | 'u' :: cs => numbered? 4 cs
  | 'U' :: cs => numbered? 8 cs
  | _ => none

/-- The characters of a string on one line up to its closing quote, after passing over the first
`skip`. -/
def lineBody (quote : Char) (escapes : Bool) : (skip : Nat) → Scanner (List Char)
  | _, [] => none
  | skip + 1, _ :: cs => lineBody quote escapes skip cs
  | 0, c :: cs =>
    if c = quote then some ([], cs)
    else if c = '\\' ∧ escapes then do
      let (d, used) ← escape? cs
      let (body, rest) ← lineBody quote escapes used cs
      some (d :: body, rest)
    else if isPlain c then do
      let (body, rest) ← lineBody quote escapes 0 cs
      some (c :: body, rest)
    else none

/-- How many characters are passed over after a backslash at the end of a line: all blanks and line
ends. -/
def continuation? (cs : List Char) : Option Nat :=
  let rest := cs.dropWhile isBlank
  match rest with
  | '\n' :: _ | '\r' :: '\n' :: _ => some (cs.length - (afterLines rest).length)
  | _ => none

/-- The characters of a string on several lines up to its three closing quotes, after passing over
the first `skip`. One or two quotes before the closing ones belong to the string, and every line
end counts as one character. -/
def linesBody (quote : Char) (escapes : Bool) : (skip : Nat) → Scanner (List Char)
  | _, [] => none
  | skip + 1, _ :: cs => linesBody quote escapes skip cs
  | 0, c :: cs =>
    if c = quote ∧ 2 ≤ (cs.takeWhile (· = quote)).length then
      let run := min 5 ((cs.takeWhile (· = quote)).length + 1)
      some (List.replicate (run - 3) quote, cs.drop (run - 1))
    else if c = '\\' ∧ escapes then
      match continuation? cs with
      | some used => linesBody quote escapes used cs
      | none => do
        let (d, used) ← escape? cs
        let (body, rest) ← linesBody quote escapes used cs
        some (d :: body, rest)
    else if c = '\r' then if cs.head? = some '\n' then linesBody quote escapes 0 cs else none
    else if c = '\n' ∨ isPlain c then do
      let (body, rest) ← linesBody quote escapes 0 cs
      some (c :: body, rest)
    else none

/-- A string on several lines, from what follows its opening quotes. A line end that comes first
does not count. -/
def linesString (quote : Char) (escapes : Bool) : Scanner (List Char)
  | '\n' :: cs => linesBody quote escapes 0 cs
  | '\r' :: '\n' :: cs => linesBody quote escapes 0 cs
  | cs => linesBody quote escapes 0 cs

/-- A string from its opening quote on. Only in double quotes a backslash begins an escape. -/
def string : Scanner String := fun cs =>
  let text (s : Scanner (List Char)) (cs : List Char) :=
    (s cs).map fun (body, rest) => (String.ofList body, rest)
  match cs with
  | '"' :: '"' :: '"' :: cs => text (linesString '"' true) cs
  | '\'' :: '\'' :: '\'' :: cs => text (linesString '\'' false) cs
  | '"' :: cs => text (lineBody '"' true 0) cs
  | '\'' :: cs => text (lineBody '\'' false 0) cs
  | _ => none

/-! ### Keys -/

def isKeyChar (c : Char) : Bool :=
  c.isAlphanum || c = '_' || c = '-'

def keyPart : Scanner String := do
  match ← Scanner.peek with
  | some '"' => do
    Scanner.advance
    String.ofList <$> lineBody '"' true 0
  | some '\'' => do
    Scanner.advance
    String.ofList <$> lineBody '\'' false 0
  | _ => do
    let cs ← Scanner.takeWhile isKeyChar
    if cs.isEmpty then Scanner.fail else pure (String.ofList cs)

def keyParts : (fuel : Nat) → Scanner (List String)
  | 0 => Scanner.fail
  | fuel + 1 => do
    skipBlanks
    let part ← keyPart
    skipBlanks
    if (← Scanner.peek) = some '.' then do
      Scanner.advance
      (part :: ·) <$> keyParts fuel
    else pure [part]

/-- Nesting that reaches this depth is refused. -/
def depthLimit : Nat := 80

def key : Scanner (List String) :=
  keyParts (depthLimit - 1)

/-! ### Numbers -/

def groupedDigits? (radix : Nat) (cs : List Char) : Option (List Char) :=
  let isDigit := Text.isDigit radix
  let separated := (cs.zip (cs.drop 1)).all fun (c, d) => c ≠ '_' || d ≠ '_'
  if cs.head?.any isDigit && cs.getLast?.any isDigit && separated &&
      cs.all fun c => isDigit c || c = '_' then
    some (cs.filter (· ≠ '_'))
  else none

/-- Decimal digits as they may begin a number: a zero stands alone. -/
def leadingDigits? (cs : List Char) : Option (List Char) :=
  (groupedDigits? 10 cs).filter fun digits => digits.head? ≠ some '0' || digits.length = 1

def radixInteger? (radix : Nat) (cs : List Char) : Option Int :=
  (groupedDigits? radix cs).map fun digits => (Text.digitsValue radix digits : Int)

def integer? (word : List Char) : Option Int :=
  let n? :=
    match word with
    | '0' :: 'x' :: cs => radixInteger? 16 cs
    | '0' :: 'o' :: cs => radixInteger? 8 cs
    | '0' :: 'b' :: cs => radixInteger? 2 cs
    | _ =>
      let (negative, cs) := Text.splitSign word
      (leadingDigits? cs).map fun digits =>
        let n : Int := Text.digitsValue 10 digits
        if negative then -n else n
  n?.filter Text.fitsInt64

def exponent? (cs : List Char) : Option Int :=
  let (negative, cs) := Text.splitSign cs
  (groupedDigits? 10 cs).map fun digits =>
    let n : Int := Text.digitsValue 10 digits
    if negative then -n else n

def isExponentMark (c : Char) : Bool :=
  c = 'e' || c = 'E'

/-- A number with a fraction or an exponent, or the name of a number that is none. A number that is
too large is refused. -/
def float? (word : List Char) : Option Floating :=
  let (negative, cs) := Text.splitSign word
  if cs = ['i', 'n', 'f'] then some (.infinite negative)
  else if cs = ['n', 'a', 'n'] then some .undefined
  else do
    let mantissa := cs.takeWhile fun c => !isExponentMark c
    let whole ← leadingDigits? (mantissa.takeWhile (· ≠ '.'))
    let fraction ←
      match mantissa.dropWhile (· ≠ '.') with
      | [] => some []
      | _ :: cs => groupedDigits? 10 cs
    let exponent ←
      match cs.dropWhile fun c => !isExponentMark c with
      | [] => if mantissa.contains '.' then some 0 else none
      | _ :: cs => exponent? cs
    let x := Floating.ofDecimal negative (Text.digitsValue 10 (whole ++ fraction))
      (exponent - fraction.length)
    if x = .infinite false then none else some x

/-! ### Bare words -/

def isWordChar (c : Char) : Bool :=
  isKeyChar c || c = '+' || c = '.' || c = ':'

/-- A bare word. A date may be followed by a blank and a time, which then belong to it. -/
def bareWord : Scanner (List Char) := do
  let word ← Scanner.takeWhile isWordChar
  let rest ← fun cs => some (cs, cs)
  match rest with
  | ' ' :: c :: _ =>
    if (Moment.date.readAll word).isSome && Text.isDigit 10 c then do
      Scanner.advance
      let more ← Scanner.takeWhile isWordChar
      pure (word ++ ' ' :: more)
    else pure word
  | _ => pure word

end NameOwners.Toml
