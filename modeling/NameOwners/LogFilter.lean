import NameOwners.Text.Alphanumeric
import NameOwners.Text.Blank
import NameOwners.Text.Case
import NameOwners.Text.Digits
import NameOwners.Text.Split

/-!
What may be asked of the log: directives separated by commas. A directive is a level, or it names a
target, a span in brackets or both, perhaps with a level after an equals sign; a span may have
fields in braces. An empty directive asks for nothing. The filter decides only whether such a text
makes sense.

Blanks around a directive do not count when its parts are told apart. The parts themselves are cut
from the text with its blanks, though, at the same numbers of bytes: a level after a target has to
be where it would be without the blanks, and a cut cannot be made within a character.
-/

namespace NameOwners.LogFilter

inductive Fault where
  /-- It makes no sense. -/
  | senseless
  /-- A part of it would have to be cut within a character. -/
  | brokenCharacter
deriving DecidableEq, Repr

/-! ### Levels and names -/

/-- The names of the levels; a level is also written as its position in this list. -/
def levelNames : List String := ["off", "error", "warn", "info", "debug", "trace"]

/-- Whether a text is a level, by its name in any case or by its position. -/
def isLevel (cs : List Char) : Bool :=
  levelNames.contains (Text.lowerCase (String.ofList cs)) ||
    (Text.natural? (if cs.head? = some '+' then cs.drop 1 else cs)).any (· < levelNames.length)

def beginsTarget (c : Char) : Bool :=
  Text.isAlphanumeric c || ['-', ':', '_'].contains c

/-! ### Cutting -/

def byteCount (cs : List Char) : Nat :=
  (String.ofList cs).utf8ByteSize

def cut (n : Nat) : List Char → Except Fault (List Char)
  | [] => if n = 0 then .ok [] else .error .brokenCharacter
  | c :: cs =>
    if n = 0 then .ok (c :: cs)
    else if c.utf8Size ≤ n then cut (n - c.utf8Size) cs
    else .error .brokenCharacter

/-! ### Directives -/

/-- Check the level that begins after `start` bytes. It may be left out. -/
def checkLevel (source : List Char) (start : Nat) : Except Fault Unit := do
  let level ← cut start source
  if level.isEmpty || isLevel level then pure () else throw .senseless

def checkEnd (source : List Char) (start : Nat) : List Char → Except Fault Unit
  | [] => pure ()
  | '=' :: _ => checkLevel source (start + 1)
  | _ => throw .senseless

/-- Check the fields of a span, which begin after `start` bytes, and what follows them. -/
def checkFields (source : List Char) (start : Nat) (cs : List Char) : Except Fault Unit := do
  let fields := cs.takeWhile (· ≠ '}')
  let stop := start + byteCount fields
  match cs.drop fields.length with
  | [] => throw .senseless
  | _ :: rest =>
    let _ ← cut start source
    let _ ← cut stop source
    match rest with
    | ']' :: rest => if fields.isEmpty then throw .senseless else checkEnd source (stop + 2) rest
    | _ => throw .senseless

def checkSpan (source : List Char) (start : Nat) (cs : List Char) : Except Fault Unit := do
  let name := cs.takeWhile fun c => c ≠ ']' && c ≠ '{'
  let stop := start + byteCount name
  match cs.drop name.length with
  | [] => throw .senseless
  | c :: rest =>
    let _ ← cut start source
    let _ ← cut stop source
    if c = ']' then checkEnd source (stop + 1) rest else checkFields source (stop + 1) rest

/-- Check a target, or a level that stands alone, and what follows it. -/
def checkTarget (source : List Char) (cs : List Char) : Except Fault Unit := do
  let target := cs.takeWhile fun c => c ≠ '=' && c ≠ '['
  let stop := byteCount target
  match cs.drop target.length with
  | [] => pure ()
  | c :: rest =>
    let _ ← cut stop source
    if c = '=' then checkLevel source (stop + 1) else checkSpan source (stop + 1) rest

def checkDirective (source : List Char) : Except Fault Unit :=
  match Text.trim source with
  | [] => throw .senseless
  | '[' :: cs => checkSpan source 1 cs
  | c :: cs => if beginsTarget c then checkTarget source (c :: cs) else throw .senseless

def check (text : String) : Except Fault Unit :=
  ((Text.splitAt ',' text.toList).filter fun cs => !cs.isEmpty).forM checkDirective

def isValid (text : String) : Bool :=
  (check text).isOk

end NameOwners.LogFilter
