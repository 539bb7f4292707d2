/-!
Scanners: steps that read a text from left to right and may fail. A scanner is given the characters
that are left and gives what it read together with the characters after it; a scanner that fails
has read nothing.
-/

namespace NameOwners

/-- A step of reading: from the characters that are left to a result and the characters after. -/
abbrev Scanner (α : Type) := StateT (List Char) Option α

namespace Scanner

variable {α : Type}

def fail : Scanner α := fun _ => none

def peek : Scanner (Option Char) := fun cs => some (cs.head?, cs)

def advance : Scanner Unit := fun cs => some ((), cs.drop 1)

def char (c : Char) : Scanner Unit
  | [] => none
  | d :: cs => if d = c then some ((), cs) else none

def takeWhile (p : Char → Bool) : Scanner (List Char) := fun cs =>
  some (cs.takeWhile p, cs.dropWhile p)

def skipWhile (p : Char → Bool) : Scanner Unit := fun cs => some ((), cs.dropWhile p)

def optional (s : Scanner α) : Scanner (Option α) := fun cs =>
  match s cs with
  | some (a, rest) => some (some a, rest)
  | none => some (none, cs)

def lift : Option α → Scanner α
  | some a => pure a
  | none => fail

def readAll (s : Scanner α) (cs : List Char) : Option α :=
  match s cs with
  | some (a, []) => some a
  | _ => none

end Scanner

end NameOwners
