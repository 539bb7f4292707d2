import NameOwners.Address.Basic
import NameOwners.Text.Digits
import NameOwners.Text.Scanner

/-!
Reading addresses. Every step takes as many characters as it can and gives what it read together
with the rest, or nothing; `SocketAddress.read?` then wants the whole text to be taken.
-/

namespace NameOwners

namespace Address

/-- How a number is written: its radix, how many digits it has at most, whether it may begin with
zeros that do not count, and a bound that it stays below. -/
structure NumberForm where
  radix : Nat
  maxDigits : Option Nat
  leadingZeros : Bool
  bound : Nat

def number (f : NumberForm) : Scanner Nat := fun cs =>
  let digits := cs.takeWhile (Text.isDigit f.radix)
  let value := Text.digitsValue f.radix digits
  if digits.isEmpty || f.maxDigits.any (· < digits.length)
      || (!f.leadingZeros && digits.head? = some '0' && 1 < digits.length)
      || f.bound ≤ value then none
  else some (value, cs.dropWhile (Text.isDigit f.radix))

def byteForm : NumberForm := ⟨10, some 3, false, 256⟩

def groupForm : NumberForm := ⟨16, some 4, true, 65536⟩

def socketForm : NumberForm := ⟨10, none, true, 65536⟩

def scopeForm : NumberForm := ⟨10, none, true, 4294967296⟩

def addressV4 : Scanner AddressV4 := fun cs => do
  let (a, cs) ← number byteForm cs
  let (_, cs) ← Scanner.char '.' cs
  let (b, cs) ← number byteForm cs
  let (_, cs) ← Scanner.char '.' cs
  let (c, cs) ← number byteForm cs
  let (_, cs) ← Scanner.char '.' cs
  let (d, cs) ← number byteForm cs
  some (⟨a.toUInt8, b.toUInt8, c.toUInt8, d.toUInt8⟩, cs)

def afterColon {α : Type} (first : Bool) (s : Scanner α) : Scanner α := fun cs =>
  if first then s cs
  else do
    let (_, cs) ← Scanner.char ':' cs
    s cs

structure Groups where
  groups : List UInt16
  /-- Whether the last two were written as an address of version 4. -/
  mixed : Bool
  rest : List Char

/-- As many groups with colons between them as there are, but at most `limit`. An address of
version 4 may take the place of two, and is then the last. -/
def groups : (limit : Nat) → (first : Bool) → List Char → Groups
  | 0, _, cs => ⟨[], false, cs⟩
  | limit + 1, first, cs =>
    match if limit = 0 then none else afterColon first addressV4 cs with
    | some (x, rest) => ⟨x.groups, true, rest⟩
    | none =>
      match afterColon first (number groupForm) cs with
      | none => ⟨[], false, cs⟩
      | some (g, rest) =>
        let more := groups limit false rest
        ⟨g.toUInt16 :: more.groups, more.mixed, more.rest⟩

/-- Eight groups, or fewer around two colons that stand for the zeros between them. -/
def addressV6 : Scanner AddressV6 := fun cs =>
  let front := groups 8 true cs
  if h : front.groups.length = 8 then some (⟨front.groups, h⟩, front.rest)
  else if front.mixed then none
  else do
    let (_, cs) ← Scanner.char ':' front.rest
    let (_, cs) ← Scanner.char ':' cs
    let back := groups (7 - front.groups.length) true cs
    let x ← AddressV6.ofEnds? front.groups back.groups
    some (x, back.rest)

def socketNumber : Scanner UInt16 := fun cs => do
  let (_, cs) ← Scanner.char ':' cs
  let (n, cs) ← number socketForm cs
  some (n.toUInt16, cs)

def scope (cs : List Char) : UInt32 × List Char :=
  match (do
    let (_, cs) ← Scanner.char '%' cs
    number scopeForm cs) with
  | some (n, rest) => (n.toUInt32, rest)
  | none => (0, cs)

def socketV4 : Scanner SocketAddress := fun cs => do
  let (x, cs) ← addressV4 cs
  let (n, cs) ← socketNumber cs
  some (.v4 x n, cs)

def socketV6 : Scanner SocketAddress := fun cs => do
  let (_, cs) ← Scanner.char '[' cs
  let (x, cs) ← addressV6 cs
  let (s, cs) := scope cs
  let (_, cs) ← Scanner.char ']' cs
  let (n, cs) ← socketNumber cs
  some (.v6 x s n, cs)

end Address

def SocketAddress.read? (text : String) : Option SocketAddress :=
  (Address.socketV4 <|> Address.socketV6).readAll text.toList

end NameOwners
