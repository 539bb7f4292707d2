import NameOwners.Address.Basic
import NameOwners.Text.Split

/-!
Addresses as text. The groups of an address of version 6 are written in hexadecimal, and the first
of its longest runs of zero groups is left out if it has at least two; an address that stands for
one of version 4 shows that one. The number of the socket follows a colon, and an address of version
6 is in brackets, with its scope unless that is zero.
-/

namespace NameOwners

def decimalChars (n : Nat) : List Char :=
  Nat.toDigits 10 n

def AddressV4.chars (x : AddressV4) : List Char :=
  Text.join '.' ([x.a, x.b, x.c, x.d].map fun b => decimalChars b.toNat)

def groupsChars (groups : List UInt16) : List Char :=
  Text.join ':' (groups.map fun g => Nat.toDigits 16 g.toNat)

structure ZeroRun where
  start : Nat
  length : Nat
deriving DecidableEq, Repr

/-- The first of the longest runs of zeros from position `i` on, where `current` is the run that
ends before it and `best` the longest up to it. -/
def longestZeroRun (i : Nat) (current best : ZeroRun) : List UInt16 → ZeroRun
  | [] => best
  | g :: rest =>
    if g = 0 then
      let current : ZeroRun :=
        if current.length = 0 then ⟨i, 1⟩ else ⟨current.start, current.length + 1⟩
      longestZeroRun (i + 1) current (if best.length < current.length then current else best) rest
    else longestZeroRun (i + 1) ⟨0, 0⟩ best rest

def AddressV6.zeroRun (x : AddressV6) : ZeroRun :=
  longestZeroRun 0 ⟨0, 0⟩ ⟨0, 0⟩ x.groups

/-- The shortest of the usual ways to write an address. -/
def AddressV6.chars (x : AddressV6) : List Char :=
  match x.mapped? with
  | some y => [':', ':', 'f', 'f', 'f', 'f', ':'] ++ y.chars
  | none =>
    let run := x.zeroRun
    if 1 < run.length then
      groupsChars (x.groups.take run.start) ++ [':', ':'] ++
        groupsChars (x.groups.drop (run.start + run.length))
    else groupsChars x.groups

namespace SocketAddress

def chars : SocketAddress → List Char
  | v4 address socket => address.chars ++ ':' :: decimalChars socket.toNat
  | v6 address scope socket =>
    let zone := if scope = 0 then [] else '%' :: decimalChars scope.toNat
    '[' :: address.chars ++ zone ++ [']', ':'] ++ decimalChars socket.toNat

def text (x : SocketAddress) : String :=
  String.ofList x.chars

end SocketAddress

end NameOwners
