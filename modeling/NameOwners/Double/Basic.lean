/-!
Finite binary floating-point numbers of 64 bits, as sign, integer coefficient and power of two.
Rounding is done in exact integer arithmetic: `Magnitude.nearest` takes a quotient of natural
numbers to the nearest representable magnitude, a half going to the even coefficient, and finds
nothing when the quotient is too large.
-/

namespace NameOwners

/-- A nonnegative number `coefficient * 2 ^ power`. A magnitude that some number has is in normal
form when the coefficient has 53 bits or the power is the least one, -1074. -/
structure Magnitude where
  coefficient : Nat
  power : Int
deriving DecidableEq, Repr

structure Double where
  negative : Bool
  magnitude : Magnitude
deriving DecidableEq, Repr

/-- The quotient of two natural numbers rounded to the nearest one, a half to the even one. -/
def roundHalfEven (num den : Nat) : Nat :=
  let q := num / den
  let r := num % den
  if 2 * r < den then q
  else if den < 2 * r then q + 1
  else if q % 2 = 0 then q else q + 1

namespace Magnitude

def minPower : Int := -1074

def maxPower : Int := 971

def coefficientBound : Nat := 1 <<< 53

def zero : Magnitude := ⟨0, minPower⟩

def isZero (m : Magnitude) : Bool :=
  m.coefficient = 0

def num (m : Magnitude) : Nat :=
  m.coefficient <<< m.power.toNat

def den (m : Magnitude) : Nat :=
  1 <<< (-m.power).toNat

/-- Whether `2 ^ e` is at most `num / den`. -/
def powerLe (e : Int) (num den : Nat) : Bool :=
  den <<< e.toNat ≤ num <<< (-e).toNat

/-- The greatest `e` for which `2 ^ e` is at most the positive quotient `num / den`. -/
def binaryExponent (num den : Nat) : Int :=
  let e : Int := (num.log2 : Int) - den.log2
  if powerLe e num den then e else e - 1

/-- The magnitude nearest to `num / den`, a half going to the even coefficient; nothing when it
would exceed the greatest one. -/
def nearest (num den : Nat) : Option Magnitude :=
  if num = 0 then some zero
  else
    let power := max minPower (binaryExponent num den - 52)
    let coefficient := roundHalfEven (num <<< (-power).toNat) (den <<< power.toNat)
    let rounded : Magnitude :=
      if coefficient = coefficientBound then ⟨1 <<< 52, power + 1⟩ else ⟨coefficient, power⟩
    if rounded.power ≤ maxPower then some rounded else none

def ofNat (n : Nat) : Option Magnitude :=
  nearest n 1

def mul (a b : Magnitude) : Option Magnitude :=
  nearest (a.num * b.num) (a.den * b.den)

def div (a b : Magnitude) : Option Magnitude :=
  nearest (a.num * b.den) (a.den * b.num)

def ofDecimal (digits : Nat) (exponent : Int) : Option Magnitude :=
  nearest (digits * Nat.pow 10 exponent.toNat) (Nat.pow 10 (-exponent).toNat)

end Magnitude

end NameOwners
