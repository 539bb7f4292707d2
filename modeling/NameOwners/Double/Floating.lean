import NameOwners.Double.Shortest
import NameOwners.Text.Digits

/-!
Binary floating-point numbers with the infinities and the undefined number, read from decimal text,
written with the shortest digits that read back, and rounded to natural numbers.
-/

namespace NameOwners

inductive Floating where
  | finite (x : Double)
  | infinite (negative : Bool)
  | undefined
deriving DecidableEq, Repr

namespace Floating

/-- The number nearest to `digits * 10 ^ exponent`. Sizes that are out of all bounds are decided
without computing the power. -/
def ofDecimal (negative : Bool) (digits : Nat) (exponent : Int) : Floating :=
  let size := exponent + Decimal.digitCount digits
  if digits = 0 ∨ size < -400 then finite ⟨negative, .zero⟩
  else if 400 < size then infinite negative
  else
    match Magnitude.ofDecimal digits exponent with
    | some m => finite ⟨negative, m⟩
    | none => infinite negative

/-- Digits around an optional point, not all of them missing, and an optional exponent. -/
def decimal? (negative : Bool) (cs : List Char) : Option Floating :=
  let isDigit := Text.isDigit 10
  let whole := cs.takeWhile isDigit
  let rest := cs.dropWhile isDigit
  let (fraction, rest) :=
    match rest with
    | '.' :: rest => (rest.takeWhile isDigit, rest.dropWhile isDigit)
    | rest => ([], rest)
  let digits := Text.digitsValue 10 (whole ++ fraction)
  let number (exponent : Int) := ofDecimal negative digits (exponent - fraction.length)
  if whole.isEmpty && fraction.isEmpty then none
  else
    match rest with
    | [] => some (number 0)
    | 'e' :: rest | 'E' :: rest => (Text.integer? rest).map number
    | _ => none

def read? (cs : List Char) : Option Floating :=
  let (negative, rest) := Text.splitSign cs
  let name := String.ofList (rest.map Char.toLower)
  if name = "inf" ∨ name = "infinity" then some (infinite negative)
  else if name = "nan" then some undefined
  else decimal? negative rest

def text : Floating → String
  | finite x => Layout.plain.render x
  | infinite negative => if negative then "-inf" else "inf"
  | undefined => "NaN"

/-- The nearest natural number, a half being rounded up; numbers that are too large become the
greatest one of 64 bits, negative and undefined ones zero. -/
def toNat : Floating → Nat
  | finite x =>
    let m := x.magnitude
    if x.negative then 0 else min ((2 * m.num + m.den) / (2 * m.den)) (UInt64.size - 1)
  | infinite negative => if negative then 0 else UInt64.size - 1
  | undefined => 0

end Floating

end NameOwners
