import NameOwners.Double.Basic

/-!
The shortest decimal of a binary number: the fewest digits that read back to it, and of those the
nearest. `Decimal.shortest` looks at one grid of decimals after the other, each ten times finer
than the one before, and takes the first that has a point inside the interval of numbers that
round to the given one. How digits and exponent are laid out as text is a `Layout`.
-/

namespace NameOwners

/-- The number `0.d₁d₂… * 10 ^ point`, where `digits` is the integer `d₁d₂…`. -/
structure Decimal where
  digits : Nat
  point : Int
deriving DecidableEq, Repr

namespace Decimal

def digitCount (n : Nat) : Nat :=
  (Nat.toDigits 10 n).length

/-- The `k` for which the positive quotient `num / den` is at least `10 ^ (k - 1)` and below
`10 ^ k`. -/
def decimalExponent (num den : Nat) : Int :=
  let d : Int := (digitCount num : Int) - digitCount den
  if den * Nat.pow 10 d.toNat ≤ num * Nat.pow 10 (-d).toNat then d + 1 else d

/-- The interval of numbers that round to a magnitude, as numerators over one denominator, and
whether its ends belong to it. -/
structure Interval where
  low : Nat
  high : Nat
  den : Nat
  closed : Bool

/-- Below a power of two the next magnitude is only half as far away as above it. -/
def interval (m : Magnitude) : Interval :=
  let narrow := m.coefficient = 1 <<< 52 ∧ Magnitude.minPower < m.power
  let unit := 1 <<< m.power.toNat
  { low := (4 * m.coefficient - if narrow then 1 else 2) * unit
    high := (4 * m.coefficient + 2) * unit
    den := 4 * m.den
    closed := m.coefficient % 2 = 0 }

/-- Whether `n * 10 ^ exponent` lies in an interval. -/
def Interval.contains (i : Interval) (n : Nat) (exponent : Int) : Bool :=
  let num := n * Nat.pow 10 exponent.toNat * i.den
  let den := Nat.pow 10 (-exponent).toNat
  if i.closed then i.low * den ≤ num && num ≤ i.high * den
  else i.low * den < num && num < i.high * den

/-- The multiple of `10 ^ exponent` nearest to a magnitude among its two neighbours on that grid
that read back, a tie going to the even one. -/
def onGrid (m : Magnitude) (exponent : Int) : Option Nat :=
  let num := m.num * Nat.pow 10 (-exponent).toNat
  let den := m.den * Nat.pow 10 exponent.toNat
  let below := num / den
  let above := below + 1
  let nearer := roundHalfEven num den
  match (interval m).contains below exponent, (interval m).contains above exponent with
  | true, true => some nearer
  | true, false => some below
  | false, true => some above
  | false, false => none

def trimZeros : (fuel : Nat) → Nat → Nat
  | 0, n => n
  | fuel + 1, n => if n ≠ 0 ∧ n % 10 = 0 then trimZeros fuel (n / 10) else n

/-- Try the grids from `count` digits on, at most `fuel` of them. -/
def search (m : Magnitude) (exponent : Int) : (fuel count : Nat) → Option Decimal
  | 0, _ => none
  | fuel + 1, count =>
    match onGrid m (exponent - count) with
    | some digits => some ⟨trimZeros 20 digits, exponent - count + digitCount digits⟩
    | none => search m exponent fuel (count + 1)

/-- The fewest digits that read back as a positive magnitude, and of those the nearest. Seventeen
always suffice. -/
def shortest (m : Magnitude) : Decimal :=
  (search m (decimalExponent m.num m.den) 17 1).getD ⟨0, 0⟩

end Decimal

/-- Where a number is written without an exponent, and how an exponent is written. -/
structure Layout where
  /-- The least `point` that is written positionally. -/
  least : Int
  /-- The greatest `point` that is written positionally. -/
  greatest : Int
  /-- What ends a positional number without a fraction. -/
  integerEnd : String
  /-- What stands before a positive exponent. -/
  exponentMark : String

namespace Layout

def zeros (n : Nat) : String :=
  String.ofList (List.replicate n '0')

def positional (l : Layout) (digits : List Char) (point : Int) : String :=
  let count := digits.length
  if point ≤ 0 then "0." ++ zeros (-point).toNat ++ String.ofList digits
  else if point < count then
    String.ofList (digits.take point.toNat) ++ "." ++ String.ofList (digits.drop point.toNat)
  else String.ofList digits ++ zeros (point - count).toNat ++ l.integerEnd

/-- The first digit, a point and the others if there are any, and the exponent. -/
def scientific (l : Layout) (digits : List Char) (point : Int) : String :=
  let exponent := point - 1
  let fraction := if digits.length ≤ 1 then "" else "." ++ String.ofList (digits.drop 1)
  let mark := if exponent < 0 then "e-" else l.exponentMark
  String.ofList (digits.take 1) ++ fraction ++ mark ++ toString exponent.natAbs

def render (l : Layout) (x : Double) : String :=
  let sign := if x.negative then "-" else ""
  if x.magnitude.isZero then sign ++ "0" ++ l.integerEnd
  else
    let d := Decimal.shortest x.magnitude
    let digits := Nat.toDigits 10 d.digits
    if l.least ≤ d.point ∧ d.point ≤ l.greatest then sign ++ l.positional digits d.point
    else sign ++ l.scientific digits d.point

/-- Positional from 0.00001 up to below ten to the sixteenth, always with a fraction; elsewhere with
a signed exponent. -/
def signedExponent : Layout where
  least := -4
  greatest := 16
  integerEnd := ".0"
  exponentMark := "e+"

/-- Positional throughout, without a fraction when there is none. -/
def plain : Layout where
  least := -400
  greatest := 400
  integerEnd := ""
  exponentMark := "e+"

end Layout

end NameOwners
