import NameOwners.Text.Digits
import NameOwners.Text.Scanner

/-!
Dates and times of a TOML text, each of which is kept as the text that is usually written for it. A
moment is a bare word of its own kind, but it may also be given as a string under a key that is
reserved for it. Strings are read within wider limits.
-/

namespace NameOwners.Toml.Moment

structure Limits where
  hour : Nat
  offsetHour : Nat
  offsetMinute : Nat

def Limits.words : Limits := ⟨23, 23, 59⟩

/-- The limits for strings: a day may end at hour 24, and an offset may have any two digits for
its hours and for its minutes. -/
def Limits.strings : Limits := ⟨24, 99, 99⟩

def digits (count low high : Nat) : Scanner (List Char) := fun cs =>
  let digits := cs.take count
  let n := Text.digitsValue 10 digits
  if digits.length = count ∧ digits.all (Text.isDigit 10) ∧ low ≤ n ∧ n ≤ high then
    some (digits, cs.drop count)
  else none

def monthLength (year month : Nat) : Nat :=
  if month = 2 then if year % 4 = 0 ∧ (year % 100 ≠ 0 ∨ year % 400 = 0) then 29 else 28
  else if [4, 6, 9, 11].contains month then 30
  else 31

def date : Scanner (List Char) := do
  let year ← digits 4 0 9999
  Scanner.char '-'
  let month ← digits 2 1 12
  Scanner.char '-'
  let last := monthLength (Text.digitsValue 10 year) (Text.digitsValue 10 month)
  let day ← digits 2 1 last
  pure (year ++ '-' :: month ++ '-' :: day)

/-- The fraction of a second, cut to nine digits and without the zeros at its end. -/
def fraction : Scanner (List Char) := do
  match ← Scanner.peek with
  | some '.' => do
    Scanner.advance
    let digits ← Scanner.takeWhile (Text.isDigit 10)
    let kept := ((digits.take 9).reverse.dropWhile (· = '0')).reverse
    if digits.isEmpty then Scanner.fail
    else pure (if kept.isEmpty then [] else '.' :: kept)
  | _ => pure []

def time (l : Limits) : Scanner (List Char) := do
  let hour ← digits 2 0 l.hour
  Scanner.char ':'
  let minute ← digits 2 0 59
  Scanner.char ':'
  let second ← digits 2 0 60
  pure (hour ++ ':' :: minute ++ ':' :: second ++ (← fraction))

def twoDigits (n : Nat) : List Char :=
  [Nat.digitChar (n / 10), Nat.digitChar (n % 10)]

def offset (l : Limits) : Scanner (List Char) := do
  match ← Scanner.peek with
  | none => pure []
  | some c =>
    Scanner.advance
    if c = 'Z' ∨ c = 'z' then pure ['Z']
    else if c = '+' ∨ c = '-' then do
      let hour ← digits 2 0 l.offsetHour
      Scanner.char ':'
      let minute ← digits 2 0 l.offsetMinute
      let minutes := Text.digitsValue 10 hour * 60 + Text.digitsValue 10 minute
      if 24 * 60 < minutes then Scanner.fail
      else pure ((if minutes = 0 then '+' else c) :: twoDigits (minutes / 60) ++
        ':' :: twoDigits (minutes % 60))
    else Scanner.fail

def moment (l : Limits) : Scanner (List Char) := do
  match ← Scanner.optional date with
  | none => time l
  | some date => do
    match ← Scanner.peek with
    | none => pure date
    | some c =>
      Scanner.advance
      if c = 'T' ∨ c = 't' ∨ c = ' ' then do
        let time ← time l
        pure (date ++ 'T' :: time ++ (← offset l))
      else Scanner.fail

def read? (l : Limits) (cs : List Char) : Option String :=
  ((moment l).readAll cs).map String.ofList

end NameOwners.Toml.Moment
