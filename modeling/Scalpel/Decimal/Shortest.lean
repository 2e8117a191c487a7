import Scalpel.Number

/-!
A floating-point number as an exact value: a sign and a whole number times a power of two, or one of
the values that are no numbers.
-/

set_option autoImplicit false

namespace Scalpel.Decimal

/-- The exact value of a floating-point number. -/
inductive Exact where
  | nan
  | infinite (negative : Bool)
  | finite (negative : Bool) (mantissa : Nat) (exponent : Int)
deriving DecidableEq, Repr

def Exact.ofBits (bits : UInt64) : Exact :=
  let n := bits.toNat
  let negative := n / 2 ^ 63 = 1
  let biased := n / 2 ^ 52 % 2 ^ 11
  let fraction := n % 2 ^ 52
  if biased = 2047 then if fraction = 0 then .infinite negative else .nan
  else if biased = 0 then .finite negative fraction (-1074)
  else .finite negative (2 ^ 52 + fraction) (Int.ofNat biased - 1075)

def Exact.ofFloat (x : Float) : Exact :=
  .ofBits x.toBits

def quotient (mantissa : Nat) (exponent : Int) : Nat × Nat :=
  if exponent < 0 then (mantissa, 2 ^ exponent.natAbs) else (mantissa * 2 ^ exponent.natAbs, 1)

def Exact.truncate : Exact → Option Int
  | .finite negative mantissa exponent =>
    let (num, den) := quotient mantissa exponent
    some (if negative then -Int.ofNat (num / den) else Int.ofNat (num / den))
  | _ => none

def Exact.whole? : Exact → Option Int
  | .finite negative mantissa exponent =>
    let (num, den) := quotient mantissa exponent
    if num % den = 0 then some (if negative then -Int.ofNat (num / den) else Int.ofNat (num / den))
    else none
  | _ => none

def Exact.exceeds (n : Int) : Exact → Bool
  | .nan => false
  | .infinite negative => !negative
  | .finite negative mantissa exponent =>
    let (num, den) := quotient mantissa exponent
    n * den < (if negative then -Int.ofNat num else Int.ofNat num)

/-! ### Decimal text

The shortest text has the fewest digits that read back as the
same number, and among those the digits nearest to its value. It is positional while the decimal
point lies within sixteen places after the first digit and at most three zeros follow the point;
beyond that it has an exponent of at least two digits.
-/

def magnitude (num den : Nat) : Int :=
  if den ≤ num then Int.ofNat (Nat.toDigits 10 (num / den)).length
  else
    let places := (Nat.toDigits 10 (den / num)).length
    if den ≤ num * 10 ^ (places - 1) then 2 - Int.ofNat places else 1 - Int.ofNat places

/-- The numbers that round to one floating-point number: those between `low` and `high`, all over
`den`, where `ends` says whether the two ends belong to them. -/
structure Interval where
  low : Nat
  value : Nat
  high : Nat
  den : Nat
  ends : Bool

/-- The interval around a positive finite value. The gap below is half as wide at a power of two,
except at the smallest exponent. -/
def Interval.around (mantissa : Nat) (exponent : Int) : Interval :=
  let below := if mantissa = 2 ^ 52 && (-1074 : Int) < exponent then 1 else 2
  let (scale, den) := quotient 1 (exponent - 2)
  { low := (4 * mantissa - below) * scale
    value := 4 * mantissa * scale
    high := (4 * mantissa + 2) * scale
    den
    ends := mantissa % 2 = 0 }

/-- The point of the grid with `places` decimal places that lies in the interval nearest to its
value; a tie goes to the even point. Only the two points next to the value can be nearest. -/
def Interval.gridPoint? (i : Interval) (places : Int) : Option Nat :=
  let up := if places < 0 then 10 ^ places.natAbs else 1
  let down := if places < 0 then 1 else 10 ^ places.natAbs
  let lower := i.value * down / (i.den * up)
  let fits (point : Nat) : Bool :=
    let here := point * i.den * up
    if i.ends then i.low * down ≤ here && here ≤ i.high * down
    else i.low * down < here && here < i.high * down
  let gap (point : Nat) : Nat :=
    Int.natAbs (Int.ofNat (point * i.den * up) - Int.ofNat (i.value * down))
  if 0 < lower && fits lower then
    if fits (lower + 1) then
      if gap (lower + 1) < gap lower || (gap (lower + 1) = gap lower && lower % 2 = 1) then
        some (lower + 1)
      else some lower
    else some lower
  else if fits (lower + 1) then some (lower + 1)
  else none

def Interval.shortest (i : Interval) (places : Int) : Nat → Nat × Int
  | 0 => (0, places)
  | tries + 1 =>
    match i.gridPoint? places with
    | some point => (point, places)
    | none => i.shortest (places + 1) tries

/-- Decimal digits without zeros at the end, and the place of the decimal point after the first of
them: the value is `0.d₁d₂… · 10 ^ point`. -/
structure Digits where
  digits : List Char
  point : Int

def Digits.shortest (mantissa : Nat) (exponent : Int) : Digits :=
  let interval := Interval.around mantissa exponent
  let size := magnitude interval.value interval.den
  let (point, places) := interval.shortest (1 - size) 18
  let digits := Nat.toDigits 10 point
  let trimmed := (digits.reverse.dropWhile (· = '0')).reverse
  { digits := trimmed, point := Int.ofNat digits.length - places }

def exponentText (n : Int) : List Char :=
  let digits := Nat.toDigits 10 n.natAbs
  (if n < 0 then '-' else '+') :: (if digits.length < 2 then '0' :: digits else digits)

def Digits.text (d : Digits) : List Char :=
  let count := d.digits.length
  if d.point ≤ -4 || 16 < d.point then
    let tail := d.digits.drop 1
    d.digits.take 1 ++ (if tail.isEmpty then [] else '.' :: tail) ++ 'e' :: exponentText (d.point - 1)
  else if d.point ≤ 0 then
    '0' :: '.' :: List.replicate d.point.natAbs '0' ++ d.digits
  else if Int.ofNat count ≤ d.point then
    d.digits ++ List.replicate (d.point.natAbs - count) '0' ++ ['.', '0']
  else d.digits.take d.point.natAbs ++ '.' :: d.digits.drop d.point.natAbs

def Exact.text : Exact → String
  | .nan => "nan"
  | .infinite negative => if negative then "-inf" else "inf"
  | .finite negative mantissa exponent =>
    let body := if mantissa = 0 then ['0', '.', '0'] else (Digits.shortest mantissa exponent).text
    String.ofList (if negative then '-' :: body else body)

def floatText (x : Float) : String :=
  (Exact.ofFloat x).text

/-! ### Fixed places

With a fixed number of places the exact value is rounded to the nearest point of the
grid, a tie going to the even point.
-/

def roundDiv (num den : Nat) : Nat :=
  let lower := num / den
  let twice := 2 * (num % den)
  if twice < den || (twice = den && lower % 2 = 0) then lower else lower + 1

def placed (places n : Nat) : List Char :=
  let digits := Nat.toDigits 10 n
  let padded := List.replicate (places + 1 - digits.length) '0' ++ digits
  if places = 0 then padded
  else padded.take (padded.length - places) ++ '.' :: padded.drop (padded.length - places)

def Exact.fixed (places : Nat) : Exact → String
  | .nan => "nan"
  | .infinite negative => if negative then "-inf" else "inf"
  | .finite negative mantissa exponent =>
    let (num, den) := quotient mantissa exponent
    let body := placed places (roundDiv (num * 10 ^ places) den)
    String.ofList (if negative then '-' :: body else body)

/-! ### Numbers with an exponent -/

def leadingPower (num den : Nat) : Int :=
  let guess : Int := ((Nat.toDigits 10 num).length : Int) - (Nat.toDigits 10 den).length
  let reaches (power : Int) : Bool :=
    if 0 ≤ power then den * 10 ^ power.toNat ≤ num else den ≤ num * 10 ^ (-power).toNat
  if reaches guess then guess else guess - 1

/-- The digits of `num / den` with a number of places behind the first digit, and the power of ten of that
digit. -/
def firstDigits (places num den : Nat) : Nat × Int :=
  if num = 0 then (0, 0)
  else
    let power := leadingPower num den
    let shift : Int := places - power
    let digits := if 0 ≤ shift then roundDiv (num * 10 ^ shift.toNat) den
      else roundDiv num (den * 10 ^ (-shift).toNat)
    if digits = 10 ^ (places + 1) then (10 ^ places, power + 1) else (digits, power)

def powerText (power : Int) : List Char :=
  let digits := Nat.toDigits 10 power.natAbs
  'e' :: (if power < 0 then '-' else '+') :: (List.replicate (2 - digits.length) '0' ++ digits)

/-- An exact value with a number of places behind the first digit, and an exponent. -/
def Exact.scientific (places : Nat) : Exact → String
  | .nan => "nan"
  | .infinite negative => if negative then "-inf" else "inf"
  | .finite negative mantissa exponent =>
    let (num, den) := quotient mantissa exponent
    let (digits, power) := Decimal.firstDigits places num den
    let body := placed places digits ++ powerText power
    String.ofList (if negative then '-' :: body else body)

/-- Digits without the zeros at their end behind a point, and without the point if nothing is left behind
it. -/
def withoutZeros (text : List Char) : List Char :=
  if text.contains '.' then
    ((text.reverse.dropWhile (· = '0')).dropWhile (· = '.')).reverse
  else text

/-- An exact value with a number of digits, with an exponent where it is very small or has more digits in
front of the point; `keeps` says that zeros at the end stay. -/
def Exact.general (digits : Nat) (keeps : Bool) : Exact → String
  | .nan => "nan"
  | .infinite negative => if negative then "-inf" else "inf"
  | .finite negative mantissa exponent =>
    let (num, den) := quotient mantissa exponent
    let digits := max 1 digits
    let (value, power) := Decimal.firstDigits (digits - 1) num den
    let trim (text : List Char) : List Char := if keeps then text else withoutZeros text
    let body :=
      if -4 ≤ power && power < digits then
        let places := ((digits : Int) - 1 - power).toNat
        trim (placed places (roundDiv (num * 10 ^ places) den))
      else trim (placed (digits - 1) value) ++ powerText power
    String.ofList (if negative then '-' :: body else body)

def fixedText (places : Nat) (x : Float) : String :=
  (Exact.ofFloat x).fixed places

end Scalpel.Decimal
