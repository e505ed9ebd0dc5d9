import DeclLang.Number.Decimal

/-!
# Binary floating point numbers

The finite numbers of the 64-bit binary format: a sign and `significand · 2 ^ exponent`, where the
significand has at most 53 bits and the exponent is at least -1074. Every nonzero number has one
form in which either the significand has exactly 53 bits or the exponent is -1074; that form fixes
the 64 bits. A decimal is rounded to the nearest of these numbers, a tie to the even significand,
and has no such number when it would round past the greatest one.
-/

namespace DeclLang

/-- A finite number of the 64-bit binary format. -/
structure Binary64 where
  negative : Bool
  significand : Nat
  exponent : Int
  deriving DecidableEq

namespace Binary64

/-- The exponent of the numbers nearest to zero. -/
def leastExponent : Int := -1074

/-- The exponent of the greatest numbers. -/
def greatestExponent : Int := 971

/-- The least significand that uses all 53 bits. -/
def fullSignificand : Nat := Nat.pow 2 52

/-- The zero of a sign. -/
def zero (negative : Bool) : Binary64 :=
  ⟨negative, 0, leastExponent⟩

/-- The 64 bits of a number, as a natural number. -/
def bits (x : Binary64) : Nat :=
  let sign := if x.negative then Nat.pow 2 63 else 0
  if x.significand < fullSignificand then sign + x.significand
  else
    sign + (x.exponent - leastExponent + 1).toNat * Nat.pow 2 52 + (x.significand - fullSignificand)

/-- The whole number nearest to `num / den`, a tie to the even one. -/
def roundToEven (num den : Nat) : Nat :=
  let low := num / den
  let twice := 2 * (num % den)
  if twice < den then low
  else if den < twice then low + 1
  else if low % 2 = 0 then low
  else low + 1

/-- The fraction `num / den` divided by a power of two. -/
def scaleDown (num den : Nat) (exponent : Int) : Nat × Nat :=
  match exponent with
  | .ofNat n => (num, den * Nat.pow 2 n)
  | .negSucc n => (num * Nat.pow 2 (n + 1), den)

/-- The exponent at which the fraction `num / den`, which is not zero, fills the significand; at
least the least exponent. -/
def fittingExponent (num den : Nat) : Int :=
  let guess := max ((num.log2 : Int) - (den.log2 : Int) - 53) leastExponent
  let scaled := scaleDown num den guess
  if scaled.1 / scaled.2 < 2 * fullSignificand then guess else guess + 1

/-- The number nearest to the fraction `num / den`, which is not zero; `none` past the greatest
number. -/
def ofFraction? (negative : Bool) (num den : Nat) : Option Binary64 :=
  let exponent := fittingExponent num den
  let scaled := scaleDown num den exponent
  let rounded := roundToEven scaled.1 scaled.2
  let x : Binary64 :=
    if rounded < 2 * fullSignificand then ⟨negative, rounded, exponent⟩
    else ⟨negative, fullSignificand, exponent + 1⟩
  if x.exponent ≤ greatestExponent then some x else none

/-- The number nearest to a decimal; `none` past the greatest number. Decimals of more than 310
digits before the point are past it, and those below ten to the power -324 round to zero. -/
def ofDecimal? (d : Decimal) : Option Binary64 :=
  let magnitude := (decimalLength d.digits : Int) + d.power
  if d.digits = 0 ∨ magnitude < -324 then some (zero d.negative)
  else if 310 < magnitude then none
  else
    match d.power with
    | .ofNat n => ofFraction? d.negative (d.digits * Nat.pow 10 n) 1
    | .negSucc n => ofFraction? d.negative d.digits (Nat.pow 10 (n + 1))

end Binary64

/-! ## Shortest decimal text

A floating point number is written with the fewest decimal digits that read back as the number.
Of the decimals of that length that do, the nearest is taken, and of two equally near ones the
greater. The decimals that read back are those between the midpoints to the two neighbours; the
midpoints count when the significand is even, since ties go to even.

Powers of ten from -4 to 15 are written with a point and at least one digit after it, all others
with an exponent mark. -/

namespace Binary64

/-- A power of two as a fraction. -/
def powerOfTwo : Int → Nat × Nat
  | .ofNat n => (Nat.pow 2 n, 1)
  | .negSucc n => (1, Nat.pow 2 (n + 1))

/-- The stretch of the magnitudes that read back as a number, in a unit of `1 / den`. -/
structure Neighbourhood where
  low : Nat
  middle : Nat
  high : Nat
  den : Nat
  closed : Bool

/-- The magnitudes that read back as a nonzero number. Below a full significand the neighbour is
half as far away. -/
def neighbourhood (x : Binary64) : Neighbourhood :=
  let unit := powerOfTwo x.exponent
  let below :=
    if x.significand = fullSignificand ∧ leastExponent < x.exponent then 1 else 2
  ⟨(4 * x.significand - below) * unit.1, 4 * x.significand * unit.1,
    (4 * x.significand + 2) * unit.1, 4 * unit.2, x.significand % 2 == 0⟩

namespace Neighbourhood

/-- Whether a fraction lies in a neighbourhood. -/
def holds (range : Neighbourhood) (num den : Nat) : Bool :=
  let value := num * range.den
  if range.closed then decide (range.low * den ≤ value) && decide (value ≤ range.high * den)
  else decide (range.low * den < value) && decide (value < range.high * den)

/-- The power of ten of the first digit of the middle. -/
def leadingPower (range : Neighbourhood) : Int :=
  if range.den ≤ range.middle then (decimalLength (range.middle / range.den) : Int) - 1
  else -(decimalLength ((range.den - 1) / range.middle) : Int)

/-- The decimal of some length that reads back, if there is one: the multiple of a power of ten
just below the middle or the one just above it, whichever is nearer, the upper on a tie. -/
def decimal? (range : Neighbourhood) (length : Nat) : Option (Nat × Int) :=
  let power := range.leadingPower - (length : Int) + 1
  let unit : Nat × Nat :=
    match power with
    | .ofNat n => (Nat.pow 10 n, 1)
    | .negSucc n => (1, Nat.pow 10 (n + 1))
  let num := range.middle * unit.2
  let den := range.den * unit.1
  let lower := num / den
  let reads (multiple : Nat) : Bool := range.holds (multiple * unit.1) unit.2
  let upperIsNearer := decide (den ≤ 2 * (num % den))
  if reads (lower + 1) && (upperIsNearer || !reads lower) then some (lower + 1, power)
  else if reads lower then some (lower, power)
  else none

/-- The shortest decimal that reads back, of the lengths from `length` on; seventeen digits always
suffice. -/
def shortestFrom (range : Neighbourhood) : Nat → Nat → Nat × Int
  | 0, length => (range.decimal? length).getD (0, 0)
  | tries + 1, length => (range.decimal? length).getD (shortestFrom range tries (length + 1))

end Neighbourhood

/-- The digits of the shortest decimal that reads back as a nonzero number, without zeros at the
end, and the power of ten of the first one. -/
def shortestDigits (x : Binary64) : List Char × Int :=
  let shortest := x.neighbourhood.shortestFrom 16 1
  let written := Nat.toDigits 10 shortest.1
  ((written.reverse.dropWhile (· == '0')).reverse, shortest.2 + written.length - 1)

/-- Digits with a point after the one at power zero, and at least one digit on either side. -/
def positional (digits : List Char) (power : Int) : List Char :=
  match power with
  | .ofNat n =>
      let whole := digits.take (n + 1)
      let fraction := digits.drop (n + 1)
      whole ++ List.replicate (n + 1 - whole.length) '0' ++ '.' ::
        (if fraction.isEmpty then ['0'] else fraction)
  | .negSucc n => '0' :: '.' :: List.replicate n '0' ++ digits

/-- Digits with a point after the first one, if there are others, and the power after a mark. -/
def exponential (digits : List Char) (power : Int) : List Char :=
  digits.take 1 ++ (if digits.length ≤ 1 then [] else '.' :: digits.drop 1) ++
    'e' :: (toString power).toList

/-- The text of a number. -/
def text (x : Binary64) : String :=
  let sign := if x.negative then ['-'] else []
  if x.significand = 0 then String.ofList (sign ++ ['0', '.', '0'])
  else
    let shortest := x.shortestDigits
    let magnitude :=
      if -4 ≤ shortest.2 ∧ shortest.2 < 16 then positional shortest.1 shortest.2
      else exponential shortest.1 shortest.2
    String.ofList (sign ++ magnitude)

end Binary64

end DeclLang
