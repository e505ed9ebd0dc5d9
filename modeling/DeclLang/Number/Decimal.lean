/-!
# Decimal digits and texts of decimals

Numbers are read from digit characters in some base, most significant first, and their decimal
length is counted. A decimal is a whole number of digits scaled by a power of ten, with a sign.

The text of a floating point number is an optional sign, digits with at most one point among them,
of which at least one digit, and optionally the letter e with a power of ten: an optional sign and
at least one digit. Nothing else is a text of a finite number.
-/

namespace DeclLang

/-- The value of a digit character; letters count on from ten. -/
def digitValue? (c : Char) : Option Nat :=
  if '0' ≤ c ∧ c ≤ '9' then some (c.toNat - '0'.toNat)
  else if 'a' ≤ c ∧ c ≤ 'z' then some (c.toNat - 'a'.toNat + 10)
  else none

/-- Whether a character is a digit of a base. -/
def isDigitOf (base : Nat) (c : Char) : Bool :=
  (digitValue? c).any fun value => decide (value < base)

/-- The number that digit characters write in a base; a character that is no digit counts as
zero. -/
def digitsValue (base : Nat) (cs : List Char) : Nat :=
  cs.foldl (fun value c => value * base + (digitValue? c).getD 0) 0

/-- How many digits a number has in base ten; zero has one. -/
def decimalLength (n : Nat) : Nat :=
  (Nat.toDigits 10 n).length

/-- The number `digits · 10 ^ power`, negated if so marked. -/
structure Decimal where
  negative : Bool
  digits : Nat
  power : Int
  deriving DecidableEq

namespace FloatText

/-- Whether a leading sign is a minus, and the text after the sign. -/
def readSign : List Char → Bool × List Char
  | '-' :: rest => (true, rest)
  | '+' :: rest => (false, rest)
  | cs => (false, cs)

/-- A power of ten is read digit by digit until it is this large; the digits after that are passed
over. -/
def powerCeiling : Nat := 0x10000

/-- The number that the digits of a power write, read up to the ceiling. -/
def powerValue (cs : List Char) : Nat :=
  cs.foldl
    (fun value c =>
      if value < powerCeiling then value * 10 + (digitValue? c).getD 0 else value) 0

/-- The power of ten after the digits: zero when the text ends there. -/
def readPower? : List Char → Option Int
  | [] => some 0
  | 'e' :: rest =>
      match readSign rest with
      | (negative, digits) =>
          if digits.isEmpty || !digits.all Char.isDigit then none
          else some (if negative then -(powerValue digits : Int) else powerValue digits)
  | _ => none

/-- The fraction digits after a point and the text after them; no digits without a point. -/
def readFraction : List Char → List Char × List Char
  | '.' :: rest => (rest.takeWhile Char.isDigit, rest.dropWhile Char.isDigit)
  | cs => ([], cs)

/-- The decimal that a text writes, if it is the text of a finite number. -/
def read? (cs : List Char) : Option Decimal :=
  let (negative, unsigned) := readSign cs
  let whole := unsigned.takeWhile Char.isDigit
  let (fraction, after) := readFraction (unsigned.dropWhile Char.isDigit)
  if whole.isEmpty && fraction.isEmpty then none
  else
    (readPower? after).map fun power =>
      ⟨negative, digitsValue 10 (whole ++ fraction), power - (fraction.length : Int)⟩

end FloatText

end DeclLang
