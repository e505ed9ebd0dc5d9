import DeclLang.Number.Binary64
import DeclLang.Number.Decimal
import DeclLang.Text.LowerCase

/-!
# Number literals

The value of a number literal is a whole number of any size or a floating point number. A suffix
letter marks the width that a floating literal asks for; the value itself always has 64 bits.
-/

namespace DeclLang

/-- The width that a floating literal asks for. -/
inductive FloatSize
  | unmarked
  | single
  | double
  deriving DecidableEq

namespace FloatSize

/-- The width that a suffix letter marks. -/
def ofSuffix? : Char → Option FloatSize
  | 'f' => some .single
  | 'd' => some .double
  | _ => none

/-- The name of a width in listings. -/
def text : FloatSize → String
  | .unmarked => "Unsized"
  | .single => "F32"
  | .double => "F64"

end FloatSize

/-- The value of a number literal. -/
inductive Numeral
  | integer (value : Nat)
  | float (value : Binary64) (size : FloatSize)
  deriving DecidableEq

namespace Numeral

/-- The whole number of a literal that is not floating. -/
def integer? : Numeral → Option Nat
  | .integer n => some n
  | .float _ _ => none

/-- Whether a literal is floating. -/
def isFloat : Numeral → Bool
  | .integer _ => false
  | .float _ _ => true

/-- A value in one line, as traces show it. -/
def text : Numeral → String
  | .integer n => "Int(" ++ toString n ++ ")"
  | .float x size => "Float \x7b value: " ++ x.text ++ ", size: " ++ size.text ++ " \x7d"

end Numeral

/-- Why a text is no number literal. -/
inductive NumberError
  | empty
  | invalidDigits (digits : String) (base : Nat)
  | invalidExponent (exponent : String)
  | exponentTooLarge (exponent : Int)
  | multipleExponents
  | multiplePeriods
  | invalidFloat (text : String)
  deriving DecidableEq

namespace NumberError

/-- The error in one line. -/
def message : NumberError → String
  | .empty => "no digits"
  | .invalidDigits digits base =>
      "`" ++ digits ++ "` is not a valid base " ++ toString base ++ " number"
  | .invalidExponent exponent => "`" ++ exponent ++ "` is not a valid exponent"
  | .exponentTooLarge exponent => "exponent " ++ toString exponent ++ " is too large"
  | .multipleExponents => "more than one exponent marker"
  | .multiplePeriods => "floating point numbers can not have more than one period"
  | .invalidFloat text => "`" ++ text ++ "` is not a valid floating point number"

end NumberError

/-! ## Reading number literals

Underscores are dropped and letters made small before anything else. A leading `0x`, `0o` or `0b`
chooses base 16, 8 or 2. In base ten, a period anywhere or a width suffix at the end makes the
literal floating; otherwise a letter `e` announces a power of ten, by which the whole number is
multiplied, or divided with the remainder dropped. -/

namespace Numeral

/-- The greatest power of ten that a whole number is multiplied by. -/
def greatestPower : Int := 4096

/-- A literal without underscores and in small letters. -/
def normalized (text : String) : List Char :=
  (text.toList.filter (· != '_')).flatMap Text.lowerCase

/-- The base that a literal's first two characters choose, and its digits. -/
def splitBase : List Char → Nat × List Char
  | '0' :: 'x' :: digits => (16, digits)
  | '0' :: 'o' :: digits => (8, digits)
  | '0' :: 'b' :: digits => (2, digits)
  | digits => (10, digits)

/-- The width that the last character marks, if it is a suffix. -/
def suffix? (digits : List Char) : Option FloatSize :=
  digits.getLast?.bind FloatSize.ofSuffix?

/-- Whether the digits of a base ten literal are floating. -/
def looksFloating (digits : List Char) : Bool :=
  digits.contains '.' || (suffix? digits).isSome

/-- The digits of a floating literal without its suffix, and the width. -/
def splitSuffix (digits : List Char) : List Char × FloatSize :=
  match suffix? digits with
  | some size => (digits.dropLast, size)
  | none => (digits, .unmarked)

/-- Reads the digits of a floating literal. -/
def readFloat (digits : List Char) : Except NumberError Numeral :=
  if 1 < digits.count '.' then .error .multiplePeriods
  else
    match splitSuffix digits with
    | (unmarked, size) =>
        if unmarked.isEmpty then .error .empty
        else
          match (FloatText.read? unmarked).bind Binary64.ofDecimal? with
          | some value => .ok (.float value size)
          | none => .error (.invalidFloat (String.ofList unmarked))

/-- The power of ten that a text writes: an optional sign and at least one digit, within the range
of 64-bit signed integers. -/
def readExponent? (text : List Char) : Option Int :=
  match FloatText.readSign text with
  | (negative, digits) =>
      if digits.isEmpty || !digits.all Char.isDigit then none
      else
        let magnitude := digitsValue 10 digits
        if negative then if magnitude ≤ Nat.pow 2 63 then some (-(magnitude : Int)) else none
        else if magnitude < Nat.pow 2 63 then some magnitude else none

/-- A power of ten. Its exponent is held in 32 bits, so of a greater one only the low bits count. -/
def powerOfTen (exponent : Nat) : Nat :=
  Nat.pow 10 exponent.toUInt32.toNat

/-- A whole number times a power of ten. A negative power divides and drops the remainder; when it
is at least as large as the number is long, nothing is left. -/
def scale (value : Nat) (exponent : Int) : Nat :=
  match exponent with
  | .ofNat n => value * powerOfTen n
  | .negSucc n => if decimalLength value ≤ n + 1 then 0 else value / powerOfTen (n + 1)

/-- Reads digits of a base. -/
def readDigits (base : Nat) (digits : List Char) : Except NumberError Nat :=
  if digits.isEmpty then .error .empty
  else if digits.all (isDigitOf base) then .ok (digitsValue base digits)
  else .error (.invalidDigits (String.ofList digits) base)

/-- Reads the text of an exponent and scales a whole number by it. -/
def readScaled (value : Nat) (text : List Char) : Except NumberError Nat :=
  match readExponent? text with
  | none => .error (.invalidExponent (String.ofList text))
  | some exponent =>
      if greatestPower < exponent then .error (.exponentTooLarge exponent)
      else .ok (scale value exponent)

/-- Reads the digits of a base ten whole number, with an exponent if there is a letter `e`. -/
def readDecimal (digits : List Char) : Except NumberError Nat :=
  let mantissa := digits.takeWhile (· != 'e')
  match digits.dropWhile (· != 'e') with
  | [] => readDigits 10 mantissa
  | _ :: exponent =>
      if exponent.contains 'e' then .error .multipleExponents
      else
        match readDigits 10 mantissa with
        | .error e => .error e
        | .ok value => readScaled value exponent

/-- Reads the text of a number literal. -/
def read (text : String) : Except NumberError Numeral :=
  match splitBase (normalized text) with
  | (10, digits) =>
      if looksFloating digits then readFloat digits else (readDecimal digits).map .integer
  | (base, digits) => (readDigits base digits).map .integer

end Numeral

end DeclLang
