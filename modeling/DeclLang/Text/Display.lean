import DeclLang.Text.CharacterClass

/-!
# Text on display

How text is set out for a reader: in columns of a least width, in the colours of a terminal, and
between quotes with what has no shape of its own written by its code point.
-/

namespace DeclLang

namespace Text

/-! ## Columns

Text is set into a column of a least width, counted in characters, by adding spaces. Longer text
keeps its length. -/

/-- A run of spaces. -/
def spaces (count : Nat) : String :=
  String.ofList (List.replicate count ' ')

/-- Sets text at the right end of its column. -/
def alignRight (width : Nat) (s : String) : String :=
  spaces (width - s.length) ++ s

/-- Sets text at the left end of its column. -/
def alignLeft (width : Nat) (s : String) : String :=
  s ++ spaces (width - s.length)

/-- Sets text in the middle of its column; an odd space goes to the right. -/
def alignCentre (width : Nat) (s : String) : String :=
  spaces ((width - s.length) / 2) ++ s ++ spaces ((width - s.length + 1) / 2)

/-- The first characters of a text, at most `count` of them. -/
def clipped (count : Nat) (s : String) : String :=
  String.ofList (s.toList.take count)

/-! ## Colours

Terminals switch colours by control sequences. Painted text opens with the sequence of its ink and
closes with a reset. A reset inside the text would end the colour early, so the ink is set again
after each one. With colours off, painted text is the text itself. -/

/-- The inks of token listings and of emphasis in messages. -/
inductive Ink
  | cyan
  | purple
  | green
  | yellow
  | underlinedRed
  deriving DecidableEq

namespace Ink

/-- The parameters of the control sequence that selects an ink. -/
def parameters : Ink → List Char
  | .cyan => ['3', '6']
  | .purple => ['3', '5']
  | .green => ['3', '2']
  | .yellow => ['3', '3']
  | .underlinedRed => ['4', ';', '3', '1']

/-- The control sequence that selects an ink. -/
def select (ink : Ink) : List Char :=
  '\x1b' :: '[' :: ink.parameters ++ ['m']

/-- The control sequence that returns to plain text. -/
def reset : List Char :=
  ['\x1b', '[', '0', 'm']

/-- Selects an ink again after each reset inside a text. -/
def resume (ink : Ink) : List Char → List Char
  | '\x1b' :: '[' :: '0' :: 'm' :: rest => reset ++ ink.select ++ resume ink rest
  | c :: rest => c :: resume ink rest
  | [] => []

/-- Text in an ink when `coloured`, and plain otherwise. -/
def paint (ink : Ink) (coloured : Bool) (s : String) : String :=
  if coloured then String.ofList (ink.select ++ resume ink s.toList ++ reset) else s

end Ink

/-! ## Quotes

Messages show a single character between single quotes and a string between double quotes. Inside,
a backslash announces NUL, tab, carriage return, line feed, a backslash and the enclosing quote
mark; a grapheme extender or an unprintable character is written by its code point in hexadecimal;
every other character stands for itself. -/

/-- The lower-case hexadecimal digits of a number, without padding. -/
def hexDigits (n : Nat) : List Char :=
  Nat.toDigits 16 n

/-- How a character is written between two `mark` characters. -/
def escaped (mark c : Char) : List Char :=
  if c = '\x00' then ['\\', '0']
  else if c = '\t' then ['\\', 't']
  else if c = '\r' then ['\\', 'r']
  else if c = '\n' then ['\\', 'n']
  else if c = '\\' || c = mark then ['\\', c]
  else if isExtender c || !isPrintable c then
    ['\\', 'u', '\x7b'] ++ hexDigits c.toNat ++ ['\x7d']
  else [c]

/-- A character between single quotes. -/
def quotedChar (c : Char) : String :=
  String.ofList ('\'' :: escaped '\'' c ++ ['\''])

/-- A string between double quotes. -/
def quotedString (s : String) : String :=
  String.ofList ('"' :: s.toList.flatMap (escaped '"') ++ ['"'])

end Text

end DeclLang
