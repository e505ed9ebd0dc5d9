import DeclLang.Text.CharacterClass

/-!
# Lexemes

A text is cut into lexemes, each the longest piece at its place that one of the rules accepts:

* white space: a run of blanks;
* a name: a letter or an underscore, then letters, ASCII digits and underscores;
* a number: a run of ASCII digits;
* a string: a quote, then characters or escaped characters, then a quote;
* an unclosed string: the same without its last quote, which then runs to the end of the text;
* a comparison: one of the signs for equality, difference and the two orders, always two characters;
* a lone operator: one sign character that is no comparison.

A character that starts none of these is a lexeme of its own without a rule. A backslash escapes
whatever character follows it.
-/

namespace DeclLang

/-- The rules of lexemes. -/
inductive Rule
  | blank
  | name
  | number
  | string
  | unclosedString
  | comparison
  | loneOperator
  deriving DecidableEq

/-- A piece of text that starts with `first`, with the rule that accepts it, if any does. -/
structure Lexeme where
  rule : Option Rule
  first : Char
  others : List Char
  deriving DecidableEq

namespace Lexeme

/-- The characters of a lexeme. -/
def chars (lexeme : Lexeme) : List Char :=
  lexeme.first :: lexeme.others

/-- Whether a character starts a name. -/
def startsName (c : Char) : Bool :=
  Text.isLetter c || c == '_'

/-- Whether a character continues a name. -/
def continuesName (c : Char) : Bool :=
  startsName c || c.isDigit

/-- Whether a character followed by an equals sign is a comparison. -/
def startsComparison (c : Char) : Bool :=
  c == '=' || c == '!' || c == '<' || c == '>'

/-- Whether a character alone is an operator sign. -/
def isSign (c : Char) : Bool :=
  startsComparison c || c == '+' || c == '-' || c == '*' || c == '/'

/-- The rest of a string after its opening quote, given the characters read of it, latest first:
the rule, the characters after the quote and the text after the string. -/
def readString (read : List Char) : List Char → Rule × List Char × List Char
  | [] => (.unclosedString, read.reverse, [])
  | '"' :: rest => (.string, ('"' :: read).reverse, rest)
  | '\\' :: c :: rest => readString (c :: '\\' :: read) rest
  | c :: rest => readString (c :: read) rest

/-- The lexeme at the head of a text and the text after it. -/
def read (first : Char) (rest : List Char) : Lexeme × List Char :=
  if Text.isBlank first then
    (⟨some .blank, first, rest.takeWhile Text.isBlank⟩, rest.dropWhile Text.isBlank)
  else if startsName first then
    (⟨some .name, first, rest.takeWhile continuesName⟩, rest.dropWhile continuesName)
  else if first.isDigit then
    (⟨some .number, first, rest.takeWhile Char.isDigit⟩, rest.dropWhile Char.isDigit)
  else if first = '"' then
    match readString [] rest with
    | (rule, others, after) => (⟨some rule, first, others⟩, after)
  else if startsComparison first && rest.head? == some '=' then
    (⟨some .comparison, first, ['=']⟩, rest.tail)
  else if isSign first then
    (⟨some .loneOperator, first, []⟩, rest)
  else
    (⟨none, first, []⟩, rest)

/-- Reading the rest of a string loses no character. -/
theorem readString_append (read cs : List Char) :
    (readString read cs).2.1 ++ (readString read cs).2.2 = read.reverse ++ cs := by
  fun_induction readString read cs with
  | case1 => rfl
  | case2 => simp
  | case3 read c rest ih => rw [ih]; simp
  | case4 read c rest _ _ ih => rw [ih]; simp

/-- A lexeme starts with the character that it is read at. -/
theorem first_read (first : Char) (rest : List Char) : (read first rest).1.first = first := by
  unfold read
  split
  · rfl
  split
  · rfl
  split
  · rfl
  split
  · rfl
  split
  · rfl
  split <;> rfl

/-- Reading a lexeme loses no character after its first one. -/
theorem others_read_append (first : Char) (rest : List Char) :
    (read first rest).1.others ++ (read first rest).2 = rest := by
  unfold read
  split
  · exact List.takeWhile_append_dropWhile
  split
  · exact List.takeWhile_append_dropWhile
  split
  · exact List.takeWhile_append_dropWhile
  split
  · exact readString_append [] rest
  split
  · rename_i compared
    cases rest with
    | nil => simp at compared
    | cons c tail =>
        have sign : c = '=' := by simp at compared; exact compared.2
        rw [sign]
        rfl
  split <;> rfl

/-- The characters of a lexeme and the text after it are the text that it is read from. -/
theorem chars_read_append (first : Char) (rest : List Char) :
    (read first rest).1.chars ++ (read first rest).2 = first :: rest := by
  rw [chars, first_read, List.cons_append, others_read_append]

/-- The text after a lexeme is no longer than the text after its first character. -/
theorem length_read_le (first : Char) (rest : List Char) :
    (read first rest).2.length ≤ rest.length := by
  have whole := congrArg List.length (others_read_append first rest)
  rw [List.length_append] at whole
  omega

end Lexeme

end DeclLang
