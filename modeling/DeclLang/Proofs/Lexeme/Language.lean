import DeclLang.Lexeme
import Mathlib.Computability.Language

/-!
# The languages of the lexeme rules

Every rule is a regular language over characters, written here with the operations on languages
alone. Apart from the two rules that start with a quote and the two that start with a sign, no two
rules start with the same character (`DeclLang.Rule.starts`).
-/

namespace DeclLang

open scoped Computability

namespace Lexeme

/-- A comparison starts with a sign, so the rule of lone operators could start there too. -/
theorem isSign_of_startsComparison {c : Char} (compares : startsComparison c = true) :
    isSign c = true := by
  simp [isSign, compares]

/-- The signs listed in the rule of lone operators are the characters that the dispatcher calls
signs. -/
theorem contains_signs (c : Char) :
    ['+', '-', '*', '/', '=', '<', '>', '!'].contains c = isSign c := by
  simp only [isSign, startsComparison, List.contains_cons, List.contains_nil, Bool.or_false]
  ac_rfl

end Lexeme

namespace Rule

/-- The words of one character among some. -/
def oneOf (among : Char → Bool) : Language Char :=
  {word | ∃ c, among c = true ∧ word = [c]}

/-- What stands between the quotes of a string: a character other than a quote and a backslash, or
a backslash with any character. -/
def stringItem : Language Char :=
  oneOf (fun c => c != '"' && c != '\\') + {['\\']} * oneOf fun _ => true

/-- The words that a rule accepts. -/
def language : Rule → Language Char
  | .blank => oneOf Text.isBlank * (oneOf Text.isBlank)∗
  | .name =>
      oneOf (fun c => Text.isLetter c || c == '_') *
        (oneOf fun c => Text.isLetter c || c.isDigit || c == '_')∗
  | .number => oneOf Char.isDigit * (oneOf Char.isDigit)∗
  | .string => {['"']} * stringItem∗ * {['"']}
  | .unclosedString => {['"']} * stringItem∗ * (1 + {['\\']})
  | .comparison => {['=', '='], ['!', '='], ['<', '='], ['>', '=']}
  | .loneOperator => oneOf (['+', '-', '*', '/', '=', '<', '>', '!'].contains ·)

theorem mem_oneOf {among : Char → Bool} {word : List Char} :
    word ∈ oneOf among ↔ ∃ c, among c = true ∧ word = [c] :=
  Iff.rfl

/-- Repeating a one-character rule accepts the words all of whose characters it accepts. -/
theorem mem_oneOf_kstar {among : Char → Bool} {word : List Char} :
    word ∈ (oneOf among)∗ ↔ ∀ c ∈ word, among c = true := by
  rw [Language.mem_kstar]
  constructor
  · rintro ⟨pieces, rfl, accepted⟩ c member
    obtain ⟨piece, isPiece, inPiece⟩ := List.mem_flatten.mp member
    obtain ⟨d, accepts, rfl⟩ := accepted piece isPiece
    obtain rfl := List.mem_singleton.mp inPiece
    exact accepts
  · intro accepted
    refine ⟨word.map ([·]), ?_, ?_⟩
    · rw [← List.flatMap_def, List.flatMap_singleton']
    · intro piece isPiece
      obtain ⟨c, member, rfl⟩ := List.mem_map.mp isPiece
      exact ⟨c, accepted c member, rfl⟩

/-- The shape of the three rules of runs: a starting character, then any number of characters that
go on. -/
theorem mem_run {start onward : Char → Bool} {word : List Char} :
    word ∈ oneOf start * (oneOf onward)∗ ↔
      ∃ c others, word = c :: others ∧ start c = true ∧ ∀ d ∈ others, onward d = true := by
  rw [Language.mem_mul]
  constructor
  · rintro ⟨_, ⟨c, starts, rfl⟩, others, run, rfl⟩
    exact ⟨c, others, rfl, starts, mem_oneOf_kstar.mp run⟩
  · rintro ⟨c, others, rfl, starts, run⟩
    exact ⟨[c], ⟨c, starts, rfl⟩, others, mem_oneOf_kstar.mpr run, rfl⟩

/-- A character that is neither a quote nor a backslash is an item of a string by itself. -/
theorem plain_mem_stringItem {c : Char} (noQuote : c ≠ '"') (noBackslash : c ≠ '\\') :
    [c] ∈ stringItem :=
  Or.inl ⟨c, by simp [noQuote, noBackslash], rfl⟩

/-- A backslash escapes every character, a quote and another backslash included. -/
theorem escaped_mem_stringItem (c : Char) : ['\\', c] ∈ stringItem :=
  Or.inr ⟨['\\'], rfl, [c], ⟨c, rfl, rfl⟩, rfl⟩

/-- The only items of a string are one plain character and one escaped character. -/
theorem cases_of_mem_stringItem {item : List Char} (member : item ∈ stringItem) :
    (∃ c, c ≠ '"' ∧ c ≠ '\\' ∧ item = [c]) ∨ ∃ c, item = ['\\', c] := by
  rcases member with ⟨c, plain, rfl⟩ | ⟨_, rfl, _, ⟨c, -, rfl⟩, rfl⟩
  · simp only [Bool.and_eq_true, bne_iff_ne] at plain
    exact Or.inl ⟨c, plain.1, plain.2, rfl⟩
  · exact Or.inr ⟨c, rfl⟩

/-- Items of a string are read from the left: an item before items are items again. -/
theorem append_mem_stringItems {item body : List Char} (first : item ∈ stringItem)
    (onward : body ∈ stringItem∗) : item ++ body ∈ stringItem∗ := by
  obtain ⟨items, rfl, accepted⟩ := Language.mem_kstar.mp onward
  exact Language.mem_kstar.mpr ⟨item :: items, rfl, List.forall_mem_cons.mpr ⟨first, accepted⟩⟩

/-- The rule of strings accepts a quote, items, and a quote. -/
theorem mem_language_string {word : List Char} :
    word ∈ language .string ↔ ∃ body ∈ stringItem∗, word = '"' :: body ++ ['"'] := by
  constructor
  · rintro ⟨_, ⟨_, rfl, body, items, rfl⟩, _, rfl, rfl⟩
    exact ⟨body, items, rfl⟩
  · rintro ⟨body, items, rfl⟩
    exact ⟨'"' :: body, ⟨['"'], rfl, body, items, rfl⟩, ['"'], rfl, rfl⟩

/-- The rule of unclosed strings accepts a quote and items, with or without a backslash that escapes
nothing at the end. -/
theorem mem_language_unclosedString {word : List Char} :
    word ∈ language .unclosedString ↔
      ∃ body ∈ stringItem∗, word = '"' :: body ∨ word = '"' :: body ++ ['\\'] := by
  constructor
  · rintro ⟨_, ⟨_, rfl, body, items, rfl⟩, _, rfl | rfl, rfl⟩
    · exact ⟨body, items, Or.inl (List.append_nil _)⟩
    · exact ⟨body, items, Or.inr rfl⟩
  · rintro ⟨body, items, rfl | rfl⟩
    · exact ⟨'"' :: body, ⟨['"'], rfl, body, items, rfl⟩, [], Or.inl rfl, List.append_nil _⟩
    · exact ⟨'"' :: body, ⟨['"'], rfl, body, items, rfl⟩, ['\\'], Or.inr rfl, rfl⟩

/-- The comparisons are the two-character words that end in an equals sign. -/
theorem mem_language_comparison {word : List Char} :
    word ∈ language .comparison ↔ ∃ c, Lexeme.startsComparison c = true ∧ word = [c, '='] := by
  constructor
  · rintro (rfl | rfl | rfl | rfl) <;> exact ⟨_, rfl, rfl⟩
  · rintro ⟨c, starts, rfl⟩
    simp only [Lexeme.startsComparison, Bool.or_eq_true, beq_iff_eq] at starts
    rcases starts with ((rfl | rfl) | rfl) | rfl
    · exact Or.inl rfl
    · exact Or.inr (Or.inl rfl)
    · exact Or.inr (Or.inr (Or.inl rfl))
    · exact Or.inr (Or.inr (Or.inr rfl))

/-- The rule of lone operators accepts exactly the one-character words of signs. -/
theorem mem_language_loneOperator {word : List Char} :
    word ∈ language .loneOperator ↔ ∃ c, Lexeme.isSign c = true ∧ word = [c] := by
  simp only [language, mem_oneOf, Lexeme.contains_signs]

/-- Whether a rule accepts words that start with a character. -/
def starts : Rule → Char → Bool
  | .blank, c => Text.isBlank c
  | .name, c => Lexeme.startsName c
  | .number, c => c.isDigit
  | .string, c => c == '"'
  | .unclosedString, c => c == '"'
  | .comparison, c => Lexeme.startsComparison c
  | .loneOperator, c => Lexeme.isSign c

/-- No rule accepts the empty word, and what a rule accepts starts with one of its starting
characters. -/
theorem starts_of_mem_language {rule : Rule} {word : List Char} (accepted : word ∈ rule.language) :
    ∃ c others, word = c :: others ∧ rule.starts c = true := by
  cases rule with
  | blank =>
      obtain ⟨c, others, rfl, first, -⟩ := mem_run.mp accepted
      exact ⟨c, others, rfl, first⟩
  | name =>
      obtain ⟨c, others, rfl, first, -⟩ := mem_run.mp accepted
      exact ⟨c, others, rfl, first⟩
  | number =>
      obtain ⟨c, others, rfl, first, -⟩ := mem_run.mp accepted
      exact ⟨c, others, rfl, first⟩
  | string =>
      obtain ⟨body, -, rfl⟩ := mem_language_string.mp accepted
      exact ⟨'"', _, rfl, rfl⟩
  | unclosedString =>
      obtain ⟨body, -, rfl | rfl⟩ := mem_language_unclosedString.mp accepted
      · exact ⟨'"', _, rfl, rfl⟩
      · exact ⟨'"', _, rfl, rfl⟩
  | comparison =>
      obtain ⟨c, first, rfl⟩ := mem_language_comparison.mp accepted
      exact ⟨c, _, rfl, first⟩
  | loneOperator =>
      obtain ⟨c, first, rfl⟩ := mem_language_loneOperator.mp accepted
      exact ⟨c, _, rfl, first⟩

/-- The white space characters, one by one. -/
private def blankPoints : List Nat :=
  Text.blankIntervals.flatMap fun range => List.range' range.first (range.last + 1 - range.first)

/-- The listed white space characters are all there are. -/
private theorem toNat_mem_blankPoints {c : Char} (blank : Text.isBlank c = true) :
    c.toNat ∈ blankPoints := by
  obtain ⟨range, member, low, high⟩ := Text.Interval.exists_mem_of_covers blank
  refine List.mem_flatMap.mpr ⟨range, member, ?_⟩
  rw [List.mem_range'_1]
  omega

/-- The digits of the number rule are the ten ASCII ones. -/
theorem toNat_mem_of_isDigit {c : Char} (digit : c.isDigit = true) :
    c.toNat ∈ List.range' 48 10 := by
  simp only [Char.isDigit, Bool.and_eq_true, decide_eq_true_eq, ge_iff_le,
    UInt32.le_iff_toNat_le] at digit
  rw [List.mem_range'_1]
  exact ⟨digit.1, Nat.lt_succ_of_le digit.2⟩

/-- What holds at each listed code point holds of every character whose code point is listed. -/
theorem eq_true_of_toNat_mem (holds : Char → Bool) {points : List Nat}
    (all : ∀ point ∈ points, holds (Char.ofNat point) = true) {c : Char}
    (member : c.toNat ∈ points) : holds c = true := by
  have known := all c.toNat member
  rwa [Char.ofNat_toNat] at known

/-- White space starts only the rule of blanks. -/
theorem eq_blank_of_starts {c : Char} (blank : Text.isBlank c = true) {rule : Rule}
    (starts : rule.starts c = true) : rule = .blank := by
  have others : (!Lexeme.startsName c && !c.isDigit && c != '"' && !Lexeme.isSign c) = true :=
    eq_true_of_toNat_mem
      (fun c => !Lexeme.startsName c && !c.isDigit && c != '"' && !Lexeme.isSign c)
      (by decide +kernel) (toNat_mem_blankPoints blank)
  cases rule <;> simp_all [Rule.starts, Lexeme.isSign]

/-- A digit starts only the rule of numbers. -/
theorem eq_number_of_starts {c : Char} (digit : c.isDigit = true) {rule : Rule}
    (starts : rule.starts c = true) : rule = .number := by
  have others : (!Text.isBlank c && !Lexeme.startsName c && c != '"' && !Lexeme.isSign c) = true :=
    eq_true_of_toNat_mem
      (fun c => !Text.isBlank c && !Lexeme.startsName c && c != '"' && !Lexeme.isSign c)
      (by decide +kernel) (toNat_mem_of_isDigit digit)
  cases rule <;> simp_all [Rule.starts, Lexeme.isSign]

/-- A quote starts the two rules of strings, closed and unclosed, and no other. -/
theorem eq_string_of_starts {rule : Rule} (starts : rule.starts '"' = true) :
    rule = .string ∨ rule = .unclosedString := by
  cases rule <;> revert starts <;> decide +kernel

/-- A sign starts the rules of comparisons and of lone operators, and no other. -/
theorem eq_operator_of_starts {c : Char} (sign : Lexeme.isSign c = true) {rule : Rule}
    (starts : rule.starts c = true) : rule = .comparison ∨ rule = .loneOperator := by
  have all : ['+', '-', '*', '/', '=', '<', '>', '!'].all (fun c =>
      !Text.isBlank c && !Lexeme.startsName c && !c.isDigit && c != '"') = true := by
    decide +kernel
  rw [← Lexeme.contains_signs] at sign
  have others := List.all_eq_true.mp all c (List.contains_iff_mem.mp sign)
  cases rule <;> simp_all [Rule.starts]

/-- A letter or an underscore starts only the rule of names: all other rules are told apart above.
-/
theorem eq_name_of_starts {c : Char} (named : Lexeme.startsName c = true) {rule : Rule}
    (starts : rule.starts c = true) : rule = .name := by
  have started : Rule.name.starts c = true := named
  cases rule with
  | blank => cases eq_blank_of_starts starts started
  | name => rfl
  | number => cases eq_number_of_starts starts started
  | string =>
      obtain rfl := eq_of_beq starts
      rcases eq_string_of_starts started with impossible | impossible <;> cases impossible
  | unclosedString =>
      obtain rfl := eq_of_beq starts
      rcases eq_string_of_starts started with impossible | impossible <;> cases impossible
  | comparison =>
      have sign := Lexeme.isSign_of_startsComparison starts
      rcases eq_operator_of_starts sign started with impossible | impossible <;> cases impossible
  | loneOperator =>
      rcases eq_operator_of_starts starts started with impossible | impossible <;> cases impossible

end Rule

end DeclLang
