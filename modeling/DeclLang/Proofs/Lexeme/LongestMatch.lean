import DeclLang.Proofs.Lexeme.Language
import Mathlib.Data.List.TakeWhile

/-!
# Lexemes are longest matches

The lexeme read at the head of a text is the longest piece there that any rule accepts, only one
rule accepts this piece, and it is the rule of the lexeme; a character is a lexeme without a rule
exactly when no rule accepts anything that starts with it (`DeclLang.Lexeme.wins_of_read`,
`DeclLang.Lexeme.noneStarts_of_read`). The two rules for strings start alike, but a string ends at a
quote where an unclosed string cannot, so they never accept the same piece.
-/

namespace DeclLang

open scoped Computability

namespace Rule

/-- A rule wins a text with a piece at its head: no rule accepts a longer piece there, and no other
rule accepts this one. -/
structure Wins (rule : Rule) (piece text : List Char) : Prop where
  atHead : piece <+: text
  nonempty : piece ≠ []
  accepted : piece ∈ rule.language
  longest : ∀ (other : Rule) (word : List Char), word <+: text → word ∈ other.language →
    word.length ≤ piece.length
  unrivalled : ∀ other : Rule, piece ∈ other.language → other = rule

/-- No rule accepts any piece at the head of a text. -/
def NoneStarts (text : List Char) : Prop :=
  ∀ (rule : Rule) (word : List Char), word ≠ [] → word <+: text → word ∉ rule.language

/-- A text is won by one rule with one piece. -/
theorem Wins.unique {rule rule' : Rule} {piece piece' text : List Char}
    (wins : rule.Wins piece text) (wins' : rule'.Wins piece' text) :
    piece' = piece ∧ rule' = rule := by
  have length : piece'.length = piece.length :=
    Nat.le_antisymm (wins.longest rule' piece' wins'.atHead wins'.accepted)
      (wins'.longest rule piece wins.atHead wins.accepted)
  have same : piece' = piece :=
    (List.prefix_of_prefix_length_le wins'.atHead wins.atHead length.le).eq_of_length length
  exact ⟨same, wins.unrivalled rule' (same ▸ wins'.accepted)⟩

/-- Where a rule wins, some rule starts. -/
theorem Wins.not_noneStarts {rule : Rule} {piece text : List Char} (wins : rule.Wins piece text) :
    ¬ NoneStarts text :=
  fun none => none rule piece wins.nonempty wins.atHead wins.accepted

/-- An accepted word at the front of a text shares its first character, which the rule starts with.
-/
theorem head_of_accepted {rule : Rule} {word rest : List Char} {first : Char}
    (accepted : word ∈ rule.language) (atHead : word <+: first :: rest) :
    ∃ others, word = first :: others ∧ others <+: rest ∧ rule.starts first = true := by
  obtain ⟨c, others, rfl, starts⟩ := starts_of_mem_language accepted
  obtain ⟨rfl, onward⟩ := List.cons_prefix_cons.mp atHead
  exact ⟨others, rfl, onward, starts⟩

/-- A run is won by its rule when no other rule starts like it. -/
theorem wins_run {rule : Rule} {start onward : Char → Bool}
    (run : rule.language = oneOf start * (oneOf onward)∗) {first : Char} (rest : List Char)
    (starts : start first = true)
    (only : ∀ other : Rule, other.starts first = true → other = rule) :
    rule.Wins (first :: rest.takeWhile onward) (first :: rest) where
  atHead := List.cons_prefix_cons.mpr ⟨rfl, List.takeWhile_prefix onward⟩
  nonempty := List.cons_ne_nil _ _
  accepted := by
    rw [run]
    exact mem_run.mpr ⟨first, _, rfl, starts, fun d member => List.mem_takeWhile_imp member⟩
  longest other word atHead accepted := by
    obtain ⟨others, rfl, ⟨after, rfl⟩, started⟩ := head_of_accepted accepted atHead
    obtain rfl := only other started
    rw [run] at accepted
    obtain ⟨_, _, same, -, passed⟩ := mem_run.mp accepted
    obtain ⟨rfl, rfl⟩ := List.cons.inj same
    rw [List.takeWhile_append_of_pos passed]
    simp only [List.length_cons, List.length_append]
    omega
  unrivalled other accepted := by
    obtain ⟨_, -, -, started⟩ := head_of_accepted accepted (List.prefix_refl _)
    exact only other started

end Rule

namespace Lexeme

/-- Reading on in a string passes over whole items and keeps them as read. -/
theorem readString_append_items {body : List Char} (items : body ∈ Rule.stringItem∗)
    (read cs : List Char) :
    readString read (body ++ cs) = readString (body.reverse ++ read) cs := by
  obtain ⟨pieces, rfl, accepted⟩ := Language.mem_kstar.mp items
  clear items
  induction pieces generalizing read with
  | nil => rfl
  | cons piece pieces ih =>
      obtain ⟨first, onward⟩ := List.forall_mem_cons.mp accepted
      rw [List.flatten_cons, List.append_assoc, List.reverse_append, List.append_assoc]
      rcases Rule.cases_of_mem_stringItem first with ⟨c, noQuote, noBackslash, rfl⟩ | ⟨c, rfl⟩
      · rw [List.singleton_append, readString]
        · exact ih (c :: read) onward
        · exact noQuote
        · exact fun _ _ backslash => absurd backslash noBackslash
      · exact ih (c :: '\\' :: read) onward

/-- How the rest of a string ends after some characters `read`, latest first: with items up to a
quote, or with items up to the end of the text but for a last backslash. -/
inductive StringEnds (read : List Char) : List Char → Rule × List Char × List Char → Prop
  | closed {body : List Char} (items : body ∈ Rule.stringItem∗) (after : List Char) :
      StringEnds read (body ++ '"' :: after) (.string, read.reverse ++ (body ++ ['"']), after)
  | unclosed {body ending : List Char} (items : body ∈ Rule.stringItem∗)
      (ended : ending = [] ∨ ending = ['\\']) :
      StringEnds read (body ++ ending) (.unclosedString, read.reverse ++ (body ++ ending), [])

/-- A string with one more item in front ends as it did without it. -/
theorem StringEnds.of_item {read cs item : List Char} {result : Rule × List Char × List Char}
    (first : item ∈ Rule.stringItem) (ends : StringEnds (item.reverse ++ read) cs result) :
    StringEnds read (item ++ cs) result := by
  cases ends with
  | closed items after =>
      simpa using @StringEnds.closed read _ (Rule.append_mem_stringItems first items) after
  | unclosed items ended =>
      simpa using @StringEnds.unclosed read _ _ (Rule.append_mem_stringItems first items) ended

/-- Reading on in a string stops at one of its ends, wherever it starts. -/
theorem stringEnds_readString (read cs : List Char) :
    StringEnds read cs (readString read cs) := by
  fun_induction readString read cs with
  | case1 read => simpa using @StringEnds.unclosed read _ _ (Language.nil_mem_kstar _) (Or.inl rfl)
  | case2 read rest => simpa using @StringEnds.closed read _ (Language.nil_mem_kstar _) rest
  | case3 read c rest ih => exact ih.of_item (Rule.escaped_mem_stringItem c)
  | case4 read c rest noQuote noEscape ih =>
      by_cases backslash : c = '\\'
      · subst backslash
        cases rest with
        | cons d rest => exact absurd rfl (noEscape d rest rfl)
        | nil =>
            rw [readString]
            simpa using @StringEnds.unclosed read _ _ (Language.nil_mem_kstar _) (Or.inr rfl)
      · exact ih.of_item (Rule.plain_mem_stringItem noQuote backslash)

/-- A string that is read up to its quote is longer than every unclosed string at its place. -/
theorem length_lt_of_closed {body ending : List Char} (after : List Char)
    (items : body ∈ Rule.stringItem∗) (ended : ending = [] ∨ ending = ['\\'])
    (closed : (readString [] (body ++ ending ++ after)).1 = .string) :
    (body ++ ending).length < (readString [] (body ++ ending ++ after)).2.1.length := by
  rw [List.append_assoc, readString_append_items items] at closed ⊢
  have ends := stringEnds_readString (body.reverse ++ []) (ending ++ after)
  generalize rest : ending ++ after = cs at ends closed ⊢
  generalize readString (body.reverse ++ []) cs = result at ends closed ⊢
  cases ends with
  | unclosed => cases closed
  | @closed more _ later =>
      simp only [List.append_nil, List.reverse_reverse, List.length_append, List.length_singleton]
      rcases ended with rfl | rfl
      · rw [List.length_nil]
        omega
      · -- A quote cannot be the backslash that the unclosed string ends with.
        have notEmpty : more ≠ [] := by
          rintro rfl
          cases rest
        have := List.length_pos_of_ne_nil notEmpty
        rw [List.length_singleton]
        omega

/-- The string read after a quote is as long as all that the rules for strings accept there, and
only its own rule accepts it. -/
theorem length_le_readString {word rest : List Char} {rule : Rule}
    (accepted : word ∈ rule.language) (atHead : word <+: '"' :: rest) :
    word.length ≤ ('"' :: (readString [] rest).2.1).length ∧
      (word = '"' :: (readString [] rest).2.1 → rule = (readString [] rest).1) := by
  obtain ⟨_, -, -, started⟩ := Rule.head_of_accepted accepted atHead
  rcases Rule.eq_string_of_starts started with rfl | rfl
  · obtain ⟨body, items, rfl⟩ := Rule.mem_language_string.mp accepted
    rw [List.cons_append] at atHead ⊢
    obtain ⟨after, rfl⟩ := (List.cons_prefix_cons.mp atHead).2
    have whole : readString [] (body ++ ['"'] ++ after) = (.string, body ++ ['"'], after) := by
      rw [List.append_assoc, readString_append_items items, List.singleton_append, readString,
        List.reverse_cons, List.append_nil, List.reverse_reverse]
    rw [whole]
    exact ⟨le_refl _, fun _ => rfl⟩
  · obtain ⟨body, items, spelled⟩ := Rule.mem_language_unclosedString.mp accepted
    obtain ⟨ending, ended, rfl⟩ :
        ∃ ending, (ending = [] ∨ ending = ['\\']) ∧ word = '"' :: (body ++ ending) := by
      rcases spelled with rfl | rfl
      · exact ⟨[], Or.inl rfl, by rw [List.append_nil]⟩
      · exact ⟨_, Or.inr rfl, rfl⟩
    obtain ⟨after, rfl⟩ := (List.cons_prefix_cons.mp atHead).2
    have shorter := length_lt_of_closed after items ended
    have within : (body ++ ending).length ≤ (body ++ ending ++ after).length :=
      (List.prefix_append _ after).length_le
    have ends := stringEnds_readString [] (body ++ ending ++ after)
    generalize body ++ ending ++ after = cs at ends shorter within ⊢
    generalize readString [] cs = result at ends shorter ⊢
    cases ends with
    | @closed items _ after =>
        have strict := shorter rfl
        refine ⟨Nat.succ_le_succ strict.le, fun same => ?_⟩
        rw [(List.cons.inj same).2] at strict
        exact absurd strict (Nat.lt_irrefl _)
    | unclosed => exact ⟨Nat.succ_le_succ within, fun _ => rfl⟩

/-- What is read from a quote on, closed or not, is the longest match there. -/
theorem wins_readString (rest : List Char) :
    (readString [] rest).1.Wins ('"' :: (readString [] rest).2.1) ('"' :: rest) where
  atHead := by
    rw [List.cons_prefix_cons]
    exact ⟨rfl, _, readString_append [] rest⟩
  nonempty := List.cons_ne_nil _ _
  accepted := by
    have ends := stringEnds_readString [] rest
    generalize readString [] rest = result at ends ⊢
    cases ends with
    | closed items after => exact Rule.mem_language_string.mpr ⟨_, items, rfl⟩
    | unclosed items ended =>
        rcases ended with rfl | rfl
        · exact Rule.mem_language_unclosedString.mpr
            ⟨_, items, Or.inl (congrArg _ (List.append_nil _))⟩
        · exact Rule.mem_language_unclosedString.mpr ⟨_, items, Or.inr rfl⟩
  longest rule word atHead accepted := (length_le_readString accepted atHead).1
  unrivalled rule accepted :=
    (length_le_readString accepted
      (List.cons_prefix_cons.mpr ⟨rfl, _, readString_append [] rest⟩)).2 rfl

/-- The rule of names as a run of the characters that the dispatcher asks for. -/
theorem language_name :
    Rule.name.language = Rule.oneOf startsName * (Rule.oneOf continuesName)∗ := by
  have continues : continuesName = fun c => Text.isLetter c || c.isDigit || c == '_' := by
    funext c
    rw [continuesName, startsName, Bool.or_right_comm]
  rw [continues]
  rfl

/-- A sign with an equals sign behind it wins as a comparison, which is longer than the lone
operator. -/
private theorem wins_comparison {first : Char} (rest : List Char)
    (compares : startsComparison first = true) :
    Rule.comparison.Wins [first, '='] (first :: '=' :: rest) where
  atHead := List.prefix_append [first, '='] rest
  nonempty := List.cons_ne_nil _ _
  accepted := Rule.mem_language_comparison.mpr ⟨first, compares, rfl⟩
  longest rule word atHead accepted := by
    obtain ⟨_, -, -, started⟩ := Rule.head_of_accepted accepted atHead
    rcases Rule.eq_operator_of_starts (isSign_of_startsComparison compares) started with rfl | rfl
    · obtain ⟨c, -, rfl⟩ := Rule.mem_language_comparison.mp accepted
      exact le_refl 2
    · obtain ⟨c, -, rfl⟩ := Rule.mem_language_loneOperator.mp accepted
      exact Nat.le_succ 1
  unrivalled rule accepted := by
    obtain ⟨_, -, -, started⟩ := Rule.head_of_accepted accepted (List.prefix_refl _)
    rcases Rule.eq_operator_of_starts (isSign_of_startsComparison compares) started with rfl | rfl
    · rfl
    · obtain ⟨c, -, spelled⟩ := Rule.mem_language_loneOperator.mp accepted
      cases spelled

/-- A sign that no equals sign makes a comparison wins alone. -/
private theorem wins_loneOperator {first : Char} {rest : List Char}
    (noComparison : ¬ (startsComparison first && rest.head? == some '=') = true)
    (sign : isSign first = true) :
    Rule.loneOperator.Wins [first] (first :: rest) where
  atHead := List.prefix_append [first] rest
  nonempty := List.cons_ne_nil _ _
  accepted := Rule.mem_language_loneOperator.mpr ⟨first, sign, rfl⟩
  longest rule word atHead accepted := by
    obtain ⟨_, -, -, started⟩ := Rule.head_of_accepted accepted atHead
    rcases Rule.eq_operator_of_starts sign started with rfl | rfl
    · obtain ⟨c, compares, rfl⟩ := Rule.mem_language_comparison.mp accepted
      obtain ⟨rfl, after, rfl⟩ := List.cons_prefix_cons.mp atHead
      exact absurd (by simp [compares]) noComparison
    · obtain ⟨c, -, rfl⟩ := Rule.mem_language_loneOperator.mp accepted
      exact le_refl 1
  unrivalled rule accepted := by
    obtain ⟨_, -, -, started⟩ := Rule.head_of_accepted accepted (List.prefix_refl _)
    rcases Rule.eq_operator_of_starts sign started with rfl | rfl
    · obtain ⟨c, -, spelled⟩ := Rule.mem_language_comparison.mp accepted
      cases spelled
    · rfl

/-- The lexeme read at the head of a text is won by its rule, and a character is read as a lexeme
without a rule only when no rule accepts anything there. -/
theorem wins_or_noneStarts (first : Char) (rest : List Char) :
    (∃ rule : Rule, (read first rest).1.rule = some rule ∧
      rule.Wins (read first rest).1.chars (first :: rest)) ∨
    ((read first rest).1 = ⟨none, first, []⟩ ∧ Rule.NoneStarts (first :: rest)) := by
  -- The dispatcher asks for the first character only, since it decides between all rules but those
  -- for strings and those for operators.
  unfold read
  split
  next blank =>
    exact Or.inl ⟨.blank, rfl, Rule.wins_run rfl rest blank fun _ => Rule.eq_blank_of_starts blank⟩
  next notBlank =>
  split
  next named =>
    exact Or.inl ⟨.name, rfl,
      Rule.wins_run language_name rest named fun _ => Rule.eq_name_of_starts named⟩
  next notNamed =>
  split
  next digit =>
    exact Or.inl ⟨.number, rfl,
      Rule.wins_run rfl rest digit fun _ => Rule.eq_number_of_starts digit⟩
  next notDigit =>
  split
  next quote =>
    subst quote
    exact Or.inl ⟨_, rfl, wins_readString rest⟩
  next notQuote =>
  split
  next compared =>
    obtain ⟨compares, followed⟩ := (Bool.and_eq_true _ _).mp compared
    obtain ⟨tail, rfl⟩ := List.head?_eq_some_iff.mp (eq_of_beq followed)
    exact Or.inl ⟨.comparison, rfl, wins_comparison tail compares⟩
  next notCompared =>
  split
  next sign => exact Or.inl ⟨.loneOperator, rfl, wins_loneOperator notCompared sign⟩
  next notSign =>
    refine Or.inr ⟨rfl, fun rule word _ atHead accepted => ?_⟩
    obtain ⟨_, -, -, started⟩ := Rule.head_of_accepted accepted atHead
    cases rule with
    | blank => exact notBlank started
    | name => exact notNamed started
    | number => exact notDigit started
    | string => exact notQuote (eq_of_beq started)
    | unclosedString => exact notQuote (eq_of_beq started)
    | comparison => exact notSign (isSign_of_startsComparison started)
    | loneOperator => exact notSign started

/-- Reading at a text returns the rule that wins there, with the characters it wins. -/
theorem read_of_wins {rule : Rule} {cs rest : List Char} {first : Char}
    (wins : rule.Wins cs (first :: rest)) :
    (read first rest).1.rule = some rule ∧ (read first rest).1.chars = cs := by
  rcases wins_or_noneStarts first rest with ⟨rule', isRule, wins'⟩ | ⟨-, noRule⟩
  · obtain ⟨same, rfl⟩ := wins.unique wins'
    exact ⟨isRule, same⟩
  · exact absurd noRule wins.not_noneStarts

/-- Where no rule starts, reading takes a single character without a rule. -/
theorem read_of_noneStarts {first : Char} {rest : List Char}
    (noRule : Rule.NoneStarts (first :: rest)) : (read first rest).1 = ⟨none, first, []⟩ := by
  rcases wins_or_noneStarts first rest with ⟨rule, -, wins⟩ | ⟨alone, -⟩
  · exact absurd noRule wins.not_noneStarts
  · exact alone

end Lexeme

end DeclLang
