import DeclLang.Proofs.Lexeme.LongestMatch

/-!
# Lexemes at a seam

A text can be cut after a lexeme, or anywhere later, and the lexeme is read as before: a longest
match stays the longest when less follows it (`DeclLang.Lexeme.read_of_append`). The other way round
a lexeme is read as before when a text that starts with white space is put behind, unless it is
white space itself, which runs on, or a string that is not closed (`DeclLang.Lexeme.read_append`).
-/

namespace DeclLang

namespace Rule

variable {rule : Rule} {piece text front : List Char}

/-- A rule still wins after the text behind its match is cut off. -/
theorem Wins.of_prefix (wins : rule.Wins piece text) (within : piece <+: front)
    (shorter : front <+: text) : rule.Wins piece front where
  atHead := within
  nonempty := wins.nonempty
  accepted := wins.accepted
  longest other word atHead accepted := wins.longest other word (atHead.trans shorter) accepted
  unrivalled := wins.unrivalled

/-- A rule that starts in the front part of a text starts in the whole of it. -/
theorem NoneStarts.of_prefix (none : NoneStarts text) (shorter : front <+: text) :
    NoneStarts front :=
  fun rule word filled atHead => none rule word filled (atHead.trans shorter)

end Rule

namespace Lexeme

variable {lexeme : Lexeme} {c : Char} {rest after : List Char}

/-- A lexeme and what is left behind it spell the text it was read from. -/
theorem others_append_of_read (read : Lexeme.read c rest = (lexeme, after)) :
    lexeme.first = c ∧ lexeme.others ++ after = rest := by
  have first := first_read c rest
  have others := others_read_append c rest
  rw [read] at first others
  exact ⟨first, others⟩

/-- A lexeme is told by its rule and its characters. -/
theorem eq_of_rule_of_chars {lexeme' : Lexeme} (rules : lexeme.rule = lexeme'.rule)
    (spelled : lexeme.chars = lexeme'.chars) : lexeme = lexeme' := by
  obtain ⟨rule, first, others⟩ := lexeme
  obtain ⟨rule', first', others'⟩ := lexeme'
  obtain ⟨rfl, rfl⟩ := List.cons.inj spelled
  obtain rfl : rule = rule' := rules
  rfl

/-- A lexeme with some of the text after it is read like all of the text. -/
theorem read_of_append {front back : List Char}
    (read : Lexeme.read c rest = (lexeme, front ++ back)) :
    Lexeme.read c (lexeme.others ++ front) = (lexeme, front) := by
  obtain ⟨rfl, rfl⟩ := others_append_of_read read
  have shorter : lexeme.first :: (lexeme.others ++ front) <+:
      lexeme.first :: (lexeme.others ++ (front ++ back)) := by
    rw [← List.append_assoc]
    exact List.prefix_append (lexeme.first :: (lexeme.others ++ front)) back
  have same : (Lexeme.read lexeme.first (lexeme.others ++ front)).1 = lexeme := by
    rcases wins_or_noneStarts lexeme.first (lexeme.others ++ (front ++ back)) with
      ⟨rule, isRule, wins⟩ | ⟨alone, noRule⟩
    · rw [read] at isRule wins
      have within : lexeme.chars <+: lexeme.first :: (lexeme.others ++ front) :=
        List.prefix_append lexeme.chars front
      obtain ⟨isRule', spelled⟩ := read_of_wins (wins.of_prefix within shorter)
      exact eq_of_rule_of_chars (isRule'.trans isRule.symm) spelled
    · rw [read] at alone
      rw [read_of_noneStarts (noRule.of_prefix shorter)]
      exact alone.symm
  have others := others_read_append lexeme.first (lexeme.others ++ front)
  rw [same] at others
  exact Prod.ext same (List.append_cancel_left others)

/-- No white space character is a digit, so a blank ends a number. -/
theorem isDigit_eq_false_of_isBlank (blank : Text.isBlank c = true) : c.isDigit = false := by
  by_contra digit
  rw [Bool.not_eq_false] at digit
  have same : Rule.number = .blank := Rule.eq_blank_of_starts blank digit
  cases same

/-- No white space character continues a name, so a blank ends one. -/
theorem continuesName_eq_false_of_isBlank (blank : Text.isBlank c = true) :
    continuesName c = false := by
  rw [continuesName, isDigit_eq_false_of_isBlank blank, Bool.or_false]
  by_contra named
  rw [Bool.not_eq_false] at named
  have same : Rule.name = .blank := Rule.eq_blank_of_starts blank named
  cases same

/-- A run ends where characters follow that start with none of its own. -/
theorem run_append {onward : Char → Bool} {tail : List Char}
    (stops : ∀ d ∈ tail.head?, onward d = false) (cs : List Char) :
    (cs ++ tail).takeWhile onward = cs.takeWhile onward ∧
      (cs ++ tail).dropWhile onward = cs.dropWhile onward ++ tail := by
  induction cs with
  | nil =>
      cases tail with
      | nil => exact ⟨rfl, rfl⟩
      | cons d tail =>
          have stop := stops d rfl
          simp [stop]
  | cons c cs ih =>
      rw [List.cons_append, List.takeWhile_cons, List.dropWhile_cons, List.takeWhile_cons,
        List.dropWhile_cons]
      by_cases passed : onward c = true
      · rw [if_pos passed, if_pos passed, if_pos passed, if_pos passed]
        exact ⟨congrArg (c :: ·) ih.1, ih.2⟩
      · rw [if_neg passed, if_neg passed, if_neg passed, if_neg passed]
        exact ⟨rfl, rfl⟩

/-- A run is taken whole where it does not go on. -/
theorem run_through {onward : Char → Bool} {run tail : List Char}
    (continues : ∀ c ∈ run, onward c = true) (stops : ∀ d ∈ tail.head?, onward d = false) :
    (run ++ tail).takeWhile onward = run ∧ (run ++ tail).dropWhile onward = tail := by
  obtain ⟨taken, dropped⟩ := run_append stops run
  rw [List.takeWhile_eq_self_iff.mpr continues] at taken
  rw [List.dropWhile_eq_nil_iff.mpr continues, List.nil_append] at dropped
  exact ⟨taken, dropped⟩

/-- A string that is closed ends at the same quote whatever follows. -/
theorem readString_append_of_closed {cs : List Char}
    (closed : (readString [] cs).1 ≠ .unclosedString) (tail : List Char) :
    readString [] (cs ++ tail) =
      ((readString [] cs).1, (readString [] cs).2.1, (readString [] cs).2.2 ++ tail) := by
  have ends := stringEnds_readString [] cs
  generalize readString [] cs = result at ends closed ⊢
  cases ends with
  | @closed body items after =>
      rw [List.append_assoc, List.cons_append, readString_append_items items, readString]
      simp
  | unclosed => exact absurd rfl closed

/-- White space is no equals sign. -/
theorem head?_append_eq_equals {tail : List Char}
    (blank : ∀ d ∈ tail.head?, Text.isBlank d = true) (cs : List Char) :
    ((cs ++ tail).head? == some '=') = (cs.head? == some '=') := by
  cases cs with
  | cons d cs => rfl
  | nil =>
      rw [List.nil_append, List.head?_nil, beq_eq_false_iff_ne.mpr (Option.some_ne_none _).symm,
        beq_eq_false_iff_ne]
      intro equals
      cases blank '=' equals

/-- From a white space character on, a lexeme takes all the white space there is. -/
theorem read_of_isBlank (blank : Text.isBlank c = true) (rest : List Char) :
    Lexeme.read c rest =
      (⟨some .blank, c, rest.takeWhile Text.isBlank⟩, rest.dropWhile Text.isBlank) := by
  rw [Lexeme.read, if_pos blank]

/-- A name is read whole before white space. -/
theorem read_name {others tail : List Char} (accepted : c :: others ∈ Rule.name.language)
    (blank : ∀ d ∈ tail.head?, Text.isBlank d = true) :
    Lexeme.read c (others ++ tail) = (⟨some .name, c, others⟩, tail) := by
  rw [language_name] at accepted
  obtain ⟨_, _, spelled, named, continues⟩ := Rule.mem_run.mp accepted
  obtain ⟨rfl, rfl⟩ := List.cons.inj spelled
  have inked : ¬ Text.isBlank c = true := by
    intro isBlank
    have same : Rule.name = .blank := Rule.eq_blank_of_starts isBlank named
    cases same
  obtain ⟨taken, dropped⟩ := run_through continues
    (fun d first => continuesName_eq_false_of_isBlank (blank d first))
  rw [Lexeme.read, if_neg inked, if_pos named, taken, dropped]

/-- A lexeme is read as before when white space is put behind the text. -/
theorem read_append {tail : List Char} (read : Lexeme.read c rest = (lexeme, after))
    (inked : lexeme.rule ≠ some .blank) (closed : lexeme.rule ≠ some .unclosedString)
    (blank : ∀ d ∈ tail.head?, Text.isBlank d = true) :
    Lexeme.read c (rest ++ tail) = (lexeme, after ++ tail) := by
  unfold Lexeme.read at read ⊢
  split at read
  next isBlank =>
    obtain ⟨rfl, -⟩ := Prod.mk.inj read
    exact absurd rfl inked
  next notBlank =>
  -- No other rule goes on with white space, but for a string that is not closed.
  rw [if_neg notBlank]
  split at read
  next named =>
    obtain ⟨taken, dropped⟩ := run_append
      (fun d first => continuesName_eq_false_of_isBlank (blank d first)) rest
    obtain ⟨rfl, rfl⟩ := Prod.mk.inj read
    rw [if_pos named, taken, dropped]
  next notNamed =>
  rw [if_neg notNamed]
  split at read
  next digit =>
    obtain ⟨taken, dropped⟩ := run_append
      (fun d first => isDigit_eq_false_of_isBlank (blank d first)) rest
    obtain ⟨rfl, rfl⟩ := Prod.mk.inj read
    rw [if_pos digit, taken, dropped]
  next notDigit =>
  rw [if_neg notDigit]
  split at read
  next quote =>
    obtain ⟨rfl, rfl⟩ := Prod.mk.inj read
    have ended : (readString [] rest).1 ≠ .unclosedString :=
      fun unclosed => closed (congrArg some unclosed)
    rw [if_pos quote, readString_append_of_closed ended]
  next notQuote =>
  rw [if_neg notQuote, head?_append_eq_equals blank]
  split at read
  next compared =>
    obtain ⟨rfl, rfl⟩ := Prod.mk.inj read
    obtain ⟨-, followed⟩ := (Bool.and_eq_true _ _).mp compared
    obtain ⟨others, rfl⟩ := List.head?_eq_some_iff.mp (eq_of_beq followed)
    rw [if_pos compared]
    rfl
  next notCompared =>
  rw [if_neg notCompared]
  split at read
  next sign =>
    obtain ⟨rfl, rfl⟩ := Prod.mk.inj read
    rw [if_pos sign]
  next notSign =>
    obtain ⟨rfl, rfl⟩ := Prod.mk.inj read
    rw [if_neg notSign]

end Lexeme

end DeclLang
