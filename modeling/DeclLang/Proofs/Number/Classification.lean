import DeclLang.Proofs.Number.Exponents

/-!
# What every literal is

In small letters and without underscores, every literal is a whole number, a floating one or refused
for one reason, and which of these it is can be told from its text
(`DeclLang.Numeral.read_classifies`). The mark of a base decides first; then a period or a suffix
does; the letter `e` counts only in what is left. Which texts are finite numbers is left to the
parser of floating numbers.
-/

namespace DeclLang

/-- What is wrong with a text that should be digits of a base. -/
inductive Base.Refuses (base : Base) : List Char → NumberError → Prop
  | empty : base.Refuses [] .empty
  | foreign {cs : List Char} {c : Char} (present : c ∈ cs) (foreign : c ∉ base.digits) :
      base.Refuses cs (.invalidDigits (String.ofList cs) base.radix)

/-- A text is digits of a base, or one thing is wrong with it. -/
theorem Base.accepts_or_refuses (base : Base) (cs : List Char) :
    base.Accepts cs ∨ ∃ error, base.Refuses cs error := by
  by_cases inBase : ∀ c ∈ cs, c ∈ base.digits
  · by_cases empty : cs = []
    · subst empty
      exact Or.inr ⟨_, .empty⟩
    · exact Or.inl ⟨empty, inBase⟩
  · push Not at inBase
    obtain ⟨c, present, foreign⟩ := inBase
    exact Or.inr ⟨_, .foreign present foreign⟩

/-- The finite number of 64 bits that a text is parsed as. -/
def Binary64.ofText? (cs : List Char) : Option Binary64 :=
  (FloatText.read? cs).bind ofDecimal?

namespace Numeral

/-- A literal, what is left of it without its suffix, and the width that the suffix marks. -/
inductive Suffixed : List Char → List Char → FloatSize → Prop
  | single (body : List Char) : Suffixed (body ++ ['f']) body .single
  | double (body : List Char) : Suffixed (body ++ ['d']) body .double
  | unmarked {body : List Char} (notSingle : body.getLast? ≠ some 'f')
      (notDouble : body.getLast? ≠ some 'd') : Suffixed body body .unmarked

/-- A literal without the mark of a base, with a period or a suffix. -/
structure Floating (cs body : List Char) (size : FloatSize) : Prop where
  unmarked : Unmarked cs
  suffixed : Suffixed cs body size
  announced : '.' ∈ cs ∨ size ≠ .unmarked

/-- The literals of whole numbers: digits of a base after its mark, and digits of base ten scaled by
a power of ten. -/
inductive Whole : List Char → Nat → Prop
  | digits {base : Base} {cs : List Char} (accepted : base.Accepts cs) :
      Whole (base.mark ++ cs) (base.value cs)
  | scaled {mantissa exponent : List Char} {power : Int}
      (accepted : Base.decimal.Accepts mantissa) (int64 : WritesInt64 exponent power)
      (small : power ≤ 4096) :
      Whole (mantissa ++ 'e' :: exponent) (scale (Base.decimal.value mantissa) power)

/-- The literals of floating numbers. -/
inductive Floats (cs : List Char) (x : Binary64) (size : FloatSize) : Prop
  | finite {body : List Char} (floating : Floating cs body size) (single : cs.count '.' ≤ 1)
      (parsed : Binary64.ofText? body = some x) : Floats cs x size

/-- The literals that are refused, and why. What stands further down is looked for only when nothing
above it is wrong. -/
inductive Refused : List Char → NumberError → Prop
  | marked {base : Base} {cs : List Char} {error : NumberError} (marked : base ≠ .decimal)
      (refused : base.Refuses cs error) : Refused (base.mark ++ cs) error
  | periods {cs body : List Char} {size : FloatSize} (floating : Floating cs body size)
      (several : 1 < cs.count '.') : Refused cs .multiplePeriods
  | suffix {cs : List Char} {size : FloatSize} (floating : Floating cs [] size)
      (single : cs.count '.' ≤ 1) : Refused cs .empty
  | notFinite {cs body : List Char} {size : FloatSize} (floating : Floating cs body size)
      (single : cs.count '.' ≤ 1) (filled : body ≠ []) (unparsed : Binary64.ofText? body = none) :
      Refused cs (.invalidFloat (String.ofList body))
  | exponents {cs : List Char} (integral : Integral cs) (several : 1 < cs.count 'e') :
      Refused cs .multipleExponents
  | digits {cs : List Char} {error : NumberError} (integral : Integral cs) (bare : 'e' ∉ cs)
      (refused : Base.decimal.Refuses cs error) : Refused cs error
  | mantissa {mantissa exponent : List Char} {error : NumberError}
      (integral : Integral (mantissa ++ 'e' :: exponent)) (first : 'e' ∉ mantissa)
      (last : 'e' ∉ exponent) (refused : Base.decimal.Refuses mantissa error) :
      Refused (mantissa ++ 'e' :: exponent) error
  | exponent {mantissa exponent : List Char} (integral : Integral (mantissa ++ 'e' :: exponent))
      (accepted : Base.decimal.Accepts mantissa) (last : 'e' ∉ exponent)
      (unwritten : ∀ power, ¬ WritesInt64 exponent power) :
      Refused (mantissa ++ 'e' :: exponent) (.invalidExponent (String.ofList exponent))
  | power {mantissa exponent : List Char} {power : Int} (accepted : Base.decimal.Accepts mantissa)
      (int64 : WritesInt64 exponent power) (large : 4096 < power) :
      Refused (mantissa ++ 'e' :: exponent) (.exponentTooLarge power)

/-- What the literal in small letters says that an outcome is. -/
def Classified (cs : List Char) : Except NumberError Numeral → Prop
  | .ok (.integer value) => Whole cs value
  | .ok (.float x size) => Floats cs x size
  | .error error => Refused cs error

variable {cs body mantissa exponent : List Char} {size : FloatSize} {text : String}
  {error : NumberError}

/-- Every literal has a suffix or none, so that its body and its width are told. -/
theorem suffixed_exists (cs : List Char) : ∃ body size, Suffixed cs body size := by
  by_cases single : cs.getLast? = some 'f'
  · obtain ⟨body, rfl⟩ := List.getLast?_eq_some_iff.mp single
    exact ⟨body, .single, .single body⟩
  · by_cases double : cs.getLast? = some 'd'
    · obtain ⟨body, rfl⟩ := List.getLast?_eq_some_iff.mp double
      exact ⟨body, .double, .double body⟩
    · exact ⟨cs, .unmarked, .unmarked single double⟩

/-- Splitting a literal gives the body and the width that its suffix marks. -/
theorem splitSuffix_of_suffixed (suffixed : Suffixed cs body size) :
    splitSuffix cs = (body, size) := by
  rw [splitSuffix]
  cases suffixed with
  | single => simp [suffix?, FloatSize.ofSuffix?]
  | double => simp [suffix?, FloatSize.ofSuffix?]
  | unmarked notSingle notDouble =>
      have noSuffix : suffix? cs = none := by
        rw [← Option.not_isSome_iff_eq_none, suffix?_isSome_iff]
        exact not_or.mpr ⟨notSingle, notDouble⟩
      rw [noSuffix]

/-- A suffix makes a literal floating by the width that it marks. -/
theorem looksFloating_iff_of_suffixed (suffixed : Suffixed cs body size) :
    looksFloating cs = true ↔ '.' ∈ cs ∨ size ≠ .unmarked := by
  rw [looksFloating_iff]
  refine or_congr_right ?_
  cases suffixed with
  | single => simp
  | double => simp
  | unmarked notSingle notDouble => simp [notSingle, notDouble]

/-- A floating literal is left to the reader of floating numbers. -/
theorem read_of_floating (floating : Floating cs body size) (normal : normalized text = cs) :
    read text = readFloat cs := by
  rw [read_of_unmarked normal floating.unmarked,
    if_pos ((looksFloating_iff_of_suffixed floating.suffixed).mpr floating.announced)]

/-- With at most one period and something in front of the suffix, only the parser of floating
numbers decides. -/
theorem readFloat_of_single (floating : Floating cs body size) (single : cs.count '.' ≤ 1)
    (filled : body ≠ []) :
    readFloat cs =
      match Binary64.ofText? body with
      | some x => .ok (.float x size)
      | none => .error (.invalidFloat (String.ofList body)) := by
  rw [readFloat, if_neg (Nat.not_lt.mpr single), splitSuffix_of_suffixed floating.suffixed]
  simp only [List.isEmpty_iff, if_neg filled]
  rfl

/-- What is wrong with digits is the error that reading them gives. -/
theorem readDigits_of_refused {base : Base} (refused : base.Refuses cs error) :
    readDigits base.radix cs = .error error := by
  cases refused with
  | empty => rfl
  | foreign present foreign =>
      have notAll : ¬ cs.all (isDigitOf base.radix) = true := fun all =>
        foreign ((base.isDigitOf_iff _).mp (List.all_eq_true.mp all _ present))
      have filled : ¬ cs.isEmpty = true := by
        rw [List.isEmpty_iff]
        exact List.ne_nil_of_mem present
      rw [readDigits, if_neg filled, if_neg notAll]

/-- The letters `e` of a literal are the first one and those of its exponent. -/
theorem count_exponents (first : 'e' ∉ mantissa) (exponent : List Char) :
    (mantissa ++ 'e' :: exponent).count 'e' = exponent.count 'e' + 1 := by
  rw [List.count_append, List.count_eq_zero_of_not_mem first, List.count_cons_self, Nat.zero_add]

/-- A text classified as a whole number is read as that number. -/
theorem Whole.read_eq {value : Nat} (whole : Whole (normalized text) value) :
    read text = .ok (.integer value) := by
  generalize normal : normalized text = cs at whole
  cases whole with
  | digits accepted => exact read_of_accepted accepted normal
  | scaled accepted int64 small =>
      rw [read_of_exponent accepted int64 normal, if_neg (Int.not_lt.mpr small)]

/-- A text classified as a floating number is read as that number, with its width. -/
theorem Floats.read_eq {x : Binary64} (floats : Floats (normalized text) x size) :
    read text = .ok (.float x size) := by
  cases floats with
  | @finite body floating single parsed =>
      have filled : body ≠ [] := by
        rintro rfl
        cases parsed
      rw [read_of_floating floating rfl, readFloat_of_single floating single filled, parsed]

/-- A text classified as refused is refused for that reason. The checks come in the order of the
cases. -/
theorem Refused.read_eq (refused : Refused (normalized text) error) :
    read text = .error error := by
  generalize normal : normalized text = cs at refused
  cases refused with
  | marked marked refused => rw [read_of_mark marked normal, readDigits_of_refused refused]; rfl
  | periods floating several => rw [read_of_floating floating normal, readFloat, if_pos several]
  | suffix floating single =>
      rw [read_of_floating floating normal, readFloat, if_neg (Nat.not_lt.mpr single),
        splitSuffix_of_suffixed floating.suffixed]
      rfl
  | notFinite floating single filled unparsed =>
      rw [read_of_floating floating normal, readFloat_of_single floating single filled, unparsed]
  | exponents integral several =>
      -- The digits end at the first `e`, so that every other one is left to the exponent.
      have present : 'e' ∈ cs := List.count_pos_iff.mp (Nat.zero_lt_of_lt several)
      obtain ⟨mantissa, exponent, rfl, first⟩ := List.eq_append_cons_of_mem present
      rw [count_exponents first, Nat.lt_add_left_iff_pos, List.count_pos_iff] at several
      rw [read_of_integral integral normal, readDecimal_append first,
        if_pos (List.contains_iff_mem.mpr several)]
      rfl
  | digits integral bare refused =>
      have digits : readDigits 10 cs = .error error := readDigits_of_refused refused
      rw [read_of_integral integral normal, readDecimal_of_not_mem bare, digits]
      rfl
  | mantissa integral first last refused =>
      have digits : readDigits 10 _ = .error error := readDigits_of_refused refused
      rw [read_of_integral integral normal, readDecimal_append first,
        if_neg (mt List.contains_iff_mem.mp last), digits]
      rfl
  | @exponent mantissa exponent integral accepted last unwritten =>
      have digits : readDigits 10 mantissa = .ok (Base.decimal.value mantissa) :=
        readDigits_of_accepted accepted
      have unread : readExponent? exponent = none :=
        Option.eq_none_iff_forall_ne_some.mpr fun power found =>
          unwritten power (readExponent?_eq_some_iff.mp found)
      rw [read_of_integral integral normal, readDecimal_append (not_mem_of_accepted accepted),
        if_neg (mt List.contains_iff_mem.mp last), digits, Except.bind, readScaled, unread]
      rfl
  | power accepted int64 large =>
      rw [read_of_exponent accepted int64 normal, if_pos large]

/-- What a literal is classified as is what is read. -/
theorem Classified.read_eq {outcome : Except NumberError Numeral}
    (classified : Classified (normalized text) outcome) : read text = outcome := by
  match outcome, classified with
  | .ok (.integer _), whole => exact Whole.read_eq whole
  | .ok (.float _ _), floats => exact Floats.read_eq floats
  | .error _, refused => exact Refused.read_eq refused

/-- A floating literal has too many periods, nothing but its suffix, or a body that is parsed or
not. -/
theorem Floating.classified_exists (floating : Floating cs body size) :
    ∃ outcome, Classified cs outcome := by
  by_cases several : 1 < cs.count '.'
  · exact ⟨.error _, Refused.periods floating several⟩
  · have single := Nat.le_of_not_lt several
    by_cases empty : body = []
    · subst empty
      exact ⟨.error _, Refused.suffix floating single⟩
    · cases parsed : Binary64.ofText? body with
      | some x => exact ⟨.ok (.float x size), .finite floating single parsed⟩
      | none => exact ⟨.error _, Refused.notFinite floating single empty parsed⟩

/-- A literal that is not floating is one for which the letters `e`, the mantissa, the exponent and
the power are right, or the first of these that is wrong refuses it. -/
theorem Integral.classified_exists (integral : Integral cs) : ∃ outcome, Classified cs outcome := by
  by_cases present : 'e' ∈ cs
  · obtain ⟨mantissa, exponent, rfl, first⟩ := List.eq_append_cons_of_mem present
    by_cases last : 'e' ∈ exponent
    · have several : 1 < (mantissa ++ 'e' :: exponent).count 'e' := by
        rw [count_exponents first, Nat.lt_add_left_iff_pos]
        exact List.count_pos_iff.mpr last
      exact ⟨.error _, Refused.exponents integral several⟩
    · rcases Base.decimal.accepts_or_refuses mantissa with accepted | ⟨error, refused⟩
      · by_cases written : ∃ power, WritesInt64 exponent power
        · obtain ⟨power, int64⟩ := written
          by_cases small : power ≤ 4096
          · exact ⟨.ok (.integer _), Whole.scaled accepted int64 small⟩
          · exact ⟨.error _, Refused.power accepted int64 (Int.not_le.mp small)⟩
        · exact ⟨.error _, Refused.exponent integral accepted last (not_exists.mp written)⟩
      · exact ⟨.error error, Refused.mantissa integral first last refused⟩
  · rcases Base.decimal.accepts_or_refuses cs with accepted | ⟨error, refused⟩
    · exact ⟨.ok (.integer _), Whole.digits accepted⟩
    · exact ⟨.error error, Refused.digits integral present refused⟩

/-- No literal is left out: each is a whole number, a floating one or refused. -/
theorem classified_exists (cs : List Char) : ∃ outcome, Classified cs outcome := by
  by_cases unmarked : Unmarked cs
  · obtain ⟨body, size, suffixed⟩ := suffixed_exists cs
    by_cases announced : '.' ∈ cs ∨ size ≠ .unmarked
    · exact Floating.classified_exists ⟨unmarked, suffixed, announced⟩
    · obtain ⟨noPeriod, noSuffix⟩ := not_or.mp announced
      obtain rfl := not_not.mp noSuffix
      cases suffixed with
      | unmarked notSingle notDouble =>
          exact Integral.classified_exists ⟨unmarked, noPeriod, notSingle, notDouble⟩
  · rw [Unmarked] at unmarked
    push Not at unmarked
    obtain ⟨base, marked, digits, rfl⟩ := unmarked
    rcases base.accepts_or_refuses digits with accepted | ⟨error, refused⟩
    · exact ⟨.ok (.integer _), Whole.digits accepted⟩
    · exact ⟨.error error, Refused.marked marked refused⟩

/-- The classification is exact: a literal is read as what it is classified as and as nothing
else. -/
theorem read_eq_iff {outcome : Except NumberError Numeral} :
    read text = outcome ↔ Classified (normalized text) outcome := by
  constructor
  · rintro rfl
    obtain ⟨outcome, classified⟩ := classified_exists (normalized text)
    rw [classified.read_eq]
    exact classified
  · exact Classified.read_eq

/-- **Every literal is classified by its text.** In small letters and without underscores, the text
alone says whether a literal is a whole number, a floating one or refused, and for which reason. -/
theorem read_classifies (text : String) :
    (∀ value, read text = .ok (.integer value) ↔ Whole (normalized text) value) ∧
    (∀ x size, read text = .ok (.float x size) ↔ Floats (normalized text) x size) ∧
    ∀ error, read text = .error error ↔ Refused (normalized text) error :=
  ⟨fun _ => read_eq_iff, fun _ _ => read_eq_iff, fun _ => read_eq_iff⟩

end Numeral

end DeclLang
