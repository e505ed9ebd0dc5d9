import DeclLang.Proofs.Number.Digits
import Mathlib.Data.List.TakeWhile

/-!
# Literals of whole numbers

What stands in a literal beside its digits does not change what it is read as: zeros in front,
capitals instead of small letters, and underscores anywhere (`DeclLang.Numeral.read_written`). The
mark of a base is looked for first, so the letters among hexadecimal digits announce no exponent and
no width. Without a mark a literal is floating, or else its digits come before a letter `e`.
-/

namespace DeclLang

namespace Numeral

variable {base : Base} {cs : List Char} {c : Char} {text : String}

/-- The characters of whole numbers in small letters. -/
def wholeCharacters : List Char :=
  Base.allDigits ++ ['x', 'o', '+', '-']

/-- The characters of whole numbers are small letters that their capitals are sent back to, and none
of them is an underscore. -/
private theorem steady_of_mem (whole : c ∈ wholeCharacters) :
    (c ≠ '_' ∧ Text.lowerCase c = [c]) ∧ c.toUpper ≠ '_' ∧ Text.lowerCase c.toUpper = [c] := by
  have checked : ∀ c ∈ wholeCharacters, (c ≠ '_' ∧ Text.lowerCase c = [c]) ∧
      c.toUpper ≠ '_' ∧ Text.lowerCase c.toUpper = [c] :=
    List.all_iff_forall_prop.mp (by decide +kernel)
  exact checked c whole

/-- A literal that writes some small letters: each as it is or as its capital, with underscores
anywhere. -/
inductive Written : List Char → List Char → Prop
  | finished : Written [] []
  | underscore {small written : List Char} (later : Written small written) :
      Written small ('_' :: written)
  | character {c d : Char} {small written : List Char} (cased : d = c ∨ d = c.toUpper)
      (later : Written small written) : Written (c :: small) (d :: written)

theorem Written.refl (cs : List Char) : Written cs cs := by
  induction cs with
  | nil => exact .finished
  | cons c cs ih => exact .character (Or.inl rfl) ih

/-- Making letters small and dropping underscores undoes how a whole number is written. -/
theorem Written.normalized_eq {small : List Char} {text : String}
    (written : Written small text.toList) (whole : ∀ c ∈ small, c ∈ wholeCharacters) :
    normalized text = small := by
  rw [normalized]
  generalize text.toList = cs at written
  induction written with
  | finished => rfl
  | underscore later ih => exact ih whole
  | @character c d small written cased later ih =>
      obtain ⟨first, others⟩ := List.forall_mem_cons.mp whole
      obtain ⟨kept, lowered⟩ : d ≠ '_' ∧ Text.lowerCase d = [c] := by
        rcases cased with rfl | rfl
        · exact (steady_of_mem first).1
        · exact (steady_of_mem first).2
      simp only [List.filter_cons, bne_iff_ne, ne_eq, kept, not_false_eq_true, ↓reduceIte,
        List.flatMap_cons, lowered, ih others, List.singleton_append]

/-- A literal in small letters without the mark of a base. -/
def Unmarked (cs : List Char) : Prop :=
  ∀ base : Base, base ≠ .decimal → ¬ base.mark <+: cs

/-- The mark of a base leaves nothing to be read but digits. -/
theorem read_of_mark (marked : base ≠ .decimal) (normal : normalized text = base.mark ++ cs) :
    read text = (readDigits base.radix cs).map .integer := by
  rw [read, normal]
  cases base with
  | decimal => exact absurd rfl marked
  | binary => rfl
  | octal => rfl
  | hexadecimal => rfl

/-- Without the mark of a base, all characters are digits of base ten. -/
theorem splitBase_of_unmarked (unmarked : Unmarked cs) : splitBase cs = (10, cs) := by
  unfold splitBase
  split
  case h_1 rest => exact absurd ⟨rest, rfl⟩ (unmarked .hexadecimal nofun)
  case h_2 rest => exact absurd ⟨rest, rfl⟩ (unmarked .octal nofun)
  case h_3 rest => exact absurd ⟨rest, rfl⟩ (unmarked .binary nofun)
  case h_4 => rfl

/-- Without the mark of a base, a literal is floating or a decimal. -/
theorem read_of_unmarked (normal : normalized text = cs) (unmarked : Unmarked cs) :
    read text = if looksFloating cs then readFloat cs else (readDecimal cs).map .integer := by
  rw [read, normal, splitBase_of_unmarked unmarked]
  rfl

theorem suffix?_isSome_iff :
    (suffix? cs).isSome = true ↔ cs.getLast? = some 'f' ∨ cs.getLast? = some 'd' := by
  rw [suffix?]
  cases cs.getLast? with
  | none => simp
  | some c =>
      rw [Option.bind_some, Option.some_inj, Option.some_inj]
      unfold FloatSize.ofSuffix?
      split <;> simp_all

/-- A literal is floating with a period anywhere or with a suffix. -/
theorem looksFloating_iff :
    looksFloating cs = true ↔ '.' ∈ cs ∨ cs.getLast? = some 'f' ∨ cs.getLast? = some 'd' := by
  rw [looksFloating, Bool.or_eq_true, List.contains_iff_mem, suffix?_isSome_iff]

/-- A literal without the mark of a base, a period and a suffix. -/
structure Integral (cs : List Char) : Prop where
  unmarked : Unmarked cs
  noPeriod : '.' ∉ cs
  notSingle : cs.getLast? ≠ some 'f'
  notDouble : cs.getLast? ≠ some 'd'

/-- A literal with neither mark, period nor suffix is read as a decimal. -/
theorem read_of_integral (integral : Integral cs) (normal : normalized text = cs) :
    read text = (readDecimal cs).map .integer := by
  have notFloating : ¬ looksFloating cs = true := by
    rw [looksFloating_iff]
    exact not_or.mpr ⟨integral.noPeriod, not_or.mpr ⟨integral.notSingle, integral.notDouble⟩⟩
  rw [read_of_unmarked normal integral.unmarked, if_neg notFloating]

/-- The characters of whole numbers in base ten, exponents included. -/
def decimalCharacters : List Char :=
  Base.decimal.digits ++ ['e', '+', '-']

/-- A text of digits, signs and letters `e` has none of the characters that would make it anything
but a decimal. -/
theorem integral_of_decimalCharacters (plain : ∀ c ∈ cs, c ∈ decimalCharacters) : Integral cs := by
  constructor
  case unmarked =>
    rintro base marked ⟨rest, rfl⟩
    have inMark : ∀ c ∈ base.mark, c ∈ decimalCharacters := fun c member =>
      plain c (List.mem_append_left rest member)
    cases base with
    | decimal => exact marked rfl
    | binary => exact absurd (inMark 'b' (by decide)) (by decide)
    | octal => exact absurd (inMark 'o' (by decide)) (by decide)
    | hexadecimal => exact absurd (inMark 'x' (by decide)) (by decide)
  case noPeriod => exact fun period => absurd (plain '.' period) (by decide)
  case notSingle => exact fun last => absurd (plain 'f' (List.mem_of_getLast? last)) (by decide)
  case notDouble => exact fun last => absurd (plain 'd' (List.mem_of_getLast? last)) (by decide)

theorem readDecimal_of_not_mem (whole : 'e' ∉ cs) : readDecimal cs = readDigits 10 cs := by
  have passed : ∀ c ∈ cs, (c != 'e') = true := by
    intro c member
    rw [bne_iff_ne]
    rintro rfl
    exact whole member
  have mantissa : cs.takeWhile (· != 'e') = cs := List.takeWhile_eq_self_iff.mpr passed
  have nothing : cs.dropWhile (· != 'e') = [] := List.dropWhile_eq_nil_iff.mpr passed
  simp only [readDecimal, mantissa, nothing]

theorem not_mem_of_accepted (accepted : Base.decimal.Accepts cs) : 'e' ∉ cs := fun exponent =>
  absurd (accepted.inBase 'e' exponent) (by decide)

/-- Digits of a base are read as the number that they write. -/
theorem readDigits_of_accepted (accepted : base.Accepts cs) :
    readDigits base.radix cs = .ok (base.value cs) := by
  have digits : cs.all (isDigitOf base.radix) = true :=
    List.all_eq_true.mpr fun c member => (base.isDigitOf_iff c).mpr (accepted.inBase c member)
  rw [readDigits, if_neg (by simpa using accepted.filled), if_pos digits,
    Base.digitsValue_eq_value accepted.inBase]

/-- A literal with nothing but digits of a base after its mark is the number that they write. -/
theorem read_of_accepted (accepted : base.Accepts cs) (normal : normalized text = base.mark ++ cs) :
    read text = .ok (.integer (base.value cs)) := by
  by_cases decimal : base = .decimal
  · subst decimal
    have plain : ∀ c ∈ cs, c ∈ decimalCharacters := fun c member =>
      List.mem_append_left _ (accepted.inBase c member)
    have digits : readDigits 10 cs = .ok (Base.decimal.value cs) := readDigits_of_accepted accepted
    change normalized text = cs at normal
    rw [read_of_integral (integral_of_decimalCharacters plain) normal,
      readDecimal_of_not_mem (not_mem_of_accepted accepted), digits]
    rfl
  · rw [read_of_mark decimal normal, readDigits_of_accepted accepted]
    rfl

/-- However a number is written after the mark of its base, it is read as that number. -/
theorem read_of_written (accepted : base.Accepts cs)
    (written : Written (base.mark ++ cs) text.toList) :
    read text = .ok (.integer (base.value cs)) := by
  have whole : ∀ c ∈ base.mark ++ cs, c ∈ wholeCharacters := by
    refine List.forall_mem_append.mpr ⟨?_, fun c member => ?_⟩
    · cases base <;> exact List.all_iff_forall_prop.mp (by decide)
    · exact List.mem_append_left _ (Base.mem_allDigits (accepted.inBase c member))
  exact read_of_accepted accepted (written.normalized_eq whole)

/-- A literal of decimal digits is the whole number that they write. -/
theorem read_of_digits (filled : text ≠ "") (digits : ∀ c ∈ text.toList, c.isDigit = true) :
    read text = .ok (.integer (decimalValue text)) := by
  have filled' : text.toList ≠ [] := fun empty => filled (String.toList_eq_nil_iff.mp empty)
  have inBase : ∀ c ∈ text.toList, c ∈ Base.decimal.digits := fun c member =>
    Base.mem_decimal_digits.mpr (digits c member)
  rw [Base.decimalValue_eq inBase]
  exact read_of_written ⟨filled', inBase⟩ (Written.refl _)

/-- **Digit strings round-trip in every base.** A number written in a base, with any zeros in front,
capitals and underscores, is read as that number. In base sixteen the letters are digits wherever
they stand, also where they would announce an exponent or a width in base ten. -/
theorem read_written (text : String) :
    (∀ (base : Base) (n zeros : Nat),
      Written (base.mark ++ (List.replicate zeros '0' ++ Nat.toDigits base.radix n)) text.toList →
        read text = .ok (.integer n)) ∧
    ∀ digits, Base.hexadecimal.Accepts digits →
      Written (Base.hexadecimal.mark ++ digits) text.toList →
        read text = .ok (.integer (Base.hexadecimal.value digits)) := by
  refine ⟨fun base n zeros written => ?_, fun digits accepted written => ?_⟩
  · obtain ⟨inBase, value⟩ := base.toDigits_spec n
    have zero : ∀ c ∈ List.replicate zeros '0', c ∈ base.digits := by
      intro c member
      rw [List.eq_of_mem_replicate member]
      exact Base.digitChar_mem base.one_lt_radix.le
    have filled : List.replicate zeros '0' ++ Nat.toDigits base.radix n ≠ [] :=
      List.append_ne_nil_of_right_ne_nil _ Nat.toDigits_ne_nil
    have accepted : base.Accepts (List.replicate zeros '0' ++ Nat.toDigits base.radix n) :=
      ⟨filled, List.forall_mem_append.mpr ⟨zero, inBase⟩⟩
    rw [read_of_written accepted written, Base.value_zeros_append, value]
  · exact read_of_written accepted written

/-- The last letter is a digit here, and so is the `e`. -/
theorem read_capitals_and_underscores :
    Written (Base.hexadecimal.mark ++ (List.replicate 1 '0' ++ Nat.toDigits 16 0xFE5D))
        "_0_X0_fE5_d".toList ∧
      read "_0_X0_fE5_d" = .ok (.integer 0xFE5D) ∧
      read "_0_X0_fE5_d" =
        .ok (.integer (Base.hexadecimal.value ['0', 'f', 'e', '5', 'd'])) := by
  have written : Written ['0', 'x', '0', 'f', 'e', '5', 'd'] "_0_X0_fE5_d".toList :=
    .underscore <| .character (Or.inl rfl) <| .underscore <| .character (Or.inr rfl) <|
      .character (Or.inl rfl) <| .underscore <| .character (Or.inl rfl) <|
      .character (Or.inr rfl) <| .character (Or.inl rfl) <| .underscore <|
      .character (Or.inl rfl) .finished
  refine ⟨written, (read_written _).1 .hexadecimal 0xFE5D 1 written, ?_⟩
  exact (read_written _).2 ['0', 'f', 'e', '5', 'd'] (by decide) written

end Numeral

end DeclLang
