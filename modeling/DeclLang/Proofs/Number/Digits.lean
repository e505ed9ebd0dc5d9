import DeclLang.Number.Numeral
import DeclLang.Proofs.Lexeme.Language
import Mathlib.Data.Bool.AllAny
import Mathlib.Data.Nat.Digits.Defs
import Mathlib.Tactic.Ring

/-!
# Digits of the bases

A whole number is written in one of four bases, with digits that are counted on from those of base
ten with letters, and with a mark in front in every base but ten. The digits that the library writes
for a number are digits of its base and write that number (`DeclLang.Base.toDigits_spec`).
-/

namespace DeclLang

/-- Digit characters write a number with the least significant digit last. -/
theorem digitsValue_eq_ofDigits (base : Nat) (cs : List Char) :
    digitsValue base cs = Nat.ofDigits base (cs.reverse.map fun c => (digitValue? c).getD 0) := by
  have swapped : (fun (value : Nat) (c : Char) => value * base + (digitValue? c).getD 0) =
      fun value c => (digitValue? c).getD 0 + base * value := by
    funext value c
    ring
  rw [digitsValue, swapped, Nat.ofDigits_eq_foldr, List.foldr_map, List.foldr_reverse]
  rfl

/-- The number that a text of decimal digits writes. -/
def decimalValue (text : String) : Nat :=
  Nat.ofDigits 10 (text.toList.reverse.map fun c => c.toNat - '0'.toNat)

/-- The bases of whole numbers. -/
inductive Base
  | binary
  | octal
  | decimal
  | hexadecimal
  deriving DecidableEq

namespace Base

def radix : Base → Nat
  | .binary => 2
  | .octal => 8
  | .decimal => 10
  | .hexadecimal => 16

/-- What stands in front of the digits of a base. -/
def mark : Base → List Char
  | .binary => ['0', 'b']
  | .octal => ['0', 'o']
  | .decimal => []
  | .hexadecimal => ['0', 'x']

/-- The digits of all bases, each at the place of its value. -/
def allDigits : List Char :=
  ['0', '1', '2', '3', '4', '5', '6', '7', '8', '9', 'a', 'b', 'c', 'd', 'e', 'f']

/-- The digits of a base. -/
def digits (base : Base) : List Char :=
  allDigits.take base.radix

/-- The number that some digits of a base write, the most significant one first. -/
def value (base : Base) (cs : List Char) : Nat :=
  Nat.ofDigits base.radix (cs.reverse.map (allDigits.idxOf ·))

/-- One or more digits of a base. -/
@[mk_iff]
structure Accepts (base : Base) (cs : List Char) : Prop where
  filled : cs ≠ []
  inBase : ∀ c ∈ cs, c ∈ base.digits

instance (base : Base) (cs : List Char) : Decidable (base.Accepts cs) :=
  decidable_of_iff (cs ≠ [] ∧ cs.all (· ∈ base.digits) = true) (by
    rw [accepts_iff, List.all_iff_forall_prop])

variable {base : Base} {cs : List Char} {c : Char}

/-- No base is unary, so that numbers have finitely many digits. -/
theorem one_lt_radix (base : Base) : 1 < base.radix := by
  cases base <;> decide

theorem radix_le (base : Base) : base.radix ≤ 16 := by
  cases base <;> decide

theorem mem_allDigits (digit : c ∈ base.digits) : c ∈ allDigits :=
  List.mem_of_mem_take digit

/-- A digit is worth its place in the list of digits. -/
theorem digitValue?_of_mem (digit : c ∈ allDigits) :
    digitValue? c = some (allDigits.idxOf c) := by
  have checked : ∀ c ∈ allDigits, digitValue? c = some (allDigits.idxOf c) :=
    List.all_iff_forall_prop.mp (by decide)
  exact checked c digit

/-- Characters worth less than sixteen are the ten digits and the six first small letters, so that a
check of these covers all. -/
private theorem toNat_mem_of_digitValue? {v : Nat} (found : digitValue? c = some v)
    (small : v < 16) : c.toNat ∈ List.range' 48 10 ++ List.range' 97 6 := by
  unfold digitValue? at found
  split at found
  next digit =>
    apply List.mem_append_left
    apply Rule.toNat_mem_of_isDigit
    simp only [Char.isDigit, Bool.and_eq_true, decide_eq_true_eq]
    exact digit
  next =>
    split at found
    next letter =>
      have first : 97 ≤ c.toNat := letter.1
      have counted : c.toNat - 97 + 10 = v := Option.some.inj found
      apply List.mem_append_right
      rw [List.mem_range'_1]
      omega
    next => cases found

/-- The digits of a base are the digits with a lesser value. -/
theorem isDigitOf_iff (base : Base) (c : Char) :
    isDigitOf base.radix c = true ↔ c ∈ base.digits := by
  constructor
  · intro accepted
    obtain ⟨v, found, small⟩ := (Option.any_eq_true _ _).mp accepted
    have point := toNat_mem_of_digitValue? found
      ((of_decide_eq_true small).trans_le base.radix_le)
    have listed : (!isDigitOf base.radix c || base.digits.contains c) = true :=
      Rule.eq_true_of_toNat_mem (fun c => !isDigitOf base.radix c || base.digits.contains c)
        (by cases base <;> decide) point
    rw [accepted] at listed
    exact List.contains_iff_mem.mp listed
  · intro digit
    have checked : ∀ c ∈ base.digits, isDigitOf base.radix c = true := by
      cases base <;> exact List.all_iff_forall_prop.mp (by decide)
    exact checked c digit

/-- The digits of base ten are the characters that continue a number token. -/
theorem mem_decimal_digits : c ∈ decimal.digits ↔ c.isDigit = true := by
  constructor
  · intro digit
    have checked : ∀ c ∈ decimal.digits, c.isDigit = true :=
      List.all_iff_forall_prop.mp (by decide)
    exact checked c digit
  · intro digit
    apply List.contains_iff_mem.mp
    exact Rule.eq_true_of_toNat_mem (decimal.digits.contains ·) (by decide)
      (Rule.toNat_mem_of_isDigit digit)

/-- For decimal digits, their distance from the zero is their value. -/
theorem decimalValue_eq {text : String} (digits : ∀ c ∈ text.toList, c ∈ decimal.digits) :
    decimalValue text = decimal.value text.toList := by
  have values : ∀ c ∈ decimal.digits, c.toNat - '0'.toNat = allDigits.idxOf c :=
    List.all_iff_forall_prop.mp (by decide)
  rw [decimalValue, value]
  refine congrArg (Nat.ofDigits 10) (List.map_congr_left fun c member => ?_)
  exact values c (digits c (List.mem_reverse.mp member))

/-- Folding the digits of a base gives the number that they write. -/
theorem digitsValue_eq_value (inBase : ∀ c ∈ cs, c ∈ base.digits) :
    digitsValue base.radix cs = base.value cs := by
  rw [digitsValue_eq_ofDigits, value]
  refine congrArg (Nat.ofDigits base.radix) (List.map_congr_left fun c member => ?_)
  rw [digitValue?_of_mem (mem_allDigits (inBase c (List.mem_reverse.mp member)))]
  rfl

/-- One more digit at the end makes the number as many times larger as the base says, and adds the
digit. -/
theorem value_concat (base : Base) (cs : List Char) (c : Char) :
    base.value (cs ++ [c]) = base.value cs * base.radix + allDigits.idxOf c := by
  rw [value, List.reverse_concat, List.map_cons, Nat.ofDigits_cons, value]
  ring

/-- Zeros in front of a number change nothing. -/
theorem value_zeros_append (base : Base) (zeros : Nat) (cs : List Char) :
    base.value (List.replicate zeros '0' ++ cs) = base.value cs := by
  have nothing : allDigits.idxOf '0' = 0 := rfl
  rw [value, List.reverse_append, List.reverse_replicate, List.map_append, List.map_replicate,
    nothing, Nat.ofDigits_append_replicate_zero, value]

theorem idxOf_digitChar {d : Nat} (small : d < 16) : allDigits.idxOf (Nat.digitChar d) = d := by
  revert d
  decide

/-- What is written for a value below the base is a digit of the base. -/
theorem digitChar_mem {d : Nat} (small : d < base.radix) : Nat.digitChar d ∈ base.digits := by
  revert d
  cases base <;> decide

/-- A number is written with digits of its base, which write the number. -/
theorem toDigits_spec (base : Base) (n : Nat) :
    (∀ c ∈ Nat.toDigits base.radix n, c ∈ base.digits) ∧
      base.value (Nat.toDigits base.radix n) = n := by
  induction n using Nat.strong_induction_on with
  | _ n ih =>
      have two := base.one_lt_radix
      rw [Nat.toDigits_eq_if two]
      by_cases small : n < base.radix
      · rw [if_pos small]
        refine ⟨List.forall_mem_singleton.mpr (digitChar_mem small), ?_⟩
        have single := value_concat base [] (Nat.digitChar n)
        rw [idxOf_digitChar (small.trans_le base.radix_le)] at single
        simpa [value] using single
      · rw [if_neg small]
        have below : n % base.radix < base.radix := Nat.mod_lt n two.le
        obtain ⟨inBase, same⟩ := ih (n / base.radix) (Nat.div_lt_self (by omega) two)
        refine ⟨List.forall_mem_append.mpr ⟨inBase, ?_⟩, ?_⟩
        · exact List.forall_mem_singleton.mpr (digitChar_mem below)
        · rw [value_concat, same, idxOf_digitChar (below.trans_le base.radix_le)]
          exact Nat.div_add_mod' n base.radix

end Base

end DeclLang
