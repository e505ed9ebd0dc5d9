import DeclLang.Proofs.Number.Literals
import Mathlib.Logic.Function.Iterate

/-!
# Whole numbers with exponents

A whole number in base ten with an exponent is scaled exactly (`DeclLang.Numeral.read_scaled`). A
negative exponent drops the remainder, once for the whole power as for each ten of it, and a number
with no more digits than the exponent asks to drop has nothing left, so that the power need not be
built. Powers are counted in 32 bits only, which is enough: a positive one is refused long before
that, and a negative one is built only when it is less than the number of digits.
-/

namespace DeclLang

/-- A number is less than the power of ten with as many zeros as it has digits. -/
theorem lt_pow_decimalLength (n : Nat) : n < 10 ^ decimalLength n :=
  (Nat.length_toDigits_le_iff (by decide) Nat.length_toDigits_pos).mp (le_refl _)

/-- A number below a power of ten has no more digits than the power has zeros. -/
theorem decimalLength_le {n length : Nat} (filled : 0 < length) (below : n < 10 ^ length) :
    decimalLength n ≤ length :=
  (Nat.length_toDigits_le_iff (by decide) filled).mpr below

/-- Digits write less than the power of the base with as many zeros. -/
theorem Base.value_lt {base : Base} {cs : List Char} (inBase : ∀ c ∈ cs, c ∈ base.digits) :
    base.value cs < base.radix ^ cs.length := by
  have small : ∀ c ∈ base.digits, allDigits.idxOf c < base.radix := by
    cases base <;> exact List.all_iff_forall_prop.mp (by decide)
  rw [value, ← List.length_reverse, ← List.length_map (allDigits.idxOf ·)]
  apply Nat.ofDigits_lt_base_pow_length base.one_lt_radix
  intro d member
  obtain ⟨c, written, rfl⟩ := List.mem_map.mp member
  exact small c (inBase c (List.mem_reverse.mp written))

namespace Numeral

/-- A text that writes a whole number in base ten, with a sign or without one. -/
inductive SignedDigits : List Char → Int → Prop
  | unsigned {cs : List Char} (accepted : Base.decimal.Accepts cs) :
      SignedDigits cs (Base.decimal.value cs)
  | plus {cs : List Char} (accepted : Base.decimal.Accepts cs) :
      SignedDigits ('+' :: cs) (Base.decimal.value cs)
  | minus {cs : List Char} (accepted : Base.decimal.Accepts cs) :
      SignedDigits ('-' :: cs) (-(Base.decimal.value cs : Int))

/-- A text that writes a signed integer of 64 bits. -/
structure WritesInt64 (text : List Char) (n : Int) : Prop where
  written : SignedDigits text n
  least : -(2 ^ 63) ≤ n
  greatest : n < 2 ^ 63

variable {cs text mantissa exponent : List Char} {n : Int} {value : Nat}

/-- An exponent is written with digits and signs, so no second `e` is in it. -/
theorem SignedDigits.mem_decimalCharacters (written : SignedDigits text n) :
    ∀ c ∈ text, c ∈ decimalCharacters ∧ c ≠ 'e' := by
  have digit : ∀ c ∈ Base.decimal.digits, c ∈ decimalCharacters ∧ c ≠ 'e' :=
    List.all_iff_forall_prop.mp (by decide)
  cases written with
  | unsigned accepted => exact fun c member => digit c (accepted.inBase c member)
  | plus accepted =>
      exact List.forall_mem_cons.mpr ⟨by decide, fun c member => digit c (accepted.inBase c member)⟩
  | minus accepted =>
      exact List.forall_mem_cons.mpr ⟨by decide, fun c member => digit c (accepted.inBase c member)⟩

theorem readSign_of_digits (digits : ∀ c ∈ cs, c ∈ Base.decimal.digits) :
    FloatText.readSign cs = (false, cs) := by
  unfold FloatText.readSign
  split
  case h_1 => exact absurd (digits '-' List.mem_cons_self) (by decide)
  case h_2 => exact absurd (digits '+' List.mem_cons_self) (by decide)
  case h_3 => rfl

/-- What a text writes is told by its sign and what comes after it. -/
theorem signedDigits_iff {negative : Bool} (sign : FloatText.readSign text = (negative, cs)) :
    SignedDigits text n ↔
      Base.decimal.Accepts cs ∧
        n = if negative then -(Base.decimal.value cs : Int) else Base.decimal.value cs := by
  constructor
  · intro written
    cases written with
    | unsigned accepted =>
        obtain ⟨rfl, rfl⟩ := Prod.mk.inj ((readSign_of_digits accepted.inBase).symm.trans sign)
        exact ⟨accepted, rfl⟩
    | plus accepted =>
        obtain ⟨rfl, rfl⟩ := Prod.mk.inj sign
        exact ⟨accepted, rfl⟩
    | minus accepted =>
        obtain ⟨rfl, rfl⟩ := Prod.mk.inj sign
        exact ⟨accepted, rfl⟩
  · rintro ⟨accepted, rfl⟩
    unfold FloatText.readSign at sign
    split at sign
    next => obtain ⟨rfl, rfl⟩ := Prod.mk.inj sign; exact .minus accepted
    next => obtain ⟨rfl, rfl⟩ := Prod.mk.inj sign; exact .plus accepted
    next => obtain ⟨rfl, rfl⟩ := Prod.mk.inj sign; exact .unsigned accepted

/-- The check in front of an exponent refuses exactly what is no digits of base ten. -/
theorem not_accepts_iff :
    ¬ Base.decimal.Accepts cs ↔ (cs.isEmpty || !cs.all Char.isDigit) = true := by
  simp only [Base.accepts_iff, Base.mem_decimal_digits, Bool.or_eq_true, List.isEmpty_iff,
    Bool.not_eq_true', ← Bool.not_eq_true, List.all_eq_true]
  tauto

/-- Exactly the texts of signed integers of 64 bits are read as exponents. -/
theorem readExponent?_eq_some_iff : readExponent? text = some n ↔ WritesInt64 text n := by
  cases sign : FloatText.readSign text with
  | mk negative cs =>
  have written := fun n => signedDigits_iff (n := n) sign
  rw [readExponent?, sign]
  by_cases accepted : Base.decimal.Accepts cs
  · have magnitude : digitsValue 10 cs = Base.decimal.value cs :=
      Base.digitsValue_eq_value accepted.inBase
    have bound : Nat.pow 2 63 = 2 ^ 63 := rfl
    simp only [if_neg (mt not_accepts_iff.mpr (not_not.mpr accepted)), magnitude, bound]
    -- Only the bounds are left: a minus admits one more magnitude than no minus does.
    generalize Base.decimal.value cs = magnitude at written
    constructor
    · intro found
      refine ⟨(written n).mpr ⟨accepted, ?_⟩, ?_, ?_⟩
      all_goals split_ifs at found ⊢ <;> cases found <;> omega
    · intro int64
      have same := ((written n).mp int64.written).2
      have least := int64.least
      have greatest := int64.greatest
      split_ifs at same ⊢ <;> first | rw [same] | omega
  · simp only [if_pos (not_accepts_iff.mp accepted)]
    exact ⟨nofun, fun int64 => absurd ((written n).mp int64.written).1 accepted⟩

/-- A power is exact as long as its exponent fits in the 32 bits it is held in. -/
theorem powerOfTen_of_lt {k : Nat} (small : k < 2 ^ 32) : powerOfTen k = 10 ^ k := by
  rw [powerOfTen, Nat.toUInt32_eq, UInt32.toNat_ofNat_of_lt' small]
  rfl

/-- Up to the greatest power, scaling multiplies: 4096 is far below what 32 bits hold. -/
theorem scale_of_nonnegative (nonnegative : 0 ≤ n) (small : n ≤ 4096) :
    scale value n = value * 10 ^ n.toNat := by
  obtain ⟨k, rfl⟩ := Int.eq_ofNat_of_zero_le nonnegative
  have within : k < 2 ^ 32 := by omega
  exact congrArg (value * ·) (powerOfTen_of_lt within)

/-- A number with no more digits than a power of ten has zeros is less than the power. -/
theorem div_eq_zero_of_length {k : Nat} (short : decimalLength value ≤ k) : value / 10 ^ k = 0 := by
  apply Nat.div_eq_of_lt
  exact (lt_pow_decimalLength value).trans_le (Nat.pow_le_pow_right (by decide) short)

/-- A negative power divides. It is built only for a number with more digits, so that it fits in 32
bits. -/
theorem scale_of_negative (negative : n < 0) (short : decimalLength value < 2 ^ 32) :
    scale value n = value / 10 ^ n.natAbs := by
  obtain ⟨k, rfl⟩ := Int.eq_negSucc_of_lt_zero negative
  rw [scale, Int.natAbs_negSucc]
  by_cases covered : decimalLength value ≤ k + 1
  · rw [if_pos covered, div_eq_zero_of_length covered]
  · have within : k + 1 < 2 ^ 32 := (Nat.lt_of_not_le covered).trans short
    rw [if_neg covered, powerOfTen_of_lt within]

/-- Dropping one digit after another is one division by the whole power. -/
theorem iterate_div_ten (value k : Nat) : (· / 10)^[k] value = value / 10 ^ k := by
  induction k with
  | zero => exact (Nat.div_one value).symm
  | succ k ih => rw [Function.iterate_succ_apply', ih, Nat.div_div_eq_div_mul, Nat.pow_succ]

/-- A base ten whole number with an exponent is its digits, the first `e` and what comes after. -/
theorem readDecimal_append (whole : 'e' ∉ mantissa) (exponent : List Char) :
    readDecimal (mantissa ++ 'e' :: exponent) =
      if exponent.contains 'e' then .error .multipleExponents
      else (readDigits 10 mantissa).bind (readScaled · exponent) := by
  have passed : ∀ c ∈ mantissa, (c != 'e') = true := fun c member =>
    bne_iff_ne.mpr fun same => whole (same ▸ member)
  have before : (mantissa ++ 'e' :: exponent).takeWhile (· != 'e') = mantissa := by
    rw [List.takeWhile_append_of_pos passed]
    exact List.append_nil mantissa
  have after : (mantissa ++ 'e' :: exponent).dropWhile (· != 'e') = 'e' :: exponent := by
    rw [List.dropWhile_append_of_pos passed]
    rfl
  simp only [readDecimal, before, after]
  cases readDigits 10 mantissa <;> rfl

/-- Once an exponent is read, only its size can be wrong with it. -/
theorem readScaled_of_writesInt64 (int64 : WritesInt64 exponent n) (value : Nat) :
    readScaled value exponent =
      if 4096 < n then .error (.exponentTooLarge n) else .ok (scale value n) := by
  rw [readScaled, readExponent?_eq_some_iff.mpr int64]
  rfl

/-- Digits, an `e` and an exponent are characters of base ten, so that no period and no suffix is
among them. -/
theorem mem_decimalCharacters_of_exponent (accepted : Base.decimal.Accepts mantissa)
    (int64 : WritesInt64 exponent n) :
    ∀ c ∈ mantissa ++ 'e' :: exponent, c ∈ decimalCharacters := by
  refine List.forall_mem_append.mpr ⟨fun c member => ?_, List.forall_mem_cons.mpr ⟨?_, ?_⟩⟩
  · exact List.mem_append_left _ (accepted.inBase c member)
  · decide
  · exact fun c member => (int64.written.mem_decimalCharacters c member).1

/-- A literal of digits and an exponent that fits in 64 bits is scaled by the exponent. -/
theorem read_of_exponent {text : String} (accepted : Base.decimal.Accepts mantissa)
    (int64 : WritesInt64 exponent n) (normal : normalized text = mantissa ++ 'e' :: exponent) :
    read text =
      if 4096 < n then .error (.exponentTooLarge n)
      else .ok (.integer (scale (Base.decimal.value mantissa) n)) := by
  have integral := integral_of_decimalCharacters (mem_decimalCharacters_of_exponent accepted int64)
  have single : ¬ exponent.contains 'e' = true := by
    rw [List.contains_iff_mem]
    exact fun member => (int64.written.mem_decimalCharacters 'e' member).2 rfl
  have value : readDigits 10 mantissa = .ok (Base.decimal.value mantissa) :=
    readDigits_of_accepted accepted
  rw [read_of_integral integral normal, readDecimal_append (not_mem_of_accepted accepted),
    if_neg single, value, Except.bind, readScaled_of_writesInt64 int64]
  split_ifs <;> rfl

/-- **Whole numbers are scaled exactly.** Powers up to the greatest one multiply, and greater ones
are refused. Negative powers divide, down to the least exponent of 64 bits: the answer without the
power, given when the number has no more digits than the power has zeros, is the same, and so is
dividing by ten again and again. -/
theorem read_scaled (mantissa exponent : String) (e : Int)
    (accepted : Base.decimal.Accepts mantissa.toList) (short : mantissa.length < 2 ^ 32)
    (int64 : WritesInt64 exponent.toList e) :
    let value := Base.decimal.value mantissa.toList
    (0 ≤ e → e ≤ 4096 →
      read (mantissa ++ "e" ++ exponent) = .ok (.integer (value * 10 ^ e.toNat))) ∧
    (4096 < e → read (mantissa ++ "e" ++ exponent) = .error (.exponentTooLarge e)) ∧
    (e < 0 →
      read (mantissa ++ "e" ++ exponent) = .ok (.integer (value / 10 ^ e.natAbs)) ∧
      (decimalLength value ≤ e.natAbs → value / 10 ^ e.natAbs = 0) ∧
      (· / 10)^[e.natAbs] value = value / 10 ^ e.natAbs) := by
  have normal : normalized (mantissa ++ "e" ++ exponent) =
      mantissa.toList ++ 'e' :: exponent.toList := by
    have counted : ∀ c ∈ decimalCharacters, c ∈ wholeCharacters :=
      List.all_iff_forall_prop.mp (by decide)
    have plain := mem_decimalCharacters_of_exponent accepted int64
    have same : (mantissa ++ "e" ++ exponent).toList =
        mantissa.toList ++ 'e' :: exponent.toList := by
      rw [String.toList_append, String.toList_append, List.append_assoc]
      rfl
    refine Written.normalized_eq ?_ fun c member => counted c (plain c member)
    rw [same]
    exact Written.refl _
  have outcome := read_of_exponent accepted int64 normal
  have lengthBound : decimalLength (Base.decimal.value mantissa.toList) < 2 ^ 32 := by
    have counted : decimalLength (Base.decimal.value mantissa.toList) ≤ mantissa.toList.length :=
      decimalLength_le (List.length_pos_of_ne_nil accepted.filled) (Base.value_lt accepted.inBase)
    exact counted.trans_lt short
  intro value
  refine ⟨fun nonnegative small => ?_, fun large => ?_, fun negative => ⟨?_, ?_, ?_⟩⟩
  · rw [outcome, if_neg (Int.not_lt.mpr small), scale_of_nonnegative nonnegative small]
  · rw [outcome, if_pos large]
  · have notLarge : ¬ 4096 < e := by omega
    rw [outcome, if_neg notLarge, scale_of_negative negative lengthBound]
  · exact div_eq_zero_of_length
  · exact iterate_div_ten value e.natAbs

/-- The zeros in front do not count as digits of the number, and of its six digits one is left. -/
theorem read_scaled_with_zeros :
    read "00123456e-5" = .ok (.integer 1) ∧ read "00123456e+2" = .ok (.integer 12345600) ∧
      read "00123456e4097" = .error (.exponentTooLarge 4097) := by
  have minus : WritesInt64 ['-', '5'] (-5) :=
    ⟨.minus (by decide), by decide, by decide⟩
  have plus : WritesInt64 ['+', '2'] 2 :=
    ⟨.plus (by decide), by decide, by decide⟩
  have large : WritesInt64 ['4', '0', '9', '7'] 4097 :=
    ⟨.unsigned (by decide), by decide, by decide⟩
  refine ⟨?_, ?_, ?_⟩
  · exact ((read_scaled "00123456" "-5" (-5) (by decide) (by decide) minus).2.2 (by decide)).1
  · exact (read_scaled "00123456" "+2" 2 (by decide) (by decide) plus).1 (by decide) (by decide)
  · exact (read_scaled "00123456" "4097" 4097 (by decide) (by decide) large).2.1 (by decide)

end Numeral

end DeclLang
