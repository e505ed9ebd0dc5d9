import DeclLang.Proofs.Number.Classification

/-!
# Literals with a sign

A whole number is refused with a sign in front. A floating one is not: its sign is left to the
parser of floating numbers, which takes one. So a literal with a sign is what its rest is, with the
sign given to it, when the rest is floating and has no sign of its own, and is refused otherwise
(`DeclLang.Numeral.read_of_sign`). No other literal is negative.
-/

namespace DeclLang

/-- A decimal with a sign in place of its own. -/
def Decimal.withSign (negative : Bool) (d : Decimal) : Decimal :=
  { d with negative }

namespace Binary64

/-- A number with a sign in place of its own. -/
def withSign (negative : Bool) (x : Binary64) : Binary64 :=
  { x with negative }

variable {x : Binary64} {d : Decimal}

/-- The sign of a fraction is given to what it is rounded to, and decides nothing else. -/
theorem ofFraction?_withSign (negative other : Bool) (num den : Nat) :
    ofFraction? negative num den = (ofFraction? other num den).map (withSign negative) := by
  unfold ofFraction?
  dsimp only
  split <;> split <;> rfl

/-- Rounding keeps the sign and does not look at it. -/
theorem ofDecimal?_withSign (negative : Bool) (d : Decimal) :
    ofDecimal? (d.withSign negative) = (ofDecimal? d).map (withSign negative) := by
  obtain ⟨own, digits, power⟩ := d
  unfold ofDecimal? Decimal.withSign
  dsimp only
  split
  · rfl
  · split
    · rfl
    · cases power with
      | ofNat n => exact ofFraction?_withSign negative own _ _
      | negSucc n => exact ofFraction?_withSign negative own _ _

/-- A decimal is rounded to a number of the same sign. -/
theorem negative_of_ofDecimal? (rounded : ofDecimal? d = some x) : x.negative = d.negative := by
  have kept := ofDecimal?_withSign d.negative d
  change ofDecimal? d = _ at kept
  rw [rounded] at kept
  exact congrArg Binary64.negative (Option.some.inj kept)

end Binary64

/-- The sign of a number in front of its digits. -/
def sign (negative : Bool) : Char :=
  if negative then '-' else '+'

/-- A text that does not start with a sign. -/
def Unsigned (cs : List Char) : Prop :=
  ∀ negative, cs.head? ≠ some (sign negative)

variable {cs rest body : List Char} {negative : Bool}

/-- A text that is not unsigned starts with one of the two signs. -/
theorem exists_sign_of_not_unsigned (signed : ¬ Unsigned cs) :
    ∃ negative rest, cs = sign negative :: rest := by
  unfold Unsigned at signed
  push Not at signed
  obtain ⟨negative, first⟩ := signed
  obtain ⟨rest, split⟩ := List.head?_eq_some_iff.mp first
  exact ⟨negative, rest, split⟩

namespace Text

/-- The small letter of a character is at the distance of a run that starts at or before it, or it
is the character itself. -/
theorem CapitalRun.distanceIn_cases (runs : List CapitalRun) (point : Nat) :
    distanceIn runs point = 0 ∨
      ∃ run ∈ runs, run.first ≤ point ∧ distanceIn runs point = run.distance := by
  induction runs with
  | nil => exact Or.inl rfl
  | cons run runs ih =>
      unfold distanceIn
      by_cases before : point < run.first
      · rw [if_pos before]
        exact Or.inl rfl
      rw [if_neg before]
      by_cases held : run.holds point = true
      · rw [if_pos held]
        exact Or.inr ⟨run, List.mem_cons_self, Nat.le_of_not_lt before, rfl⟩
      rw [if_neg held]
      apply ih.imp_right
      intro found
      obtain ⟨other, member, reached, distance⟩ := found
      exact ⟨other, List.mem_cons_of_mem run member, reached, distance⟩

/-- A code point that is not the replacement for an invalid one is that of its character. -/
private theorem eq_of_toNat_ofNat {n m : Nat} (same : (Char.ofNat n).toNat = m) (positive : m ≠ 0) :
    n = m := by
  unfold Char.ofNat at same
  by_cases valid : n.isValidChar
  · rw [dif_pos valid] at same
    exact same
  · rw [dif_neg valid] at same
    exact absurd same.symm positive

/-- No capital has a sign for its small letter. -/
@[simp]
theorem head?_lowerCase (c : Char) :
    (lowerCase c).head? = some (sign negative) ↔ c = sign negative := by
  have low : (sign negative).toNat ≤ 0x2D ∧ (sign negative).toNat ≠ 0 := by
    cases negative <;> decide
  constructor
  · intro first
    unfold lowerCase at first
    by_cases dotted : c.toNat = 0x130
    · rw [if_pos dotted] at first
      cases negative <;> cases first
    rw [if_neg dotted] at first
    have lowered := Option.some.inj first
    rcases CapitalRun.distanceIn_cases CapitalRun.all c.toNat with
      zero | ⟨run, member, reached, far⟩
    · rw [zero, Int.add_zero, Int.toNat_natCast, Char.ofNat_toNat] at lowered
      exact lowered
    · -- The small letters of a run start where its first capital is sent, behind both signs.
      have above : ∀ run ∈ CapitalRun.all, 0x2D < (run.first : Int) + run.distance :=
        List.all_iff_forall_prop.mp (by decide)
      have further := above run member
      have point := eq_of_toNat_ofNat (congrArg Char.toNat lowered) low.2
      rw [far] at point
      omega
  · intro same
    rw [same]
    cases negative <;> rfl

/-- Making letters small neither removes a sign at the front nor brings one there. -/
@[simp]
theorem head?_flatMap_lowerCase (cs : List Char) :
    (cs.flatMap lowerCase).head? = some (sign negative) ↔ cs.head? = some (sign negative) := by
  cases cs with
  | nil => exact Iff.rfl
  | cons c cs =>
      have filled : lowerCase c ≠ [] := by
        unfold lowerCase
        split <;> exact List.cons_ne_nil _ _
      simp [List.head?_append_of_ne_nil _ filled]

/-- A text and the same text in small letters are both unsigned or both signed. -/
@[simp]
theorem unsigned_flatMap_lowerCase (cs : List Char) :
    Unsigned (cs.flatMap lowerCase) ↔ Unsigned cs := by
  simp [Unsigned]

end Text

namespace FloatText

@[simp]
theorem readSign_sign (negative : Bool) (rest : List Char) :
    readSign (sign negative :: rest) = (negative, rest) := by
  cases negative <;> rfl

/-- Without a sign in front, nothing is dropped and the number is not negative. -/
theorem readSign_of_unsigned (unsigned : Unsigned cs) : readSign cs = (false, cs) := by
  unfold readSign
  split
  · exact absurd rfl (unsigned true)
  · exact absurd rfl (unsigned false)
  · rfl

/-- A sign in front of an unsigned text is the sign of what the text writes. -/
theorem read?_sign (negative : Bool) (unsigned : Unsigned rest) :
    read? (sign negative :: rest) = (read? rest).map (Decimal.withSign negative) := by
  unfold read?
  rw [readSign_sign, readSign_of_unsigned unsigned]
  dsimp only
  split
  · rfl
  · rw [Option.map_map]
    rfl

/-- A second sign is no part of a number. -/
@[simp]
theorem read?_two_signs (negative negative' : Bool) (rest : List Char) :
    read? (sign negative :: sign negative' :: rest) = none := by
  unfold read?
  rw [readSign_sign]
  cases negative' <;> rfl

/-- A decimal has the sign that was read in front of it. -/
theorem negative_of_read? {d : Decimal} (found : read? cs = some d) :
    d.negative = (readSign cs).1 := by
  unfold read? at found
  dsimp only at found
  split at found
  · cases found
  · obtain ⟨power, -, rfl⟩ := Option.map_eq_some_iff.mp found
    rfl

/-- The mark of a base is no part of a floating number: it is a zero with a letter behind it. -/
theorem read?_of_mark {base : Base} (marked : base ≠ .decimal) (rest : List Char) :
    read? (base.mark ++ rest) = none := by
  cases base with
  | decimal => exact absurd rfl marked
  | binary => rfl
  | octal => rfl
  | hexadecimal => rfl

end FloatText

namespace Binary64

variable {x : Binary64}

/-- What a text with a sign is parsed as. -/
theorem ofText?_sign :
    ofText? (sign negative :: rest) = some x ↔
      Unsigned rest ∧ ∃ y, ofText? rest = some y ∧ y.withSign negative = x := by
  by_cases unsigned : Unsigned rest
  · have parsed : ofText? (sign negative :: rest) = (ofText? rest).map (withSign negative) := by
      unfold ofText?
      rw [FloatText.read?_sign negative unsigned]
      cases FloatText.read? rest with
      | none => rfl
      | some d => exact ofDecimal?_withSign negative d
    rw [parsed, Option.map_eq_some_iff]
    exact (and_iff_right unsigned).symm
  · have unparsed : ofText? (sign negative :: rest) = none := by
      obtain ⟨negative', rest, rfl⟩ := exists_sign_of_not_unsigned unsigned
      simp [ofText?]
    rw [unparsed]
    exact ⟨nofun, fun both => absurd both.1 unsigned⟩

/-- Without a sign in front, no text is parsed as a negative number. -/
theorem negative_of_ofText? (unsigned : Unsigned cs) (parsed : ofText? cs = some x) :
    x.negative = false := by
  obtain ⟨d, found, rounded⟩ := Option.bind_eq_some_iff.mp parsed
  rw [negative_of_ofDecimal? rounded, FloatText.negative_of_read? found,
    FloatText.readSign_of_unsigned unsigned]

end Binary64

namespace Numeral

variable {x : Binary64} {size : FloatSize} {value : Nat}

/-- A sign in front does not change which character is last, a lone sign apart. -/
theorem getLast?_sign {c : Char} (other : sign negative ≠ c) :
    (sign negative :: rest).getLast? = some c ↔ rest.getLast? = some c := by
  rw [List.getLast?_cons]
  cases rest.getLast? with
  | none => simp [other]
  | some last => rfl

/-- A suffix stands behind the sign. -/
theorem suffixed_sign :
    Suffixed (sign negative :: rest) body size ↔
      ∃ inner, body = sign negative :: inner ∧ Suffixed rest inner size := by
  have notF : sign negative ≠ 'f' := by cases negative <;> decide
  have notD : sign negative ≠ 'd' := by cases negative <;> decide
  constructor
  · intro suffixed
    generalize signed : sign negative :: rest = cs at suffixed
    cases suffixed with
    | single =>
        cases body with
        | nil => exact absurd (List.cons.inj signed).1 notF
        | cons c inner =>
            obtain ⟨rfl, rfl⟩ := List.cons.inj signed
            exact ⟨inner, rfl, .single inner⟩
    | double =>
        cases body with
        | nil => exact absurd (List.cons.inj signed).1 notD
        | cons c inner =>
            obtain ⟨rfl, rfl⟩ := List.cons.inj signed
            exact ⟨inner, rfl, .double inner⟩
    | unmarked notSingle notDouble =>
        subst signed
        exact ⟨rest, rfl, .unmarked (mt (getLast?_sign notF).mpr notSingle)
          (mt (getLast?_sign notD).mpr notDouble)⟩
  · intro suffixed
    obtain ⟨inner, rfl, suffixed⟩ := suffixed
    cases suffixed with
    | single => exact .single (sign negative :: inner)
    | double => exact .double (sign negative :: inner)
    | unmarked notSingle notDouble =>
        exact .unmarked (mt (getLast?_sign notF).mp notSingle)
          (mt (getLast?_sign notD).mp notDouble)

/-- Whether a literal has a sign can be told without its suffix. -/
theorem unsigned_iff_of_suffixed (suffixed : Suffixed cs body size) :
    Unsigned cs ↔ Unsigned body := by
  have letters : Unsigned ['f'] ∧ Unsigned ['d'] ∧ Unsigned [] := by
    unfold Unsigned
    decide
  cases suffixed with
  | single =>
      cases body with
      | nil => exact iff_of_true letters.1 letters.2.2
      | cons c inner => exact Iff.rfl
  | double =>
      cases body with
      | nil => exact iff_of_true letters.2.1 letters.2.2
      | cons c inner => exact Iff.rfl
  | unmarked notSingle notDouble => exact Iff.rfl

/-- Behind a sign, no mark of a base is looked for. -/
theorem unmarked_sign (negative : Bool) (rest : List Char) : Unmarked (sign negative :: rest) := by
  have notZero : '0' ≠ sign negative := by cases negative <;> decide
  intro base marked isMark
  obtain ⟨more, split⟩ := isMark
  cases base with
  | decimal => exact marked rfl
  | binary => exact notZero (List.cons.inj split).1
  | octal => exact notZero (List.cons.inj split).1
  | hexadecimal => exact notZero (List.cons.inj split).1

/-- What is parsed as a floating number has no mark of a base. -/
theorem unmarked_of_parsed (suffixed : Suffixed cs body size)
    (parsed : Binary64.ofText? body = some x) : Unmarked cs := by
  intro base marked isMark
  have notSuffix : base.mark.getLast? ≠ some 'f' ∧ base.mark.getLast? ≠ some 'd' := by
    cases base <;> decide
  have inBody : base.mark <+: body := by
    cases suffixed with
    | single =>
        apply (List.prefix_concat_iff.mp isMark).resolve_left
        intro whole
        exact notSuffix.1 (by rw [whole, List.getLast?_concat])
    | double =>
        apply (List.prefix_concat_iff.mp isMark).resolve_left
        intro whole
        exact notSuffix.2 (by rw [whole, List.getLast?_concat])
    | unmarked notSingle notDouble => exact isMark
  obtain ⟨more, rfl⟩ := inBody
  unfold Binary64.ofText? at parsed
  rw [FloatText.read?_of_mark marked] at parsed
  cases parsed

/-- A floating literal with a sign is one without, with the sign in front. -/
theorem floats_sign :
    Floats (sign negative :: rest) x size ↔
      Unsigned rest ∧ ∃ y, Floats rest y size ∧ y.withSign negative = x := by
  have notPeriod : sign negative ≠ '.' := by cases negative <;> decide
  have samePeriods : (sign negative :: rest).count '.' = rest.count '.' :=
    List.count_cons_of_ne notPeriod
  have samePeriod : '.' ∈ sign negative :: rest ↔ '.' ∈ rest := by
    simp [notPeriod.symm]
  constructor
  · intro floats
    obtain ⟨floating, single, parsed⟩ := floats
    obtain ⟨inner, rfl, suffixed⟩ := suffixed_sign.mp floating.suffixed
    obtain ⟨unsigned, y, parsed, signed⟩ := Binary64.ofText?_sign.mp parsed
    have floating : Floating rest inner size :=
      ⟨unmarked_of_parsed suffixed parsed, suffixed, floating.announced.imp_left samePeriod.mp⟩
    rw [samePeriods] at single
    exact ⟨(unsigned_iff_of_suffixed suffixed).mpr unsigned, y, .finite floating single parsed,
      signed⟩
  · intro both
    obtain ⟨unsigned, y, ⟨floating, single, parsed⟩, signed⟩ := both
    have floating' : Floating (sign negative :: rest) _ size :=
      ⟨unmarked_sign negative rest, suffixed_sign.mpr ⟨_, rfl, floating.suffixed⟩,
        floating.announced.imp_left samePeriod.mpr⟩
    rw [← samePeriods] at single
    have unsignedBody := (unsigned_iff_of_suffixed floating.suffixed).mp unsigned
    exact .finite floating' single (Binary64.ofText?_sign.mpr ⟨unsignedBody, y, parsed, signed⟩)

theorem Floats.negative_of_unsigned (unsigned : Unsigned cs) (floats : Floats cs x size) :
    x.negative = false := by
  obtain ⟨floating, -, parsed⟩ := floats
  exact Binary64.negative_of_ofText? ((unsigned_iff_of_suffixed floating.suffixed).mp unsigned)
    parsed

/-- Digits have no sign in front, whatever comes after them. -/
theorem unsigned_of_accepted {base : Base} (accepted : base.Accepts cs) (rest : List Char) :
    Unsigned (cs ++ rest) := by
  obtain ⟨c, digits, rfl⟩ := List.exists_cons_of_ne_nil accepted.filled
  intro negative first
  obtain rfl := Option.some.inj first
  have digit := accepted.inBase (sign negative) List.mem_cons_self
  revert digit
  cases base <;> cases negative <;> decide

/-- No whole number has a sign. -/
theorem Whole.unsigned (whole : Whole cs value) : Unsigned cs := by
  cases whole with
  | @digits base cs accepted =>
      by_cases decimal : base = .decimal
      · subst decimal
        have unsigned := unsigned_of_accepted accepted []
        rwa [List.append_nil] at unsigned
      · intro negative first
        obtain ⟨rest, split⟩ := List.head?_eq_some_iff.mp first
        have unmarked := unmarked_sign negative rest base decimal
        rw [← split] at unmarked
        exact unmarked (List.prefix_append _ _)
  | scaled accepted int64 small => exact unsigned_of_accepted accepted _

theorem normalized_sign {text : String}
    (signed : text.toList.filter (· != '_') = sign negative :: rest) :
    normalized text = sign negative :: rest.flatMap Text.lowerCase := by
  have small : Text.lowerCase (sign negative) = [sign negative] := by
    cases negative <;> rfl
  unfold normalized
  rw [signed, List.flatMap_cons, small]
  rfl

/-- The rest behind a sign, underscores already dropped, has nothing left to drop. -/
theorem normalized_rest {text : String}
    (signed : text.toList.filter (· != '_') = sign negative :: rest) :
    normalized (String.ofList rest) = rest.flatMap Text.lowerCase := by
  have kept : rest.filter (· != '_') = rest := by
    apply List.filter_eq_self.mpr
    intro c member
    have inText : c ∈ text.toList.filter (· != '_') := by
      rw [signed]
      exact List.mem_cons_of_mem _ member
    exact (List.mem_filter.mp inText).2
  unfold normalized
  rw [String.toList_ofList, kept]

/-- **Signs of literals.** A literal with a sign in front is what its rest is, with the sign given to
it, if the rest is a floating literal without a sign. Otherwise it is refused. So whole numbers have
no sign, and just those floating ones are negative that start with a minus. -/
theorem read_of_sign (text : String) :
    (∀ negative rest, text.toList.filter (· != '_') = sign negative :: rest →
      (∀ x size, Unsigned rest → read (String.ofList rest) = .ok (.float x size) →
        read text = .ok (.float (x.withSign negative) size)) ∧
      ((¬ ∃ x size, Unsigned rest ∧ read (String.ofList rest) = .ok (.float x size)) →
        ∃ error, read text = .error error)) ∧
    ∀ x size, read text = .ok (.float x size) →
      (x.negative = true ↔ (text.toList.filter (· != '_')).head? = some '-') := by
  constructor
  · intro negative rest signed
    -- What is read is told by the classification, in which the sign can be taken off.
    have floats : ∀ x size, read text = .ok (.float x size) ↔ Unsigned rest ∧
        ∃ y, read (String.ofList rest) = .ok (.float y size) ∧ y.withSign negative = x := by
      intro x size
      simp only [read_eq_iff, Classified, normalized_sign signed, normalized_rest signed,
        floats_sign, Text.unsigned_flatMap_lowerCase]
    constructor
    · intro x size unsigned floating
      exact (floats _ size).mpr ⟨unsigned, x, floating, rfl⟩
    · intro notFloating
      cases outcome : read text with
      | error error => exact ⟨error, rfl⟩
      | ok numeral =>
          cases numeral with
          | integer value =>
              have whole : Whole (normalized text) value := read_eq_iff.mp outcome
              rw [normalized_sign signed] at whole
              exact absurd rfl (whole.unsigned negative)
          | float x size =>
              obtain ⟨unsigned, y, floating, -⟩ := (floats x size).mp outcome
              exact absurd ⟨y, size, unsigned, floating⟩ notFloating
  · intro x size outcome
    have floats : Floats (normalized text) x size := read_eq_iff.mp outcome
    by_cases unsigned : Unsigned (text.toList.filter (· != '_'))
    · have positive :=
        floats.negative_of_unsigned ((Text.unsigned_flatMap_lowerCase _).mpr unsigned)
      rw [positive]
      exact iff_of_false Bool.false_ne_true (unsigned true)
    · obtain ⟨negative, rest, signed⟩ := exists_sign_of_not_unsigned unsigned
      rw [normalized_sign signed, floats_sign] at floats
      obtain ⟨-, y, -, rfl⟩ := floats
      change negative = true ↔ _
      rw [signed]
      cases negative <;> simp [sign]

/-- The minus is given to the floating `1.5F`, and only a minus makes it negative. The whole number
`1` takes no sign. -/
theorem read_minus_with_underscores :
    read "_-1_.5F" = .ok (.float ⟨true, 0x18000000000000, -52⟩ .single) ∧
      ("_-1_.5F".toList.filter (· != '_')).head? = some '-' ∧
      ∃ error, read "+1" = .error error := by
  have floating : read "1.5F" = .ok (.float ⟨false, 0x18000000000000, -52⟩ .single) := by
    decide +kernel
  have whole : read "1" = .ok (.integer 1) := by
    decide +kernel
  have minus : read "_-1_.5F" = .ok (.float ⟨true, 0x18000000000000, -52⟩ .single) :=
    ((read_of_sign "_-1_.5F").1 true ['1', '.', '5', 'F'] (by decide)).1
      ⟨false, 0x18000000000000, -52⟩ .single (by unfold Unsigned; decide) floating
  refine ⟨minus, ((read_of_sign "_-1_.5F").2 _ _ minus).mp rfl, ?_⟩
  apply ((read_of_sign "+1").1 false ['1'] (by decide)).2
  intro found
  obtain ⟨x, size, -, floating⟩ := found
  cases whole.symm.trans floating

/-- A floating literal with a minus is a negative number. -/
theorem read_minus_one_and_a_half :
    ("-1.5".toList.filter (· != '_')).head? = some '-' ∧
      read "-1.5" = .ok (.float ⟨true, 0x18000000000000, -52⟩ .unmarked) := by
  decide +kernel

end Numeral

end DeclLang
