import DeclLang.Proofs.Number.Literals
import DeclLang.Proofs.Scan.LongestMatches
import DeclLang.Syntax.Parse

/-!
# How tokens are spelled

A token of a scan is a word of the rule for its kind. So an operator is a comparison and never a
lone equals sign, which is a rune instead, and a number is a run of decimal digits and nothing else
of what a number literal can be.
-/

namespace DeclLang

/-- Tokens of one kind follow one rule. -/
theorem Rule.eq_of_kind? {rule rule' : Rule} {kind : TokenKind} (kinded : rule.kind? = some kind)
    (kinded' : rule'.kind? = some kind) : rule' = rule := by
  cases rule <;> cases kinded <;> cases rule' <;> cases kinded' <;> rfl

namespace Token

/-- A token that is a rune, or else a word of the rule for its kind. -/
def Spelled (t : Token) : Prop :=
  t.kind ≠ .rune → ∃ rule : Rule, rule.kind? = some t.kind ∧ t.text.toList ∈ rule.language

variable {t : Token}

/-- A token other than a rune is a word of the rule that gave it its kind. -/
theorem Spelled.mem_language (spelled : t.Spelled) {rule : Rule} (kinded : rule.kind? = some t.kind)
    (other : t.kind ≠ .rune) : t.text.toList ∈ rule.language := by
  obtain ⟨rule', kinded', member⟩ := spelled other
  rwa [Rule.eq_of_kind? kinded kinded'] at member

/-- No operator of a scan gives a declaration its value. -/
theorem Spelled.assigns_eq_false (spelled : t.Spelled) : Reading.assigns t = false := by
  by_contra assigns
  rw [Bool.not_eq_false] at assigns
  obtain ⟨kind, text⟩ : t.kind = .operator ∧ t.text = "=" := by
    simpa [Reading.assigns, is] using assigns
  have kinded : Rule.comparison.kind? = some t.kind := by rw [kind]; rfl
  have member := spelled.mem_language kinded (by rw [kind]; exact TokenKind.noConfusion)
  obtain ⟨c, -, word⟩ := Rule.mem_language_comparison.mp member
  rw [text] at word
  cases word

/-- A number token is digits and nothing else, and at least one of them. -/
theorem Spelled.digits (spelled : t.Spelled) (number : t.kind = .number) :
    t.text ≠ "" ∧ ∀ c ∈ t.text.toList, c.isDigit = true := by
  have kinded : Rule.number.kind? = some t.kind := by rw [number]; rfl
  have member := spelled.mem_language kinded (by rw [number]; exact TokenKind.noConfusion)
  obtain ⟨c, others, word, first, later⟩ := Rule.mem_run.mp member
  rw [word]
  refine ⟨?_, List.forall_mem_cons.mpr ⟨first, later⟩⟩
  intro empty
  rw [empty] at word
  cases word

/-- A number of a scan reads as the whole number that its decimal digits write. -/
theorem Spelled.read_eq_ok (spelled : t.Spelled) (number : t.kind = .number) :
    Numeral.read t.text = .ok (.integer (decimalValue t.text)) :=
  Numeral.read_of_digits (spelled.digits number).1 (spelled.digits number).2

end Token

namespace ScanStep

variable {source : String} {here finish : Cursor} {cs : List Char} {steps : List ScanStep}

/-- What a match yields is spelled as its kind asks. -/
theorem Match.spelled {here : Location} {text piece : List Char} {step? : Option ScanStep}
    (found : Match source here text piece step?) : ∀ step ∈ step?, step.emitted.Spelled := by
  rintro step isStep other
  cases found with
  | blank wins => cases isStep
  | @token rule kind piece kinded wins =>
      obtain rfl := Option.some.inj isStep
      refine ⟨rule, kinded, ?_⟩
      rw [emitted, ScanStep.piece, String.toList_ofList]
      exact wins.accepted
  | unclosedString wins =>
      obtain rfl := Option.some.inj isStep
      exact absurd rfl other
  | loneOperator wins =>
      obtain rfl := Option.some.inj isStep
      exact absurd rfl other
  | unrecognized first noRule =>
      obtain rfl := Option.some.inj isStep
      exact absurd rfl other

/-- All tokens of a scan are spelled as their kinds ask. -/
theorem LongestMatches.spelled {here : Location} (matched : LongestMatches source here cs steps) :
    ∀ t ∈ steps.map emitted, t.Spelled := by
  induction matched with
  | finished here => simp
  | @matched here piece rest step? steps first later ih =>
      intro t member
      rw [List.map_append, List.mem_append] at member
      rcases member with member | member
      · obtain ⟨step, isStep, rfl⟩ := List.mem_map.mp member
        exact first.spelled step (Option.mem_toList.mp isStep)
      · exact ih t member

end ScanStep

namespace SourceUnit

theorem spelled_of_scanRecovering (name text : String) :
    ∀ t ∈ (scanRecovering name text).1.tokens, t.Spelled := by
  obtain ⟨steps, finish, course, recovered, -⟩ := scan_eq_of_course name text
  rw [recovered]
  exact course.longestMatches.spelled

end SourceUnit

end DeclLang
