import DeclLang.Proofs.FrontEnd.Origin
import DeclLang.Proofs.Scan.Spelling
import DeclLang.Proofs.Syntax.Viability
import Mathlib.Algebra.Group.Nat.Even

/-!
# What a text can parse to

Where no token is an equals sign, every phrase is plain: a name and a type, and nothing more. Plain
phrases lie in pairs of tokens, so identifiers are a sequence of them exactly when there is an even
number. What is refused then asks for a declaration or for a type.

The scan of a text never yields an equals sign as an operator, so no run of a text ever declares a
value, whatever the grammar allows for tokens from elsewhere. A run without recovery is complete
just when the text is an even number of identifiers, which it pairs one after another.
-/

namespace DeclLang

/-- The declaration of a variable with its type and without a value, from the name token to the type
token. -/
def Declaration.plain (name type : Token) : Declaration :=
  .variable
    { span := ⟨name.span.source, name.span.start, type.span.finish⟩
      name := LocatedText.ofToken name
      type := some (TypeReference.ofName (LocatedText.ofToken type))
      value := none }

/-- Tokens of which none is an equals sign before a value. -/
def Token.Unassigning (tokens : List Token) : Prop :=
  ∀ t ∈ tokens, Reading.assigns t = false

namespace Phrase

/-- A phrase of a name and a type only. -/
def Plain (phrase : Phrase) : Prop :=
  phrase.assignment? = none

variable {phrase : Phrase} {phrases : List Phrase}

theorem Plain.tokens_eq (plain : phrase.Plain) : phrase.tokens = [phrase.name, phrase.type] := by
  rw [tokens, others, show phrase.assignment? = none from plain]
  rfl

theorem Plain.declaration_eq (plain : phrase.Plain) :
    phrase.declaration = .plain phrase.name phrase.type := by
  rw [declaration, last, show phrase.assignment? = none from plain]
  rfl

/-- A phrase without an equals sign among its tokens is plain. -/
theorem plain_of_unassigning (silent : Token.Unassigning phrase.tokens) : phrase.Plain := by
  cases present : phrase.assignment? with
  | none => exact present
  | some assignment =>
      have member : assignment.equals ∈ phrase.tokens := by
        simp [tokens, others, present, Assignment.tokens]
      have assigns := Reading.assigns_iff.mpr ⟨assignment.equals_kind, assignment.equals_text⟩
      rw [silent assignment.equals member] at assigns
      cases assigns

theorem plain_of_flatMap (silent : Token.Unassigning (phrases.flatMap tokens)) :
    ∀ phrase ∈ phrases, phrase.Plain := by
  intro phrase member
  refine plain_of_unassigning fun t inPhrase => silent t ?_
  exact List.mem_flatMap.mpr ⟨phrase, member, inPhrase⟩

theorem length_flatMap_tokens (plain : ∀ phrase ∈ phrases, phrase.Plain) :
    (phrases.flatMap tokens).length = 2 * phrases.length := by
  induction phrases with
  | nil => rfl
  | cons phrase phrases ih =>
      obtain ⟨first, others⟩ := List.forall_mem_cons.mp plain
      rw [List.flatMap_cons, List.length_append, ih others, first.tokens_eq]
      simp only [List.length_cons, List.length_nil]
      omega

/-- Plain phrases hold two tokens each, so that the place of a phrase gives the places of its
tokens. -/
theorem getElem?_flatMap_tokens (plain : ∀ phrase ∈ phrases, phrase.Plain) {i : Nat}
    (found : phrases[i]? = some phrase) :
    (phrases.flatMap tokens)[2 * i]? = some phrase.name ∧
      (phrases.flatMap tokens)[2 * i + 1]? = some phrase.type := by
  induction phrases generalizing i with
  | nil => cases found
  | cons head phrases ih =>
      obtain ⟨first, others⟩ := List.forall_mem_cons.mp plain
      rw [List.flatMap_cons, first.tokens_eq]
      cases i with
      | zero =>
          obtain rfl := Option.some.inj found
          exact ⟨rfl, rfl⟩
      | succ i => exact ih others found

theorem identifiers_flatMap_tokens (plain : ∀ phrase ∈ phrases, phrase.Plain) :
    ∀ t ∈ phrases.flatMap tokens, t.kind = .identifier := by
  intro t member
  obtain ⟨phrase, isPhrase, inPhrase⟩ := List.mem_flatMap.mp member
  rw [(plain phrase isPhrase).tokens_eq] at inPhrase
  simp only [List.mem_cons, List.not_mem_nil, or_false] at inPhrase
  rcases inPhrase with rfl | rfl
  · exact phrase.name_kind
  · exact phrase.type_kind

/-- An even number of identifiers is a sequence of phrases. -/
theorem exists_phrases_of_identifiers : (tokens : List Token) →
    (∀ t ∈ tokens, t.kind = .identifier) → Even tokens.length →
      ∃ phrases : List Phrase, tokens = phrases.flatMap Phrase.tokens
  | [], _, _ => ⟨[], rfl⟩
  | [_], _, even => absurd even Nat.not_even_one
  | name :: type :: rest, named, even => by
      have evenRest : Even rest.length := by
        rw [List.length_cons, List.length_cons, Nat.even_add_one, Nat.even_add_one, not_not] at even
        exact even
      obtain ⟨first, onward⟩ := List.forall_mem_cons.mp named
      obtain ⟨second, others⟩ := List.forall_mem_cons.mp onward
      obtain ⟨phrases, rfl⟩ := exists_phrases_of_identifiers rest others evenRest
      exact ⟨⟨name, type, none, first, second⟩ :: phrases, rfl⟩

end Phrase

namespace Reading

/-- Without an equals sign only a declaration or a type is asked for. -/
theorem Refusal.expected?_of_unassigning {tokens : List Token} {e : ParseError} {taken : Nat}
    (refusal : Refusal tokens e taken) (silent : Token.Unassigning tokens) :
    e.expected? = some .declaration ∨ e.expected? = some .type := by
  have noEquals : ∀ equals ∈ tokens, ¬ (equals.kind = .operator ∧ equals.text = "=") := by
    intro equals member
    rw [← assigns_iff, silent equals member]
    exact Bool.false_ne_true
  cases refusal with
  | noName found rest other => exact Or.inl rfl
  | endAfterName name named => exact Or.inr rfl
  | noType name found rest named other => exact Or.inr rfl
  | endAfterEquals name type equals named typed assigned =>
      exact absurd assigned (noEquals equals (by simp))
  | noValue name type equals found rest named typed assigned other =>
      exact absurd assigned (noEquals equals (by simp))
  | noNumber name type equals number rest e named typed assigned numbered malformed =>
      exact absurd assigned (noEquals equals (by simp))

end Reading

/-- Phrases picked from tokens without an equals sign are plain. -/
theorem Occurrence.Picked.plain {index : Nat} {tokens : List Token} {found : List Occurrence}
    (picked : Picked index tokens found) (silent : Token.Unassigning tokens) :
    ∀ occurrence ∈ found, occurrence.phrase.Plain := by
  intro occurrence member
  refine Phrase.plain_of_unassigning fun t inPhrase => silent t (picked.sublist.subset ?_)
  exact List.mem_flatMap.mpr ⟨occurrence, member, inPhrase⟩

namespace SourceUnit

/-- No scan yields an equals sign: alone it is a rune, and no comparison is one. -/
theorem unassigning_of_scanRecovering (name text : String) :
    Token.Unassigning (scanRecovering name text).1.tokens :=
  fun t member => (spelled_of_scanRecovering name text t member).assigns_eq_false

theorem unassigning_of_scan {name text : String} {unit : SourceUnit}
    (scanned : scan name text = .ok unit) : Token.Unassigning unit.tokens := by
  have silent := unassigning_of_scanRecovering name text
  rwa [scan_eq_ok_iff.mp scanned] at silent

/-- What a strict scan emits before it fails, the recovering scan emits too. -/
theorem spelled_of_strictTokens (name text : String) :
    ∀ t ∈ (strictTokens name text).1, t.Spelled := by
  obtain ⟨steps, finish, course, -, -⟩ := scan_eq_of_course name text
  have spelled := course.longestMatches.spelled
  rw [strictTokens, ScanStep.strict_of_course course, List.reverse_nil, List.nil_append]
  exact fun t member => spelled t ((ScanStep.beforeFailure_prefix steps).subset member)

end SourceUnit

namespace FrontEnd

variable {name text : String} {unit : SourceUnit} {tree : Tree}

/-- The declarations of a run are those of plain phrases. -/
theorem exists_plain_phrases {outcome : Outcome} (origin : outcome.Origin name text)
    (present : outcome.value? = some (unit, tree)) :
    ∃ found, Occurrence.Picked 0 unit.tokens found ∧
      tree.declarations =
        found.map fun occurrence => .plain occurrence.phrase.name occurrence.phrase.type := by
  obtain ⟨rfl, -, found, picked, declared⟩ := origin.value unit tree present
  have plain := picked.plain (SourceUnit.unassigning_of_scanRecovering name text)
  refine ⟨found, picked, ?_⟩
  rw [declared]
  exact List.map_congr_left fun occurrence member => (plain occurrence member).declaration_eq

/-- A strict run is complete exactly when its scan and its parse both succeed. -/
theorem runStrict_eq_complete_iff :
    runStrict name text = .ok (.complete unit tree) ↔
      SourceUnit.scan name text = .ok unit ∧ Tree.parse name unit.tokens = .ok (.ok tree) := by
  rw [runStrict]
  cases SourceUnit.scan name text with
  | error e => simp
  | ok scanned =>
      simp only [Except.ok.injEq]
      constructor
      · intro ended
        rcases parsed : Tree.parse name scanned.tokens with fault | (e | other)
        · rw [parsed] at ended
          cases ended
        · rw [parsed] at ended
          cases ended
        · rw [parsed] at ended
          cases ended
          exact ⟨rfl, parsed⟩
      · rintro ⟨rfl, parsed⟩
        rw [parsed]
        rfl

/-- A strict run that is complete has paired the identifiers of its text. -/
theorem exists_phrases_of_complete (complete : runStrict name text = .ok (.complete unit tree)) :
    ∃ phrases : List Phrase, SourceUnit.scan name text = .ok unit ∧
      unit.tokens = phrases.flatMap Phrase.tokens ∧ (∀ phrase ∈ phrases, phrase.Plain) ∧
      tree.declarations = phrases.map fun phrase => .plain phrase.name phrase.type := by
  obtain ⟨scanned, parsed⟩ := runStrict_eq_complete_iff.mp complete
  have inOrder := SourceUnit.inOrder_of_scan scanned
  obtain ⟨phrases, spelled⟩ := Tree.exists_phrases_of_parse inOrder parsed
  have plain : ∀ phrase ∈ phrases, phrase.Plain := by
    refine Phrase.plain_of_flatMap ?_
    rw [← spelled]
    exact SourceUnit.unassigning_of_scan scanned
  refine ⟨phrases, scanned, spelled, plain, ?_⟩
  rw [spelled] at inOrder parsed
  rw [Tree.parse_of_course name (Tree.course_flatMap phrases) inOrder] at parsed
  obtain rfl := Except.ok.inj (Except.ok.inj parsed)
  exact List.map_congr_left fun phrase member => (plain phrase member).declaration_eq

/-- An even number of identifiers completes a strict run. -/
theorem complete_of_identifiers (scanned : SourceUnit.scan name text = .ok unit)
    (named : ∀ t ∈ unit.tokens, t.kind = .identifier) (even : Even unit.tokens.length) :
    ∃ tree, runStrict name text = .ok (.complete unit tree) := by
  obtain ⟨phrases, spelled⟩ := Phrase.exists_phrases_of_identifiers unit.tokens named even
  have inOrder := SourceUnit.inOrder_of_scan scanned
  have course := Tree.course_flatMap phrases
  rw [← spelled] at course
  exact ⟨_, runStrict_eq_complete_iff.mpr ⟨scanned, Tree.parse_of_course name course inOrder⟩⟩

/-- No error of a run is about a number, and none asks for an expression. -/
theorem number_unreported {outcome : Outcome} (origin : outcome.Origin name text) {e : ParseError}
    (member : .parse e ∈ outcome.errors) :
    (∀ token number, e ≠ .malformedNumber token number) ∧ e.expected? ≠ some .expression := by
  rcases origin.errors _ member with
    ⟨scanError, -, same⟩ | ⟨rest, parseError, taken, within, refusal, same⟩
  · cases same
  obtain rfl := SourceError.parse.inj same
  have silent := SourceUnit.unassigning_of_scanRecovering name text
  have expected := refusal.expected?_of_unassigning fun t inRest => silent t (within.subset inRest)
  constructor
  · rintro token number rfl
    rcases expected with nothing | nothing <;> cases nothing
  · intro asksExpression
    rw [asksExpression] at expected
    revert expected
    decide

/-- A strict run is complete just when its text is an even number of identifiers. -/
theorem exists_complete_iff :
    (∃ unit tree, runStrict name text = .ok (.complete unit tree)) ↔
      ∃ unit, SourceUnit.scan name text = .ok unit ∧
        (∀ t ∈ unit.tokens, t.kind = .identifier) ∧ Even unit.tokens.length := by
  constructor
  · rintro ⟨unit, tree, complete⟩
    obtain ⟨phrases, scanned, spelled, plain, -⟩ := exists_phrases_of_complete complete
    refine ⟨unit, scanned, ?_, ?_⟩
    · rw [spelled]
      exact Phrase.identifiers_flatMap_tokens plain
    · rw [spelled, Phrase.length_flatMap_tokens plain]
      exact even_two_mul _
  · rintro ⟨unit, scanned, named, even⟩
    exact ⟨unit, complete_of_identifiers scanned named even⟩

/-- The declarations of a strict run that is complete pair the tokens of its unit. -/
theorem paired_of_complete (complete : runStrict name text = .ok (.complete unit tree)) :
    SourceUnit.scan name text = .ok unit ∧
      unit.tokens.length = 2 * tree.declarations.length ∧
      ∀ i declaration, tree.declarations[i]? = some declaration →
        ∃ first second, unit.tokens[2 * i]? = some first ∧
          unit.tokens[2 * i + 1]? = some second ∧ declaration = .plain first second := by
  obtain ⟨phrases, scanned, spelled, plain, declared⟩ := exists_phrases_of_complete complete
  rw [declared, spelled, Phrase.length_flatMap_tokens plain, List.length_map]
  refine ⟨scanned, rfl, fun i declaration found => ?_⟩
  rw [List.getElem?_map] at found
  obtain ⟨phrase, isPhrase, rfl⟩ := Option.map_eq_some_iff.mp found
  obtain ⟨first, second⟩ := Phrase.getElem?_flatMap_tokens plain isPhrase
  exact ⟨phrase.name, phrase.type, first, second, rfl⟩

/-- **What a text can parse to.** Every run of a text has an outcome in which all declarations are
variables with a type and without a value, and in which no error is about a number or asks for an
expression. Every number token that a scan emits is a run of decimal digits and reads as the whole
number that they write. Without recovery a run is complete exactly when the scan yields an even
number of identifiers and nothing else, and the declarations then pair these identifiers. -/
theorem run_declares_plain_variables (config : Config) (name text : String) :
    (∃ outcome, run config name text = .ok outcome ∧
      (∀ unit tree, outcome.value? = some (unit, tree) → ∀ declaration ∈ tree.declarations,
        ∃ declared type, declaration = .variable declared ∧ declared.type = some type ∧
          declared.value = none) ∧
      ∀ e, .parse e ∈ outcome.errors →
        (∀ token number, e ≠ .malformedNumber token number) ∧ e.expected? ≠ some .expression) ∧
    (∀ t ∈ (SourceUnit.strictTokens name text).1 ++ (SourceUnit.scanRecovering name text).1.tokens,
      t.kind = .number → t.text ≠ "" ∧ (∀ c ∈ t.text.toList, c.isDigit = true) ∧
        Numeral.read t.text = .ok (.integer (decimalValue t.text))) ∧
    (config.recover = false →
      ((∃ unit tree, run config name text = .ok (.complete unit tree)) ↔
        ∃ unit, SourceUnit.scan name text = .ok unit ∧
          (∀ t ∈ unit.tokens, t.kind = .identifier) ∧ Even unit.tokens.length) ∧
      ∀ unit tree, run config name text = .ok (.complete unit tree) →
        SourceUnit.scan name text = .ok unit ∧
        unit.tokens.length = 2 * tree.declarations.length ∧
        ∀ i declaration, tree.declarations[i]? = some declaration →
          ∃ first second, unit.tokens[2 * i]? = some first ∧
            unit.tokens[2 * i + 1]? = some second ∧ declaration = .plain first second) := by
  refine ⟨?_, ?_, fun strict => ?_⟩
  · obtain ⟨outcome, ended, origin⟩ := exists_outcome config name text
    refine ⟨outcome, ended, fun unit tree present declaration member => ?_, fun e member => ?_⟩
    · obtain ⟨found, -, declared⟩ := exists_plain_phrases origin present
      rw [declared] at member
      obtain ⟨occurrence, -, rfl⟩ := List.mem_map.mp member
      exact ⟨_, _, rfl, rfl, rfl⟩
    · exact number_unreported origin member
  · intro t member number
    have spelled : t.Spelled := by
      rcases List.mem_append.mp member with member | member
      · exact SourceUnit.spelled_of_strictTokens name text t member
      · exact SourceUnit.spelled_of_scanRecovering name text t member
    exact ⟨(spelled.digits number).1, (spelled.digits number).2, spelled.read_eq_ok number⟩
  · have isStrict : run config name text = runStrict name text := by
      rw [run, strict]
      rfl
    rw [isStrict]
    exact ⟨exists_complete_iff, fun unit tree complete => paired_of_complete complete⟩

/-- Two declarations over three lines. -/
def threeLines : SourceUnit where
  name := "main"
  text := "x Int\né\n_y2"
  lines := ⟨[0, 6, 9], 12⟩
  tokens :=
    [⟨.identifier, "x", "main", ⟨1, 1, 0⟩, ⟨1, 2, 1⟩⟩,
     ⟨.identifier, "Int", "main", ⟨1, 3, 2⟩, ⟨1, 6, 5⟩⟩,
     ⟨.identifier, "é", "main", ⟨2, 1, 6⟩, ⟨2, 2, 8⟩⟩,
     ⟨.identifier, "_y2", "main", ⟨3, 1, 9⟩, ⟨3, 4, 12⟩⟩]

theorem run_threeLines :
    Config.default.recover = false ∧ SourceUnit.scan "main" threeLines.text = .ok threeLines ∧
      ∃ unit tree, run .default "main" threeLines.text = .ok (.complete unit tree) ∧
        unit.tokens.length = 2 * tree.declarations.length ∧
        ∀ i declaration, tree.declarations[i]? = some declaration →
          ∃ first second, unit.tokens[2 * i]? = some first ∧
            unit.tokens[2 * i + 1]? = some second ∧ declaration = .plain first second := by
  have scanned : SourceUnit.scan "main" threeLines.text = .ok threeLines := by decide +kernel
  have strict : Config.default.recover = false := rfl
  obtain ⟨-, -, accepted⟩ := run_declares_plain_variables .default "main" threeLines.text
  obtain ⟨completes, paired⟩ := accepted strict
  obtain ⟨unit, tree, complete⟩ := completes.mpr ⟨threeLines, scanned, by decide, by decide⟩
  exact ⟨strict, scanned, unit, tree, complete, (paired unit tree complete).2⟩

end FrontEnd

end DeclLang
