import DeclLang.Proofs.FrontEnd.Faithful
import DeclLang.Proofs.Scan.Runes
import Mathlib.Algebra.Group.Nat.Even
import Mathlib.Data.List.Forall2

/-!
# Scan errors and runes correspond

A recovering scan has one error for each rune, in the same order and at the start of the rune
(`DeclLang.SourceUnit.errors_answer_runes`). What an error says is true of its rune: a character or
a sign is all that the rune is, a sign that could begin a comparison has no equals sign after it,
and a string that is never closed goes on to the end of the text without a quote that could close
it. A quote closes a string unless an odd number of backslashes stands before it, since every
backslash escapes the character after it and an escaped backslash escapes nothing.
-/

namespace DeclLang

open scoped Computability

namespace Lexeme

/-- Some characters that escape the one after them: they end with an odd number of backslashes. -/
def Escapes (before : List Char) : Prop :=
  ∃ front count, before = front ++ List.replicate count '\\' ∧ front.getLast? ≠ some '\\' ∧
    Odd count

/-- A character that is no backslash leaves what comes after it escaped as before. -/
theorem Escapes.cons_of_ne {c : Char} {before : List Char} (escapes : Escapes before)
    (plain : c ≠ '\\') : Escapes (c :: before) := by
  obtain ⟨front, count, rfl, ends, odd⟩ := escapes
  refine ⟨c :: front, count, rfl, ?_, odd⟩
  cases front with
  | nil => exact fun backslash => plain (Option.some.inj backslash)
  | cons d front => rwa [List.getLast?_cons_cons]

/-- An escaped character in front changes nothing. -/
theorem Escapes.cons_escaped {before : List Char} (escapes : Escapes before) (c : Char) :
    Escapes ('\\' :: c :: before) := by
  obtain ⟨front, count, rfl, ends, odd⟩ := escapes
  cases front with
  | nil =>
      by_cases backslash : c = '\\'
      · subst backslash
        exact ⟨[], count + 2, rfl, ends, odd.add_even even_two⟩
      · refine ⟨['\\', c], count, rfl, ?_, odd⟩
        exact fun last => backslash (Option.some.inj last)
  | cons d front =>
      refine ⟨'\\' :: c :: d :: front, count, rfl, ?_, odd⟩
      rwa [List.getLast?_cons_cons, List.getLast?_cons_cons]

/-- Every quote inside a string that is never closed is escaped. -/
theorem escapes_of_items {body ending : List Char} (items : body ∈ Rule.stringItem∗)
    (ended : ending = [] ∨ ending = ['\\']) {inner after : List Char}
    (split : body ++ ending = inner ++ '"' :: after) : Escapes inner := by
  obtain ⟨pieces, rfl, accepted⟩ := Language.mem_kstar.mp items
  clear items
  induction pieces generalizing inner with
  | nil =>
      have noQuote : '"' ∉ ending := by rcases ended with rfl | rfl <;> simp
      apply absurd _ noQuote
      rw [← List.nil_append ending, ← List.flatten_nil, split]
      exact List.mem_append_cons_self
  | cons piece pieces ih =>
      obtain ⟨first, onward⟩ := List.forall_mem_cons.mp accepted
      rw [List.flatten_cons, List.append_assoc] at split
      rcases Rule.cases_of_mem_stringItem first with ⟨c, noQuote, noBackslash, rfl⟩ | ⟨c, rfl⟩
      · cases inner with
        | nil => exact absurd (List.cons.inj split).1 noQuote
        | cons d inner =>
            obtain ⟨rfl, later⟩ := List.cons.inj split
            exact (ih onward later).cons_of_ne noBackslash
      · cases inner with
        | nil => cases split
        | cons d inner =>
            obtain ⟨rfl, later⟩ := List.cons.inj split
            cases inner with
            -- The quote is the escaped character itself: one backslash stands before it.
            | nil => exact ⟨[], 1, rfl, by simp, odd_one⟩
            | cons e inner =>
                obtain ⟨rfl, beyond⟩ := List.cons.inj later
                exact (ih onward beyond).cons_escaped c

/-- The four signs that an equals sign may follow start comparisons. -/
theorem startsComparison_of_mem {c : Char} (compares : c ∈ ['=', '!', '<', '>']) :
    startsComparison c = true := by
  simpa [startsComparison, or_assoc] using compares

variable {c : Char} {rest after : List Char} {lexeme : Lexeme}

/-- A lone sign is not the first of the two characters of a comparison. -/
theorem head?_ne_equals_of_read (read : Lexeme.read c rest = (lexeme, after))
    (lone : lexeme.rule = some .loneOperator) (compares : startsComparison c = true) :
    rest.head? ≠ some '=' := by
  intro equals
  obtain ⟨tail, rfl⟩ := List.head?_eq_some_iff.mp equals
  obtain ⟨alone, -⟩ := loneOperator_of_read read lone
  have found := wins_or_noneStarts c ('=' :: tail)
  rw [read, alone] at found
  rcases found with ⟨rule, -, wins⟩ | ⟨unruled, -⟩
  · have shorter := wins.longest .comparison [c, '='] (List.prefix_append [c, '='] tail)
      (Rule.mem_language_comparison.mpr ⟨c, compares, rfl⟩)
    exact absurd shorter (by simp [chars])
  · cases unruled

/-- In a string that is never closed every later quote is escaped. -/
theorem escapes_of_read (read : Lexeme.read c rest = (lexeme, after))
    (unclosed : lexeme.rule = some .unclosedString) {inner beyond : List Char}
    (split : rest = inner ++ '"' :: beyond) : Escapes inner := by
  obtain ⟨rfl, rfl⟩ := unclosedString_of_read read unclosed
  have whole := append_of_read read
  have found := wins_or_noneStarts '"' rest
  rw [read] at found
  rcases found with ⟨rule, isRule, wins⟩ | ⟨unruled, -⟩
  · obtain rfl := Option.some.inj (unclosed.symm.trans isRule)
    obtain ⟨body, items, spelled⟩ := Rule.mem_language_unclosedString.mp wins.accepted
    rw [List.append_nil] at whole
    simp only [whole] at spelled
    rcases spelled with plain | backslashed
    · apply escapes_of_items items (Or.inl rfl)
      rw [List.append_nil, ← (List.cons.inj plain).2, split]
    · apply escapes_of_items items (Or.inr rfl)
      exact (List.cons.inj backslashed).2.symm.trans split
  · rw [show lexeme = _ from unruled] at unclosed
    cases unclosed

end Lexeme

/-- The runes among some tokens. -/
def Token.runes (tokens : List Token) : List Token :=
  tokens.filter fun t => t.kind = .rune

namespace ScanError

/-- Whether an error is about a string that is never closed. -/
def isUnclosed : ScanError → Bool
  | .unterminatedString _ => true
  | .unrecognizedCharacter _ _ | .malformedOperator _ _ => false

/-- What an error says of a rune among the tokens of a text, and where it says it. -/
inductive Explains (text : List Char) (tokens : List Token) (rune : Token) : ScanError → Prop
  | character {c : Char} (spelled : rune.text.toList = [c]) :
      Explains text tokens rune (.unrecognizedCharacter rune.span.startPosition c)
  | sign {before after : List Char} {c : Char} (split : text = before ++ c :: after)
      (placed : Utf8.size before = rune.span.start.offset) (spelled : rune.text.toList = [c])
      (isSign : c ∈ ['+', '-', '*', '/', '=', '<', '>', '!'])
      (alone : c ∈ ['=', '!', '<', '>'] → after.head? ≠ some '=') :
      Explains text tokens rune (.malformedOperator rune.span.startPosition c)
  | openQuote {before body : List Char} (split : text = before ++ '"' :: body)
      (placed : Utf8.size before = rune.span.start.offset)
      (spelled : rune.text.toList = '"' :: body)
      (unclosed : ∀ inner after, body = inner ++ '"' :: after → Lexeme.Escapes inner)
      (ended : rune.span.finish.offset = Utf8.size text)
      (isLast : tokens.getLast? = some rune) :
      Explains text tokens rune (.unterminatedString rune.span.startPosition)

variable {text : List Char} {tokens : List Token} {rune : Token} {e : ScanError}

/-- An error is found where the rune that it explains starts. -/
theorem Explains.position_eq (explains : Explains text tokens rune e) :
    e.position = rune.span.startPosition := by
  cases explains with
  | character spelled => rfl
  | sign split placed spelled isSign alone => rfl
  | openQuote split placed spelled unclosed ended isLast => rfl

variable {runes : List Token} {errors : List ScanError}

/-- Errors explained by runes in turn have the places of the runes, so they are in order as the
runes are. -/
theorem positions_of_explained
    (explained : List.Forall₂ (fun rune e => e.Explains text tokens rune) runes errors) :
    errors.map position = runes.map (·.span.startPosition) := by
  have same := explained.imp fun rune e explains => explains.position_eq
  have mapped : List.Forall₂ (fun p q => q = p) (runes.map (·.span.startPosition))
      (errors.map position) :=
    List.forall₂_map_left_iff.mpr (List.forall₂_map_right_iff.mpr same)
  have equal := mapped.flip
  exact List.forall₂_eq_eq_eq ▸ equal

/-- A string that is never closed is reported at the last token. -/
theorem position_of_unclosed
    (explained : List.Forall₂ (fun rune e => e.Explains text tokens rune) runes errors)
    (member : e ∈ errors) (unclosed : e.isUnclosed = true) :
    tokens.getLast?.map (·.span.startPosition) = some e.position := by
  obtain ⟨index, inside, rfl⟩ := List.getElem_of_mem member
  obtain ⟨sameLength, each⟩ := List.forall₂_iff_get.mp explained
  have explains : errors[index].Explains text tokens _ :=
    each index (sameLength.symm ▸ inside) inside
  rw [explains.position_eq]
  generalize errors[index] = e at explains unclosed
  cases explains with
  | character spelled => cases unclosed
  | sign split placed spelled isSign alone => cases unclosed
  | openQuote split placed spelled escaped ended isLast => rw [isLast, Option.map_some]

/-- No two errors at different places are about strings that are never closed. -/
theorem length_unclosed_le
    (explained : List.Forall₂ (fun rune e => e.Explains text tokens rune) runes errors)
    (increasing : errors.Pairwise fun e e' => e.position.location < e'.position.location) :
    (errors.filter isUnclosed).length ≤ 1 := by
  have apart := increasing.filter isUnclosed
  have unclosed : ∀ e ∈ errors.filter isUnclosed,
      tokens.getLast?.map (·.span.startPosition) = some e.position := fun e member =>
    position_of_unclosed explained (List.mem_filter.mp member).1 (List.mem_filter.mp member).2
  generalize errors.filter isUnclosed = found at apart unclosed
  match found with
  | [] => exact Nat.zero_le 1
  | [_] => exact le_refl 1
  | e :: e' :: others =>
      have first := unclosed e List.mem_cons_self
      have second := unclosed e' (List.mem_cons_of_mem e List.mem_cons_self)
      have before := List.rel_of_pairwise_cons apart List.mem_cons_self
      rw [Option.some.inj (first.symm.trans second)] at before
      exact absurd before (lt_irrefl _)

end ScanError

namespace ScanStep

variable {source : String} {c : Char} {rest after : List Char} {lexeme : Lexeme}
  {step : ScanStep}

/-- The error of a step explains its rune, in the text around the lexeme. -/
theorem explains_of_ofLexeme? {here : Location} (read : Lexeme.read c rest = (lexeme, after))
    (found : ofLexeme? source lexeme here (here.advanceAll lexeme.chars) = some step)
    {before : List Char} (placed : Utf8.size before = here.offset) {tokens : List Token}
    (isLast : after = [] → tokens.getLast? = some step.emitted) :
    ∀ e ∈ step.error?, e.Explains (before ++ c :: rest) tokens step.emitted := by
  intro e failed
  have first := Lexeme.first_read c rest
  rw [read] at first
  rw [ofLexeme?] at found
  -- White space yields no step and the four rules with a kind yield no error: three cases are left.
  split at found
  next => cases found
  next => cases found; cases failed
  next => cases found; cases failed
  next => cases found; cases failed
  next => cases found; cases failed
  next unclosed =>
    obtain ⟨quote, ended⟩ := Lexeme.unclosedString_of_read read unclosed
    have whole := Lexeme.append_of_read read
    rw [ended, List.append_nil] at whole
    subst quote
    cases found
    cases failed
    refine .openQuote rfl placed ?_ ?_ ?_ (isLast ended)
    · rw [emitted, String.toList_ofList, whole]
    · intro inner beyond split
      exact Lexeme.escapes_of_read read unclosed split
    · simp [emitted, whole, placed, Nat.add_assoc]
  next lone =>
    obtain ⟨alone, sign⟩ := Lexeme.loneOperator_of_read read lone
    have noComparison := Lexeme.head?_ne_equals_of_read read lone
    cases found
    cases failed
    rw [first]
    refine .sign rfl placed ?_ ?_ ?_
    · rw [emitted, String.toList_ofList, alone]
      rfl
    · exact List.contains_iff_mem.mp ((Lexeme.contains_signs c).trans sign)
    · exact fun compares => noComparison (Lexeme.startsComparison_of_mem compares)
  next unruled =>
    obtain ⟨alone, -, -⟩ := Lexeme.unruled_of_read read unruled
    cases found
    cases failed
    rw [first]
    apply ScanError.Explains.character
    rw [emitted, String.toList_ofList, alone]
    rfl

namespace Course

variable {here finish : Cursor} {cs : List Char} {steps : List ScanStep}

/-- What a lexeme adds to the text before the cursor. -/
private theorem size_before {before : List Char} (placed : Utf8.size before = here.location.offset)
    (cs : List Char) : Utf8.size (before ++ cs) = (here.advanceAll cs).location.offset := by
  simp [placed]

/-- Each error of a scan explains one rune, in order. -/
theorem explains (course : Course source here cs steps finish) {before : List Char}
    (placed : Utf8.size before = here.location.offset) (earlier : List Token) :
    List.Forall₂ (fun rune e => e.Explains (before ++ cs) (earlier ++ steps.map emitted) rune)
      (Token.runes (steps.map emitted)) (steps.filterMap error?) := by
  induction course generalizing before earlier with
  | finished here => exact .nil
  | @skipped here c rest after lexeme steps finish read blank later ih =>
      have explained := ih (size_before placed lexeme.chars) earlier
      rwa [List.append_assoc, Lexeme.append_of_read read] at explained
  | @taken here c rest after lexeme step steps finish read found later ih =>
      have explained := ih (size_before placed lexeme.chars) (earlier ++ [step.emitted])
      rw [List.append_assoc, Lexeme.append_of_read read, List.append_assoc,
        List.singleton_append, ← List.map_cons] at explained
      have isLast : after = [] →
          (earlier ++ (step :: steps).map emitted).getLast? = some step.emitted := by
        rintro rfl
        cases later with
        | finished => exact List.getLast?_concat
      have isRune := kind_of_ofLexeme? found
      rw [Cursor.location_advanceAll] at found
      have first := explains_of_ofLexeme? read found placed isLast
      rw [List.map_cons, Token.runes, List.filter_cons, List.filterMap_cons]
      cases failed : step.error? with
      | none =>
          rw [failed, Option.isSome_none, iff_false_right Bool.false_ne_true] at isRune
          rwa [if_neg (by simpa using isRune)]
      | some e =>
          rw [failed, Option.isSome_some, iff_true_right rfl] at isRune
          rw [if_pos (by simpa using isRune)]
          exact .cons (first e failed) explained

end Course

end ScanStep

namespace SourceUnit

/-- The errors of a scan answer the runes among its tokens, one by one. -/
structure Answered (text : String) (tokens : List Token) (errors : List ScanError) : Prop where
  counted : errors.length = (Token.runes tokens).length
  placed : errors.map ScanError.position = (Token.runes tokens).map (·.span.startPosition)
  explained : List.Forall₂ (fun rune e => e.Explains text.toList tokens rune)
    (Token.runes tokens) errors
  oneUnclosed : (errors.filter ScanError.isUnclosed).length ≤ 1
  increasing : errors.Pairwise fun e e' =>
    e.position.location < e'.position.location ∧
      e.position.location.offset < e'.position.location.offset

/-- Scan errors are one after another. -/
theorem scanErrors_increase (name text : String) :
    (scanRecovering name text).2.Pairwise fun e e' =>
      e.position.location < e'.position.location ∧
        e.position.location.offset < e'.position.location.offset := by
  rw [errors_scanRecovering, List.pairwise_filterMap]
  refine (precedes_of_scanRecovering name text).imp fun precedes e found e' found' => ?_
  obtain ⟨-, c, others, -, rfl⟩ := Token.rune_of_scanError? found
  obtain ⟨-, c', others', -, rfl⟩ := Token.rune_of_scanError? found'
  rw [ScanError.position_ofFirst, ScanError.position_ofFirst]
  exact precedes.starts

/-- **Scan errors and runes are in bijection.** Each error stands at the start of its rune and says
what the rune is, they come one after another, and at most one is about an unclosed string. -/
theorem errors_answer_runes (name text : String) :
    Answered text (scanRecovering name text).1.tokens (scanRecovering name text).2 := by
  have increasing := scanErrors_increase name text
  obtain ⟨steps, finish, course, recovered, -⟩ := scan_eq_of_course name text
  have explained := course.explains Utf8.size_nil []
  rw [recovered] at increasing ⊢
  constructor
  case counted => exact explained.length_eq.symm
  case placed => exact ScanError.positions_of_explained explained
  case explained => exact explained
  case oneUnclosed => exact ScanError.length_unclosed_le explained (increasing.imp And.left)
  case increasing => exact increasing

end SourceUnit

end DeclLang
