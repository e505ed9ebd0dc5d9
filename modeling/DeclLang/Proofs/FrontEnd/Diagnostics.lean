import DeclLang.Proofs.FrontEnd.ErrorLimit
import DeclLang.Proofs.Scan.ErrorRunes
import DeclLang.Proofs.Syntax.ErrorPlaces

/-!
# Diagnostics point inside the text

The label of a scan error is made from the position and a character that the error holds, the label
of a syntax error from the span of a token or from where the tokens end. Both kinds fit the tokens
of the scan: a label covers exactly one token, or it is empty and stands at an unclosed quote or at
the end of the last token. A rune is reported by the scan only and every other token at most once by
the parse, so no two errors of a run are at one place.
-/

namespace DeclLang

/-- A label that points inside a text, from one place between characters to another. -/
structure Label.Inside (text : String) (label : Label) : Prop where
  ordered : label.start ≤ label.finish
  bounded : label.finish ≤ text.utf8ByteSize
  started : ∃ front back, text.toList = front ++ back ∧ Utf8.size front = label.start
  finished : ∃ front back, text.toList = front ++ back ∧ Utf8.size front = label.finish

/-- The label of a scan error marks its cause. -/
theorem ScanError.style_label (coloured : Bool) (e : ScanError) :
    (e.label coloured).style = .primary := by
  cases e <;> rfl

/-- The label of a syntax error marks its cause. -/
theorem ParseError.style_label (e : ParseError) : e.label.style = .primary := by
  cases e <;> rfl

/-- Nothing is reported as a warning only. -/
theorem SourceError.severity_diagnostic (coloured : Bool) (e : SourceError) :
    (e.diagnostic coloured).severity = .error := by
  cases e <;> rfl

/-- The bytes that an error marks among the tokens of a text: a rune of one character, the token
that does not fit, or no byte at all, where the last rune opens a string or where the last token
ends. -/
inductive SourceError.Marks (tokens : List Token) : SourceError → Nat → Nat → Prop
  | openQuote {rune : Token} (isLast : tokens.getLast? = some rune) (isRune : rune.kind = .rune)
      (quoted : rune.text.toList.head? = some '"') :
      Marks tokens (.scan (.unterminatedString rune.span.startPosition)) rune.span.start.offset
        rune.span.start.offset
  | character {rune : Token} {c : Char} (member : rune ∈ tokens) (isRune : rune.kind = .rune)
      (spelled : rune.text.toList = [c]) :
      Marks tokens (.scan (.unrecognizedCharacter rune.span.startPosition c))
        rune.span.start.offset rune.span.finish.offset
  | sign {rune : Token} {c : Char} (member : rune ∈ tokens) (isRune : rune.kind = .rune)
      (spelled : rune.text.toList = [c]) :
      Marks tokens (.scan (.malformedOperator rune.span.startPosition c))
        rune.span.start.offset rune.span.finish.offset
  | found {e : ParseError} {t : Token} (member : t ∈ tokens) (about : e.found? = some t) :
      Marks tokens (.parse e) t.span.start.offset t.span.finish.offset
  | ending {last : Token} (isLast : tokens.getLast? = some last) (expected : Expectation) :
      Marks tokens (.parse (.unexpectedEnd last.span.finishPosition expected))
        last.span.finish.offset last.span.finish.offset

namespace SourceError

variable {tokens : List Token} {e : SourceError} {start finish : Nat}

/-- An error marks the bytes from its position on. -/
theorem Marks.start_eq (marks : Marks tokens e start finish) :
    e.position.location.offset = start := by
  cases marks with
  | openQuote isLast isRune quoted => rfl
  | character member isRune spelled => rfl
  | sign member isRune spelled => rfl
  | found member about =>
      rw [position, ParseError.position_of_found about]
      rfl
  | ending isLast expected => rfl

/-- What an error marks starts and ends where a token does. -/
theorem Marks.ends_of_token (marks : Marks tokens e start finish) :
    ∃ t ∈ tokens, (start = t.span.start.offset ∨ start = t.span.finish.offset) ∧
      (finish = t.span.start.offset ∨ finish = t.span.finish.offset) ∧
      (start = finish ∨ start = t.span.start.offset ∧ finish = t.span.finish.offset) := by
  cases marks with
  | @openQuote rune isLast isRune quoted =>
      exact ⟨rune, List.mem_of_getLast? isLast, .inl rfl, .inl rfl, .inl rfl⟩
  | @character rune c member isRune spelled =>
      exact ⟨rune, member, .inl rfl, .inr rfl, .inr ⟨rfl, rfl⟩⟩
  | @sign rune c member isRune spelled =>
      exact ⟨rune, member, .inl rfl, .inr rfl, .inr ⟨rfl, rfl⟩⟩
  | @found e t member about => exact ⟨t, member, .inl rfl, .inr rfl, .inr ⟨rfl, rfl⟩⟩
  | @ending last isLast expected =>
      exact ⟨last, List.mem_of_getLast? isLast, .inr rfl, .inr rfl, .inl rfl⟩

end SourceError

namespace SourceUnit

variable {unit : SourceUnit} {t : Token}

/-- A token of one character has the bytes of that character. -/
theorem Shows.finish_offset {c : Char} (shown : unit.Shows t.span t.text)
    (spelled : t.text.toList = [c]) :
    t.span.finish.offset = t.span.start.offset + c.utf8Size := by
  obtain ⟨front, back, -, started, finished⟩ := Utf8.slice?_eq_some_iff.mp shown.sliced
  rw [spelled, Utf8.size_append, Utf8.size_cons, Utf8.size_nil] at finished
  omega

/-- A label on what an error marks points inside the text. -/
theorem inside_of_marks {tokens : List Token} {e : SourceError} {label : Label}
    (shown : ∀ t ∈ tokens, unit.Shows t.span t.text)
    (marks : e.Marks tokens label.start label.finish) : label.Inside unit.text := by
  obtain ⟨t, member, atStart, atFinish, covers⟩ := marks.ends_of_token
  have isShown := shown t member
  have cut {offset : Nat} (there : offset = t.span.start.offset ∨ offset = t.span.finish.offset) :
      ∃ front back, unit.text.toList = front ++ back ∧ Utf8.size front = offset := by
    rcases there with rfl | rfl
    · exact exists_front_of_position? isShown.started
    · exact exists_front_of_position? isShown.finished
  constructor
  case ordered =>
    rcases covers with same | ⟨first, last⟩
    · exact same.le
    · rw [first, last]
      exact isShown.filled.2.le
  case bounded =>
    obtain ⟨front, back, split, size⟩ := cut atFinish
    rw [← size]
    exact Utf8.size_le_of_append split
  case started => exact cut atStart
  case finished => exact cut atFinish

/-- A scan error marks its rune, or the quote that its rune starts with. -/
theorem marks_of_scanError (name text : String) {e : ScanError}
    (member : e ∈ (scanRecovering name text).2) (coloured : Bool) :
    SourceError.Marks (scanRecovering name text).1.tokens (.scan e) (e.label coloured).start
      (e.label coloured).finish := by
  rw [errors_scanRecovering] at member
  obtain ⟨rune, inUnit, found⟩ := List.mem_filterMap.mp member
  obtain ⟨isRune, c, others, spelled, rfl⟩ := Token.rune_of_scanError? found
  rcases rune_spelled_of_scanRecovering name text rune inUnit isRune with
    ⟨d, noQuote, alone⟩ | ⟨quoted, isLast⟩
  · obtain ⟨rfl, rfl⟩ := List.cons.inj (spelled.symm.trans alone)
    have bytes := (shows_of_scanRecovering name text rune inUnit).finish_offset alone
    rw [ScanError.ofFirst, if_neg noQuote]
    by_cases sign : Lexeme.isSign c
    · rw [if_pos sign]
      simp only [ScanError.label, Position.label, Span.startPosition, ← bytes]
      exact .sign inUnit isRune alone
    · rw [if_neg sign]
      simp only [ScanError.label, Position.label, Span.startPosition, ← bytes]
      exact .character inUnit isRune alone
  · rw [spelled] at quoted
    rw [ScanError.ofFirst, if_pos (Option.some.inj quoted)]
    exact .openQuote isLast isRune (by rw [spelled]; exact quoted)

end SourceUnit

namespace ParseError

variable {tokens : List Token} {index : Nat} {e : ParseError}

/-- A syntax error marks the token that it is about, or the end of the last one. -/
theorem At.marks (place : At tokens index e) :
    SourceError.Marks tokens (.parse e) e.label.start e.label.finish := by
  cases place with
  | token about there =>
      obtain ⟨first, last⟩ := label_of_found about
      rw [first, last]
      exact .found (List.mem_of_getElem? there) about
  | ending isLast expected => exact .ending isLast expected

end ParseError

namespace SourceUnit

variable {name text : String}

/-- Two tokens of a unit do not start at one place. -/
theorem starts_ne {t t' : Token} (member : t ∈ (scanRecovering name text).1.tokens)
    (member' : t' ∈ (scanRecovering name text).1.tokens) (distinct : t ≠ t') :
    t.span.start.offset ≠ t'.span.start.offset := by
  have apart : ((scanRecovering name text).1.tokens.map fun t => t.span.start.offset).Nodup := by
    rw [List.Nodup, List.pairwise_map]
    exact (precedes_of_scanRecovering name text).imp fun precedes => precedes.starts.2.ne
  intro same
  exact distinct (List.inj_on_of_nodup_map apart member member' same)

/-- Every token of a unit starts before the last one ends. -/
theorem start_lt_end {t last : Token} (member : t ∈ (scanRecovering name text).1.tokens)
    (isLast : (scanRecovering name text).1.tokens.getLast? = some last) :
    t.span.start.offset < last.span.finish.offset := by
  have successive := precedes_of_scanRecovering name text
  have filled := (shows_of_scanRecovering name text t member).filled.2
  obtain ⟨others, split⟩ := List.getLast?_eq_some_iff.mp isLast
  rw [split] at successive member
  rcases List.mem_append.mp member with earlier | same
  · have precedes := (List.pairwise_append.mp successive).2.2 t earlier last List.mem_cons_self
    exact filled.trans precedes.finishes.2
  · obtain rfl := List.mem_singleton.mp same
    exact filled

/-- Scan errors are at different places. -/
theorem scanErrors_apart (name text : String) :
    (scanRecovering name text).2.Pairwise fun e e' =>
      e.position.location.offset ≠ e'.position.location.offset :=
  (scanErrors_increase name text).imp fun increase => increase.2.ne

/-- A syntax error that is not about a rune is not where a scan error is. -/
theorem scanError_apart {e : ScanError} {e' : ParseError} {index : Nat}
    (member : e ∈ (scanRecovering name text).2)
    (place : ParseError.At (scanRecovering name text).1.tokens index e')
    (noRune : ∀ t ∈ e'.found?, t.kind ≠ .rune) :
    e.position.location.offset ≠ e'.position.location.offset := by
  rw [errors_scanRecovering] at member
  obtain ⟨rune, inUnit, found⟩ := List.mem_filterMap.mp member
  obtain ⟨isRune, c, others, -, rfl⟩ := Token.rune_of_scanError? found
  rw [ScanError.position_ofFirst]
  cases place with
  | @token index e' t about there =>
      have distinct : rune ≠ t := by
        rintro rfl
        exact noRune rune about isRune
      rw [ParseError.position_of_found about]
      exact starts_ne inUnit (List.mem_of_getElem? there) distinct
  | ending isLast expected => exact (start_lt_end inUnit isLast).ne

/-- The error at an earlier index is at an earlier place. -/
theorem offset_lt_of_index_lt {e e' : ParseError} {index index' : Nat}
    (place : ParseError.At (scanRecovering name text).1.tokens index e)
    (place' : ParseError.At (scanRecovering name text).1.tokens index' e')
    (before : index < index') :
    e.position.location.offset < e'.position.location.offset := by
  cases place with
  | @token index e t about there =>
      rw [ParseError.position_of_found about]
      cases place' with
      | @token index' e' t' about' there' =>
          rw [ParseError.position_of_found about']
          obtain ⟨inside, rfl⟩ := List.getElem?_eq_some_iff.mp there
          obtain ⟨inside', rfl⟩ := List.getElem?_eq_some_iff.mp there'
          have successive := List.pairwise_iff_getElem.mp (precedes_of_scanRecovering name text)
          exact (successive index index' inside inside' before).starts.2
      | ending isLast' expected' => exact start_lt_end (List.mem_of_getElem? there) isLast'
  | ending isLast expected =>
      cases place' with
      | token about' there' =>
          obtain ⟨inside', -⟩ := List.getElem?_eq_some_iff.mp there'
          omega
      | ending isLast' expected' => omega

/-- All errors of a text, those of its scan and those of a parse without a limit, are at different
places. -/
theorem errors_apart {rounds : List Round}
    (course : Round.Course (scanRecovering name text).1.tokens.length 0
      (scanRecovering name text).1.tokens rounds) :
    ((scanRecovering name text).2.map SourceError.scan ++
        (rounds.filterMap Round.error?).map SourceError.parse).Pairwise fun e e' =>
      e.position.location.offset ≠ e'.position.location.offset := by
  have places := course.errors_at [] rfl
  rw [List.nil_append] at places
  rw [List.pairwise_append, List.pairwise_map, List.pairwise_map]
  refine ⟨scanErrors_apart name text, ?_, ?_⟩
  · obtain ⟨sameLength, each⟩ := List.forall₂_iff_get.mp places
    have increasing := List.pairwise_iff_getElem.mp course.errorIndices_increase
    refine List.pairwise_iff_getElem.mpr fun i j first second before => ?_
    have first' := sameLength.symm ▸ first
    have second' := sameLength.symm ▸ second
    exact (offset_lt_of_index_lt (each i first' first) (each j second' second)
      (increasing i j first' second' before)).ne
  · intro scanned inScan parsed inParse
    obtain ⟨e, member, rfl⟩ := List.mem_map.mp inScan
    obtain ⟨e', member', rfl⟩ := List.mem_map.mp inParse
    obtain ⟨i, inside, rfl⟩ := List.getElem_of_mem member'
    obtain ⟨sameLength, each⟩ := List.forall₂_iff_get.mp places
    exact scanError_apart member (each i (sameLength.symm ▸ inside) inside)
      (course.found_ne_rune _ member')

end SourceUnit

namespace FrontEnd

/-- The errors of a run are at different places. -/
theorem errors_apart_of_run {config : Config} {name text : String} {outcome : Outcome}
    (ended : run config name text = .ok outcome) :
    outcome.errors.Pairwise fun e e' =>
      e.position.location.offset ≠ e'.position.location.offset := by
  rw [run] at ended
  split at ended
  · obtain ⟨rounds, course, -, limited⟩ := exists_limited_rounds name text
    obtain ⟨outcome', ended', isLimited⟩ := limited config.errorLimit config.errorLimit_pos
    obtain rfl := Except.ok.inj (ended.symm.trans ended')
    rw [isLimited.ended, errors_conclude]
    exact (SourceUnit.errors_apart course).sublist (List.take_sublist _ _)
  · -- A strict run has one error at most.
    have agreement := agreement_run config.errorLimit config.errorLimit_pos name text
    rw [ended] at agreement
    generalize runRecovering config.errorLimit name text = recovering at agreement
    cases agreement with
    | complete unit tree => exact .nil
    | failed e unit tree others => exact List.pairwise_singleton _ e

/-- An error of a run is reported with one label, on what it marks among the tokens of the scan. -/
theorem marks_of_origin {name text : String} {outcome : Outcome}
    (origin : outcome.Origin name text) {e : SourceError} (member : e ∈ outcome.errors)
    (coloured : Bool) :
    ∃ label, (e.diagnostic coloured).labels = [label] ∧ label.style = .primary ∧
      e.Marks (SourceUnit.scanRecovering name text).1.tokens label.start label.finish := by
  rcases origin.errors e member with
    ⟨scanError, inScan, rfl⟩ | ⟨rest, parseError, taken, ⟨front, split⟩, refusal, rfl⟩
  · exact ⟨scanError.label coloured, rfl, scanError.style_label coloured,
      SourceUnit.marks_of_scanError name text inScan coloured⟩
  · refine ⟨parseError.label, rfl, parseError.style_label, ?_⟩
    rw [← split]
    exact (refusal.place.1.append front).marks

/-- **Diagnostics point inside the text.** Whatever the configuration, each error of a run is
reported with exactly one label, a primary one. The label starts at the position of the error and
goes from one place between characters of the text to another; it covers a token of the scan or is
empty, as its error marks it. No two errors of a run are at one place. -/
theorem run_diagnostics_point_inside (config : Config) (name text : String) :
    ∃ outcome, run config name text = .ok outcome ∧
      (∀ e ∈ outcome.errors, ∀ coloured, (e.diagnostic coloured).severity = .error ∧
        ∃ label, (e.diagnostic coloured).labels = [label] ∧ label.style = .primary ∧
          label.start = e.position.location.offset ∧ label.Inside text ∧
          e.Marks (SourceUnit.scanRecovering name text).1.tokens label.start label.finish) ∧
      outcome.errors.Pairwise fun e e' =>
        e.position.location.offset ≠ e'.position.location.offset := by
  obtain ⟨outcome, ended, origin⟩ := exists_outcome config name text
  refine ⟨outcome, ended, fun e member coloured => ⟨e.severity_diagnostic coloured, ?_⟩,
    errors_apart_of_run ended⟩
  obtain ⟨label, single, main, marks⟩ := marks_of_origin origin member coloured
  have shown := SourceUnit.shows_of_scanRecovering name text
  exact ⟨label, single, main, marks.start_eq.symm, SourceUnit.inside_of_marks shown marks, marks⟩

/-- The scan reports `@` and the parse `1`, with one label of one byte each. -/
theorem run_diagnostics_of_both_phases :
    ∃ outcome, run (.ofOptions true 32 false) "main" "é 1 @" = .ok outcome ∧
      (outcome.errors.map fun e => (e.diagnostic false).labels.map fun label =>
        (label.start, label.finish)) = [[(5, 6)], [(3, 4)]] ∧
      (∀ e ∈ outcome.errors, ∃ label, (e.diagnostic false).labels = [label] ∧
        label.Inside "é 1 @") ∧
      outcome.errors.Pairwise fun e e' =>
        e.position.location.offset ≠ e'.position.location.offset := by
  obtain ⟨outcome, ended, inside, apart⟩ :=
    run_diagnostics_point_inside (.ofOptions true 32 false) "main" "é 1 @"
  have labels : (run (.ofOptions true 32 false) "main" "é 1 @").map (fun outcome =>
      outcome.errors.map fun e => (e.diagnostic false).labels.map fun label =>
        (label.start, label.finish)) = .ok [[(5, 6)], [(3, 4)]] := by
    decide +kernel
  rw [ended] at labels
  refine ⟨outcome, ended, Except.ok.inj labels, fun e member => ?_, apart⟩
  obtain ⟨-, label, single, -, -, isInside, -⟩ := inside e member false
  exact ⟨label, single, isInside⟩

end FrontEnd

end DeclLang
