import DeclLang.Proofs.Command.Rows
import DeclLang.Proofs.Scan.Runes
import DeclLang.Proofs.Scan.Spelling

/-!
# Listings of scans

Only a text that starts with a quote can have a line feed. So the listing of a scan has one line for
each token, and each line shows its token, unless a string goes over several lines, closed or not.
Such a string breaks its entry, and its later lines can look like entries of other tokens. The whole
listing still tells all rows: the text of a token ends where its kind lets it end, whatever it
contains, and a string that is never closed is the last token.
-/

namespace DeclLang

open scoped Computability

namespace Token

variable {t : Token} {tokens : List Token}

/-- Names, numbers and operators consist of characters of names and operators. -/
theorem Spelled.not_mem (spelled : t.Spelled) (noRune : t.kind ≠ .rune)
    (noString : t.kind ≠ .string) {c : Char} (noName : Lexeme.continuesName c = false)
    (noSign : Lexeme.isSign c = false) :
    c ∉ t.text.toList := by
  intro member
  obtain ⟨rule, kinded, accepted⟩ := spelled noRune
  cases rule with
  | blank => cases kinded
  | name =>
      rw [Lexeme.language_name] at accepted
      obtain ⟨d, others, word, starts, continues⟩ := Rule.mem_run.mp accepted
      have first : Lexeme.continuesName d = true := by rw [Lexeme.continuesName, starts]; rfl
      have named : ∀ e ∈ d :: others, Lexeme.continuesName e = true :=
        List.forall_mem_cons.mpr ⟨first, continues⟩
      exact Bool.false_ne_true (noName.symm.trans (named c (word ▸ member)))
  | number =>
      obtain ⟨d, others, word, starts, continues⟩ := Rule.mem_run.mp accepted
      have digits : ∀ e ∈ d :: others, e.isDigit = true :=
        List.forall_mem_cons.mpr ⟨starts, continues⟩
      rw [Lexeme.continuesName, digits c (word ▸ member), Bool.or_true] at noName
      cases noName
  | string => exact noString (Option.some.inj kinded).symm
  | unclosedString => cases kinded
  | comparison =>
      obtain ⟨d, starts, word⟩ := Rule.mem_language_comparison.mp accepted
      rw [word] at member
      rcases List.mem_cons.mp member with rfl | member
      · have sign := Lexeme.isSign_of_startsComparison starts
        exact Bool.false_ne_true (noSign.symm.trans sign)
      · obtain rfl := List.mem_singleton.mp member
        cases noSign
  | loneOperator => cases kinded

/-- A string token is a quote, items, and a quote. -/
theorem Spelled.quoted (spelled : t.Spelled) (string : t.kind = .string) :
    ∃ body ∈ Rule.stringItem∗, t.text.toList = '"' :: body ++ ['"'] := by
  have kinded : Rule.string.kind? = some t.kind := by rw [string]; rfl
  have member := spelled.mem_language kinded (by rw [string]; exact TokenKind.noConfusion)
  exact Rule.mem_language_string.mp member

/-- Tokens whose texts can be told from what is written behind them: words of the rules for their
kinds, runes of one character, and a string that is never closed as the last token. -/
inductive Legible : List Token → Prop
  | nil : Legible []
  | word {t : Token} {tokens : List Token} (noRune : t.kind ≠ .rune) (spelled : t.Spelled)
      (later : Legible tokens) : Legible (t :: tokens)
  | sign {t : Token} {c : Char} {tokens : List Token} (isRune : t.kind = .rune)
      (alone : t.text.toList = [c]) (noQuote : c ≠ '"') (inked : Text.isBlank c = false)
      (later : Legible tokens) : Legible (t :: tokens)
  | openQuote {t : Token} {others : List Char} (isRune : t.kind = .rune)
      (quoted : t.text.toList = '"' :: others) : Legible [t]

/-- A text with a line feed starts with a quote. -/
theorem Legible.quote_of_feed (legible : Legible tokens) :
    ∀ t ∈ tokens, '\n' ∈ t.text.toList → t.text.toList.head? = some '"' := by
  induction legible with
  | nil => simp
  | @word t tokens noRune spelled later ih =>
      refine List.forall_mem_cons.mpr ⟨fun feed => ?_, ih⟩
      by_cases string : t.kind = .string
      · obtain ⟨body, -, quoted⟩ := spelled.quoted string
        rw [quoted]
        rfl
      · exact absurd feed (spelled.not_mem noRune string (by decide +kernel) (by decide))
  | @sign t c tokens isRune alone noQuote inked later ih =>
      refine List.forall_mem_cons.mpr ⟨fun feed => ?_, ih⟩
      rw [alone, List.mem_singleton] at feed
      subst feed
      cases inked
  | @openQuote t others isRune quoted =>
      refine List.forall_mem_singleton.mpr fun _ => ?_
      rw [quoted]
      rfl

namespace Row

/-- The text of a token of a kind, cut off from what stands behind it in a listing. A string ends at
its quote, and one that is never closed before the end of the last entry. -/
def cutText : TokenKind → List Char → List Char × List Char
  | .string, '"' :: cs => ('"' :: (Lexeme.readString [] cs).2.1, (Lexeme.readString [] cs).2.2)
  | .rune, '"' :: cs => ('"' :: cs.take (cs.length - 2), cs.drop (cs.length - 2))
  | .rune, c :: cs => ([c], cs)
  | _, cs => (cs.takeWhile (· != '|'), cs.dropWhile (· != '|'))

/-- The row that a listing starts with, and the rest of the listing. -/
def first? (cs : List Char) : Option (Row × List Char) := do
  let (line, column, kind, cs) ← readHeading? cs
  match cutText kind cs with
  | (text, '|' :: '\n' :: rest) => some (⟨line, column, kind, String.ofList text⟩, rest)
  | _ => none

/-- The rows of a listing, read one after another to its end. -/
inductive Reads : List Char → List Row → Prop
  | finished : Reads [] []
  | row {cs rest : List Char} {r : Row} {rows : List Row} (first : first? cs = some (r, rest))
      (later : Reads rest rows) : Reads cs (r :: rows)

/-- A listing is read in one way. -/
theorem Reads.unique {cs : List Char} {rows rows' : List Row} (reads : Reads cs rows)
    (reads' : Reads cs rows') : rows = rows' := by
  induction reads generalizing rows' with
  | finished =>
      cases reads' with
      | finished => rfl
      | row first later => cases first
  | @row cs rest r rows first later ih =>
      cases reads' with
      | finished => cases first
      | row first' later' =>
          obtain ⟨rfl, rfl⟩ := Prod.mk.inj (Option.some.inj (first.symm.trans first'))
          rw [ih later']

/-- A string ends at its own quote, whatever stands behind it. -/
theorem cutText_string {body : List Char} (items : body ∈ Rule.stringItem∗) (tail : List Char) :
    cutText .string ('"' :: body ++ ['"'] ++ tail) = ('"' :: body ++ ['"'], tail) := by
  have read : Lexeme.readString [] (body ++ '"' :: tail) = (.string, body ++ ['"'], tail) := by
    rw [Lexeme.readString_append_items items, List.append_nil, Lexeme.readString,
      List.reverse_cons, List.reverse_reverse]
  rw [List.append_assoc, List.cons_append, List.singleton_append, cutText, read]
  rfl

/-- A rune other than a quote is one character. -/
theorem cutText_sign {c : Char} (noQuote : c ≠ '"') (tail : List Char) :
    cutText .rune (c :: tail) = ([c], tail) := by
  rw [cutText]
  exact noQuote

/-- A string that is never closed goes up to the bar of the last entry. -/
theorem cutText_openQuote (others : List Char) :
    cutText .rune ('"' :: others ++ ['|', '\n']) = ('"' :: others, ['|', '\n']) := by
  have counted : (others ++ ['|', '\n']).length - 2 = others.length := by
    rw [List.length_append]
    rfl
  rw [List.cons_append, cutText, counted, List.take_left, List.drop_left]

/-- A text without a bar ends at the bar of its entry. -/
theorem cutText_word {kind : TokenKind} (noRune : kind ≠ .rune) (noString : kind ≠ .string)
    {text : List Char} (noBar : '|' ∉ text) (tail : List Char) :
    cutText kind (text ++ '|' :: tail) = (text, '|' :: tail) := by
  obtain ⟨taken, dropped⟩ := Text.run_to_mark noBar tail
  unfold cutText
  split
  next => exact absurd rfl noString
  next => exact absurd rfl noRune
  next => exact absurd rfl noRune
  next => rw [taken, dropped]

/-- Where the text can be cut off, the first entry is read as its row. -/
theorem first?_inscribed {r : Row} {tail : List Char}
    (cut : cutText r.kind (r.text.toList ++ '|' :: '\n' :: tail) =
      (r.text.toList, '|' :: '\n' :: tail)) :
    first? (r.inscribed.toList ++ '\n' :: tail) = some (r, tail) := by
  have whole : r.inscribed.toList ++ '\n' :: tail =
      r.heading.toList ++ (r.text.toList ++ '|' :: '\n' :: tail) := by
    simp
  simp only [first?, whole, readHeading?_heading, Option.bind_eq_bind, Option.bind_some, cut,
    String.ofList_toList]

end Row

theorem toList_listing_cons (t : Token) (tokens : List Token) :
    (listing (t :: tokens)).toList =
      t.row.inscribed.toList ++ '\n' :: (listing tokens).toList := by
  rw [toList_listing, List.map_cons, List.flatMap_cons, ← toList_listing, List.append_assoc]
  rfl

/-- A listing of legible tokens is read back as their rows. -/
theorem Legible.reads (legible : Legible tokens) :
    Row.Reads (listing tokens).toList (tokens.map row) := by
  induction legible with
  | nil => exact .finished
  | @word t tokens noRune spelled later ih =>
      rw [toList_listing_cons]
      refine .row (Row.first?_inscribed ?_) ih
      by_cases string : t.kind = .string
      · obtain ⟨body, items, quoted⟩ := spelled.quoted string
        rw [row, string, quoted]
        exact Row.cutText_string items _
      · have noBar := spelled.not_mem noRune string (c := '|') (by decide +kernel) (by decide)
        exact Row.cutText_word noRune string noBar _
  | @sign t c tokens isRune alone noQuote inked later ih =>
      rw [toList_listing_cons]
      refine .row (Row.first?_inscribed ?_) ih
      rw [row, isRune, alone]
      exact Row.cutText_sign noQuote _
  | @openQuote t others isRune quoted =>
      rw [toList_listing_cons]
      refine .row (Row.first?_inscribed ?_) .finished
      rw [row, isRune, quoted]
      exact Row.cutText_openQuote others

end Token

namespace ScanStep

variable {source : String} {here finish : Cursor} {cs : List Char} {steps : List ScanStep}

/-- The first character of a token is no white space. -/
theorem inked_of_ofLexeme? {c : Char} {rest after : List Char} {lexeme : Lexeme}
    {start finish : Location} {step : ScanStep} (read : Lexeme.read c rest = (lexeme, after))
    (found : ofLexeme? source lexeme start finish = some step) :
    step.emitted.text.toList.head? = some c ∧ Text.isBlank c = false := by
  have first := Lexeme.first_read c rest
  rw [read] at first
  constructor
  · rw [(emitted_of_ofLexeme? found).1, String.toList_ofList]
    exact congrArg some first
  · by_contra blank
    rw [Bool.not_eq_false] at blank
    rw [Lexeme.read_of_isBlank blank] at read
    cases read
    cases found

/-- Every step of a scan yields a token whose text can be told, since a string that is not closed
takes all the text that is left. -/
theorem Course.legible (course : Course source here cs steps finish)
    (spelled : ∀ t ∈ steps.map emitted, t.Spelled) : Token.Legible (steps.map emitted) := by
  induction course with
  | finished here => exact .nil
  | skipped read blank later ih => exact ih spelled
  | @taken here c rest after lexeme step steps finish read found later ih =>
      obtain ⟨first, others⟩ := List.forall_mem_cons.mp spelled
      by_cases isRune : step.emitted.kind = .rune
      · rcases rune_of_ofLexeme? read found isRune with ⟨d, noQuote, alone⟩ | ⟨quote, rfl⟩
        · obtain ⟨atHead, inked⟩ := inked_of_ofLexeme? read found
          rw [alone] at atHead
          obtain rfl : d = c := Option.some.inj atHead
          exact .sign isRune alone noQuote inked (ih others)
        · obtain ⟨body, quoted⟩ := List.head?_eq_some_iff.mp quote
          cases later with
          | finished => exact .openQuote isRune quoted
      · exact .word isRune first (ih others)

end ScanStep

namespace SourceUnit

theorem legible_of_scanRecovering (name text : String) :
    Token.Legible (scanRecovering name text).1.tokens := by
  have spelled := spelled_of_scanRecovering name text
  obtain ⟨steps, finish, course, recovered, -⟩ := scan_eq_of_course name text
  rw [recovered] at spelled ⊢
  exact course.legible spelled

/-- **When a listing goes by lines.** The listing of a scan has one line for each token, which shows
the row of the token and is read back, exactly when no token has a line feed in its text. It has one
more line for each such line feed, and only strings have any, closed or not. Nevertheless scans with
the same listing have tokens with the same rows. -/
theorem listing_by_line_iff (name text : String) :
    (Token.ListedByLine (scanRecovering name text).1.tokens ↔
      ∀ t ∈ (scanRecovering name text).1.tokens, '\n' ∉ t.text.toList) ∧
    (Text.lines (Token.listing (scanRecovering name text).1.tokens)).length =
      (scanRecovering name text).1.tokens.length +
        ((scanRecovering name text).1.tokens.flatMap fun t => t.text.toList).count '\n' ∧
    (∀ t ∈ (scanRecovering name text).1.tokens,
      '\n' ∈ t.text.toList → t.text.toList.head? = some '"') ∧
    ∀ name' text', Token.listing (scanRecovering name text).1.tokens =
        Token.listing (scanRecovering name' text').1.tokens →
      (scanRecovering name text).1.tokens.map Token.row =
        (scanRecovering name' text').1.tokens.map Token.row := by
  have legible := legible_of_scanRecovering name text
  refine ⟨Token.listedByLine_iff, Token.length_lines_listing _, legible.quote_of_feed, ?_⟩
  intro name' text' same
  have reads := legible.reads
  rw [same] at reads
  exact reads.unique (legible_of_scanRecovering name' text').reads

/-- A string whose second line looks like the entry of a number. -/
def posing : String :=
  "\"|\n   2:1    |number:1|\n\""

/-- Read line by line, the listing of this one token shows a number that is not there. -/
theorem listing_of_posing :
    (scanRecovering "main" posing).1.tokens.map Token.row = [⟨1, 1, .string, posing⟩] ∧
      Text.lines (Token.listing (scanRecovering "main" posing).1.tokens) =
        ["   1:1    |string:\"|", "   2:1    |number:1|", "\"|"] ∧
      ["   1:1    |string:\"|", "   2:1    |number:1|", "\"|"].map Token.Row.ofLine? =
        [some ⟨1, 1, .string, "\""⟩, some ⟨2, 1, .number, "1"⟩, none] ∧
      ¬ Token.ListedByLine (scanRecovering "main" posing).1.tokens := by
  have lines : Text.lines (Token.listing (scanRecovering "main" posing).1.tokens) =
      ["   1:1    |string:\"|", "   2:1    |number:1|", "\"|"] := by decide +kernel
  have single : (scanRecovering "main" posing).1.tokens.length = 1 := by decide +kernel
  refine ⟨by decide +kernel, lines, by decide +kernel, fun listed => ?_⟩
  have counted := listed.counted
  rw [lines, single] at counted
  cases counted

/-- Four tokens on two lines, among them a rune, and a string over two lines with other white space
behind it. -/
theorem listing_of_two_lines :
    Token.ListedByLine (scanRecovering "main" "é 12\n== @").1.tokens ∧
      Text.lines (Token.listing (scanRecovering "main" "é 12\n== @").1.tokens) =
        ["   1:1    |identifier:é|", "   1:3    |number:12|", "   2:1    |operator:==|",
          "   2:4    |rune:@|"] ∧
      (scanRecovering "main" "\"\n\" x").1.tokens.map Token.row =
        (scanRecovering "main" "\"\n\"\tx\n").1.tokens.map Token.row := by
  have unbroken : ∀ t ∈ (scanRecovering "main" "é 12\n== @").1.tokens, '\n' ∉ t.text.toList := by
    decide +kernel
  have same : Token.listing (scanRecovering "main" "\"\n\" x").1.tokens =
      Token.listing (scanRecovering "main" "\"\n\"\tx\n").1.tokens := by
    decide +kernel
  refine ⟨(listing_by_line_iff "main" "é 12\n== @").1.mpr unbroken, by decide +kernel, ?_⟩
  exact (listing_by_line_iff "main" "\"\n\" x").2.2.2 "main" "\"\n\"\tx\n" same

end SourceUnit

end DeclLang
