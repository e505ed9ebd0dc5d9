import DeclLang.Command.Printing
import DeclLang.Proofs.Lexeme.Seam

/-!
# Rows of a listing

An entry of a listing shows the line and the column where its token starts, its kind and its text:
the row of the token. Columns are set by adding spaces, so a reader passes over them. What stands in
front of the text is read back whatever the text, and so is a row that is written on a line. A line
feed in the text breaks the entry: it takes one more line for each.
-/

namespace DeclLang

namespace Text

/-- The lines of a text. Each line feed ends a line, and so does the end of the text when something
stands after the last line feed. -/
def lines (text : String) : List String :=
  let pieces := (text.toList.splitOn '\n').map String.ofList
  if pieces.getLast? = some "" then pieces.dropLast else pieces

/-- The lines of texts that end with a line feed each are theirs, one after another. -/
theorem lines_flatMap (texts : List (List Char)) :
    lines (String.ofList (texts.flatMap (· ++ ['\n']))) =
      (texts.flatMap (List.splitOn '\n')).map String.ofList := by
  have pieces : (texts.flatMap (· ++ ['\n'])).splitOn '\n' =
      texts.flatMap (List.splitOn '\n') ++ [[]] := by
    induction texts with
    | nil => rfl
    | cons text texts ih =>
        rw [List.flatMap_cons, List.append_assoc, List.singleton_append,
          List.splitOn_append_cons_self, ih, List.flatMap_cons, List.append_assoc]
  -- Nothing stands after the last line feed, so the last piece is no line.
  rw [lines, String.toList_ofList, pieces, List.map_append]
  exact (if_pos List.getLast?_concat).trans List.dropLast_concat

/-- A text has one piece more than line feeds. -/
@[simp]
theorem length_splitOn (cs : List Char) : (cs.splitOn '\n').length = cs.count '\n' + 1 := by
  induction cs with
  | nil => rfl
  | cons c cs ih =>
      rw [List.splitOn_cons_eq_if_modifyHead]
      by_cases feed : c = '\n'
      · rw [if_pos (beq_iff_eq.mpr feed), List.length_cons, ih, feed, List.count_cons_self]
      · rw [if_neg (mt beq_iff_eq.mp feed), List.length_modifyHead, ih,
          List.count_cons_of_ne feed]

/-- What stands before a mark is told by the first mark. -/
theorem run_to_mark {mark : Char} {run : List Char} (free : mark ∉ run) (tail : List Char) :
    (run ++ mark :: tail).takeWhile (· != mark) = run ∧
      (run ++ mark :: tail).dropWhile (· != mark) = mark :: tail := by
  apply Lexeme.run_through
  · intro c member
    apply bne_iff_ne.mpr
    rintro rfl
    exact free member
  · rintro d ⟨⟩
    exact bne_self_eq_false mark

end Text

namespace TokenKind

/-- The kind with a name. -/
def ofText? (text : String) : Option TokenKind :=
  [rune, identifier, number, string, operator].find? (·.text = text)

/-- No two kinds have the same name. -/
@[simp]
theorem ofText?_text (kind : TokenKind) : ofText? kind.text = some kind := by
  cases kind <;> rfl

/-- Names of kinds have small letters only, so no colon ends one early. -/
theorem isLower_of_mem_text (kind : TokenKind) : ∀ c ∈ kind.text.toList, c.isLower = true := by
  apply List.all_eq_true.mp
  cases kind <;> rfl

end TokenKind

namespace Token

/-- What an entry of a listing shows of a token. -/
structure Row where
  line : Nat
  column : Nat
  kind : TokenKind
  text : String
  deriving DecidableEq

/-- The row of a token. -/
def row (t : Token) : Row :=
  ⟨t.span.start.line, t.span.start.column, t.kind, t.text⟩

namespace Row

/-- What stands in front of the text of a row. -/
def heading (r : Row) : String :=
  Text.alignRight 4 (toString r.line) ++ ":" ++ Text.alignLeft 4 (toString r.column) ++ " |" ++
    r.kind.text ++ ":"

/-- A row as it is written. -/
def inscribed (r : Row) : String :=
  r.heading ++ r.text ++ "|"

/-- A number with spaces around it and a mark behind them, and what follows the mark. -/
def readNumber? (mark : Char) (cs : List Char) : Option (Nat × List Char) :=
  let digits := cs.dropWhile (· == ' ')
  match (digits.dropWhile Char.isDigit).dropWhile (· == ' ') with
  | c :: rest =>
      if c = mark then some (Nat.ofDigitChars 10 (digits.takeWhile Char.isDigit) 0, rest)
      else none
  | [] => none

/-- A kind with a colon behind it, and what follows the colon. -/
def readKind? (cs : List Char) : Option (TokenKind × List Char) :=
  match cs.dropWhile (· != ':') with
  | _ :: rest =>
      (TokenKind.ofText? (String.ofList (cs.takeWhile (· != ':')))).map fun kind => (kind, rest)
  | [] => none

/-- The line, the column and the kind that a row starts with, and what follows them. -/
def readHeading? (cs : List Char) : Option (Nat × Nat × TokenKind × List Char) := do
  let (line, cs) ← readNumber? ':' cs
  let (column, cs) ← readNumber? '|' cs
  let (kind, cs) ← readKind? cs
  return (line, column, kind, cs)

/-- The row that is written on a line. -/
def ofLine? (line : String) : Option Row := do
  let (number, column, kind, rest) ← readHeading? line.toList
  if rest.getLast? = some '|' then
    return ⟨number, column, kind, String.ofList rest.dropLast⟩
  else none

/-- The digits of a number are read back from among spaces. -/
theorem readNumber?_toDigits {mark : Char} (apart : mark ≠ ' ') (other : mark.isDigit = false)
    (before n after : Nat) (rest : List Char) :
    readNumber? mark (List.replicate before ' ' ++ (Nat.toDigits 10 n ++
        (List.replicate after ' ' ++ mark :: rest))) = some (n, rest) := by
  have spaces (count : Nat) : ∀ c ∈ List.replicate count ' ', (c == ' ') = true :=
    fun c member => beq_iff_eq.mpr (List.eq_of_mem_replicate member)
  have digits : ∀ c ∈ Nat.toDigits 10 n, c.isDigit = true :=
    fun c => Nat.isDigit_of_mem_toDigits (by decide) (by decide)
  have toNumber : ∀ d ∈ (Nat.toDigits 10 n ++ (List.replicate after ' ' ++ mark :: rest)).head?,
      (d == ' ') = false := by
    intro d first
    rw [List.head?_append_of_ne_nil _ Nat.toDigits_ne_nil] at first
    have digit := digits d (List.mem_of_mem_head? first)
    apply beq_eq_false_iff_ne.mpr
    rintro rfl
    cases digit
  have toSpaces : ∀ d ∈ (List.replicate after ' ' ++ mark :: rest).head?, d.isDigit = false := by
    cases after with
    | zero => rintro d ⟨⟩; exact other
    | succ after => rintro d ⟨⟩; rfl
  have toMark : ∀ d ∈ (mark :: rest).head?, (d == ' ') = false := by
    rintro d ⟨⟩
    exact beq_eq_false_iff_ne.mpr apart
  obtain ⟨taken, dropped⟩ := Lexeme.run_through digits toSpaces
  rw [readNumber?, (Lexeme.run_through (spaces before) toNumber).2]
  simp only [taken, dropped, (Lexeme.run_through (spaces after) toMark).2, if_true,
    Nat.ofDigitChars_ten_toDigits]

@[simp]
theorem readKind?_text (kind : TokenKind) (rest : List Char) :
    readKind? (kind.text.toList ++ ':' :: rest) = some (kind, rest) := by
  have free : ':' ∉ kind.text.toList := by
    intro member
    have lower := kind.isLower_of_mem_text ':' member
    cases lower
  obtain ⟨taken, dropped⟩ := Text.run_to_mark free rest
  rw [readKind?, taken, dropped, String.ofList_toList, TokenKind.ofText?_text]
  rfl

/-- A heading is two numbers among spaces and a kind, each with its mark behind it. -/
theorem toList_heading_append (r : Row) :
    ∃ before after, ∀ rest, r.heading.toList ++ rest =
      List.replicate before ' ' ++ (Nat.toDigits 10 r.line ++ (List.replicate 0 ' ' ++
        ':' :: (List.replicate 0 ' ' ++ (Nat.toDigits 10 r.column ++ (List.replicate after ' ' ++
          '|' :: (r.kind.text.toList ++ ':' :: rest)))))) := by
  refine ⟨4 - (toString r.line).length, 4 - (toString r.column).length + 1, fun rest => ?_⟩
  have toColon : ":".toList = [':'] := rfl
  have toBar : " |".toList = [' ', '|'] := rfl
  simp only [heading, Text.alignRight, Text.alignLeft, Text.spaces, String.toList_append,
    String.toList_ofList, Nat.toString_eq_repr, Nat.toList_repr, toColon, toBar,
    List.replicate_succ', List.replicate_zero, List.append_assoc, List.cons_append,
    List.nil_append]

/-- A heading is read back whatever text follows. -/
@[simp]
theorem readHeading?_heading (r : Row) (rest : List Char) :
    readHeading? (r.heading.toList ++ rest) = some (r.line, r.column, r.kind, rest) := by
  obtain ⟨before, after, spelled⟩ := r.toList_heading_append
  have toColon := @readNumber?_toDigits ':' (by decide) rfl
  have toBar := @readNumber?_toDigits '|' (by decide) rfl
  simp only [readHeading?, spelled, toColon, toBar, readKind?_text, Option.bind_eq_bind,
    Option.bind_some]
  rfl

@[simp]
theorem toList_inscribed (r : Row) :
    r.inscribed.toList = r.heading.toList ++ (r.text.toList ++ ['|']) := by
  rw [inscribed, String.toList_append, String.toList_append, List.append_assoc]
  rfl

/-- A row is read back from its line. -/
@[simp]
theorem ofLine?_inscribed (r : Row) : ofLine? r.inscribed = some r := by
  simp [ofLine?]

/-- Only the text of a row can have a line feed, so a heading is never broken. -/
theorem feed_not_mem_heading (r : Row) : '\n' ∉ r.heading.toList := by
  obtain ⟨before, after, spelled⟩ := r.toList_heading_append
  have digits (n : Nat) : '\n' ∉ Nat.toDigits 10 n := by
    intro member
    have digit := Nat.isDigit_of_mem_toDigits (by decide) (by decide) member
    cases digit
  have kind : '\n' ∉ r.kind.text.toList := by
    intro member
    have lower := r.kind.isLower_of_mem_text '\n' member
    cases lower
  rw [← List.append_nil r.heading.toList, spelled]
  simp [digits, kind]

/-- A row takes one line more than its text has line feeds. -/
theorem length_lines (r : Row) :
    (r.inscribed.toList.splitOn '\n').length = r.text.toList.count '\n' + 1 := by
  have heading := List.count_eq_zero.mpr r.feed_not_mem_heading
  simp [heading]

/-- A row without a line feed in its text is one line. -/
theorem lines_of_unbroken {r : Row} (unbroken : '\n' ∉ r.text.toList) :
    r.inscribed.toList.splitOn '\n' = [r.inscribed.toList] := by
  apply List.splitOn_eq_singleton
  simp [r.feed_not_mem_heading, unbroken]

end Row

theorem entry_eq (t : Token) : t.entry = t.row.inscribed ++ "\n" := by
  have closing : "|\n" = "|" ++ "\n" := rfl
  simp only [entry, Row.inscribed, Row.heading, row, closing, String.append_assoc]

/-- A listing is the rows of its tokens, each ended by a line feed. -/
theorem toList_listing (tokens : List Token) :
    (listing tokens).toList =
      (tokens.map fun t => t.row.inscribed.toList).flatMap (· ++ ['\n']) := by
  have feed : "\n".toList = ['\n'] := rfl
  simp only [listing, String.toList_join, List.flatMap_map, entry_eq, String.toList_append, feed]

/-- The lines of a listing are those of its rows, one after another. -/
theorem lines_listing (tokens : List Token) :
    Text.lines (listing tokens) =
      (tokens.flatMap fun t => t.row.inscribed.toList.splitOn '\n').map String.ofList := by
  rw [← String.ofList_toList (s := listing tokens), toList_listing, Text.lines_flatMap,
    List.flatMap_map]

/-- A listing has a line for each token and another one for each line feed in their texts. -/
theorem length_lines_listing (tokens : List Token) :
    (Text.lines (listing tokens)).length =
      tokens.length + (tokens.flatMap fun t => t.text.toList).count '\n' := by
  rw [lines_listing, List.length_map]
  induction tokens with
  | nil => rfl
  | cons t tokens ih =>
      have same : t.row.text = t.text := rfl
      rw [List.flatMap_cons, List.length_append, ih, Row.length_lines, same, List.length_cons,
        List.flatMap_cons, List.count_append]
      omega

/-- A listing has one line for each token exactly when no text has a line feed. -/
theorem length_lines_listing_eq_iff {tokens : List Token} :
    (Text.lines (listing tokens)).length = tokens.length ↔
      ∀ t ∈ tokens, '\n' ∉ t.text.toList := by
  rw [length_lines_listing, Nat.add_eq_left, List.count_eq_zero, List.mem_flatMap]
  exact not_exists.trans (forall_congr' fun t => not_and)

/-- Without line feeds in the texts the lines are the rows. -/
theorem lines_listing_of_unbroken {tokens : List Token}
    (unbroken : ∀ t ∈ tokens, '\n' ∉ t.text.toList) :
    Text.lines (listing tokens) = tokens.map fun t => t.row.inscribed := by
  rw [lines_listing]
  induction tokens with
  | nil => rfl
  | cons t tokens ih =>
      obtain ⟨first, others⟩ := List.forall_mem_cons.mp unbroken
      rw [List.flatMap_cons, List.map_append, ih others, Row.lines_of_unbroken first,
        List.map_singleton, String.ofList_toList]
      rfl

/-- A listing goes by lines: it has one for each token, and the line shows the row of the token and
is read back. -/
structure ListedByLine (tokens : List Token) : Prop where
  counted : (Text.lines (listing tokens)).length = tokens.length
  inscribed : Text.lines (listing tokens) = tokens.map fun t => t.row.inscribed
  readBack : (Text.lines (listing tokens)).map Row.ofLine? = tokens.map fun t => some t.row

/-- A listing goes by lines when no text has a line feed, and not otherwise. -/
theorem listedByLine_iff {tokens : List Token} :
    ListedByLine tokens ↔ ∀ t ∈ tokens, '\n' ∉ t.text.toList := by
  constructor
  · intro listed
    exact length_lines_listing_eq_iff.mp listed.counted
  · intro unbroken
    have rows := lines_listing_of_unbroken unbroken
    constructor
    case counted => exact length_lines_listing_eq_iff.mpr unbroken
    case inscribed => exact rows
    case readBack =>
      simp [rows]

end Token

end DeclLang
