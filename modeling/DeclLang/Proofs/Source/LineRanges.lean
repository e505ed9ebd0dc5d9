import DeclLang.Proofs.Source.Lines

/-!
# Line tables are exact

The table of a text lists the starts of its lines in order and nothing else. Each line is the text
from its start through its line feed, or to the end of the text for the last line, so the ranges of
lines cover the text one after another. Since the starts increase, the search for an offset finds
the last line that starts at or before it.
-/

namespace DeclLang

namespace LineTable

/-- A table that lists exactly the lines of a text: their starts in order, the ranges that they
cover one after another, and for each offset the last line that starts at or before it. -/
structure Exact (table : LineTable) (text : String) : Prop where
  starts : ∀ start, start ∈ table.starts ↔
    start = 0 ∨ ∃ front back, text.toList = front ++ '\n' :: back ∧
      start = Utf8.size (front ++ ['\n'])
  increasing : table.starts.Pairwise (· < ·)
  finish : table.finish = text.utf8ByteSize
  ranged : ∀ index, (table.lineRange? index).isSome = true ↔ index < table.size
  first : ∃ finish, table.lineRange? 0 = some (0, finish)
  contiguous : ∀ index range next, table.lineRange? index = some range →
    table.lineRange? (index + 1) = some next → range.2 = next.1
  last : ∃ start, table.lineRange? (table.size - 1) = some (start, text.utf8ByteSize)
  lines : ∀ index range, table.lineRange? index = some range →
    ∃ line, Utf8.slice? range.1 range.2 text.toList = some line ∧ '\n' ∉ line.dropLast ∧
      (line.getLast? = some '\n' ↔ index + 1 < table.size)
  found : ∀ offset, table.lineIndex offset < table.size ∧
    ∀ index start, table.starts[index]? = some start →
      (start ≤ offset ↔ index ≤ table.lineIndex offset)

/-- The line starts are the offsets right behind line feeds. -/
theorem mem_startsAfterFeeds_iff {offset start : Nat} {cs : List Char} :
    start ∈ startsAfterFeeds offset cs ↔
      ∃ front back, cs = front ++ '\n' :: back ∧
        start = offset + Utf8.size (front ++ ['\n']) := by
  constructor
  · intro member
    induction cs generalizing offset with
    | nil => cases member
    | cons c cs ih =>
        have onward (later : start ∈ startsAfterFeeds (offset + c.utf8Size) cs) :
            ∃ front back, c :: cs = front ++ '\n' :: back ∧
              start = offset + Utf8.size (front ++ ['\n']) := by
          obtain ⟨front, back, rfl, rfl⟩ := ih later
          exact ⟨c :: front, back, rfl, by simp [Nat.add_assoc]⟩
        rw [startsAfterFeeds] at member
        by_cases feed : c = '\n'
        · rw [if_pos feed] at member
          rcases List.mem_cons.mp member with rfl | later
          · exact ⟨[], cs, congrArg (· :: cs) feed, by simp [feed]⟩
          · exact onward later
        · rw [if_neg feed] at member
          exact onward member
  · rintro ⟨front, back, rfl, rfl⟩
    simp [startsAfterFeeds, Nat.add_assoc]

/-- Lines start one behind the other, since each line feed takes a byte. -/
theorem startsAfterFeeds_increasing (offset : Nat) (cs : List Char) :
    (startsAfterFeeds offset cs).Pairwise (· < ·) := by
  induction cs generalizing offset with
  | nil => exact .nil
  | cons c cs ih =>
      rw [startsAfterFeeds]
      split
      · exact .cons (fun start later => (mem_startsAfterFeeds later).1) (ih _)
      · exact ih _

/-- The line starts of a table increase, so that they can be searched. -/
theorem starts_ofText_increasing (cs : List Char) : (ofText cs).starts.Pairwise (· < ·) :=
  .cons (fun _ later => (mem_startsAfterFeeds later).1) (startsAfterFeeds_increasing 0 cs)

/-- A text has one line more than it has line feeds. -/
@[simp]
theorem size_ofText (cs : List Char) : (ofText cs).size = cs.count '\n' + 1 := by
  simp [size, ofText]

/-- The first line start that an offset does not reach bounds all later ones. -/
theorem lt_of_mem_dropWhile {starts : List Nat} (increasing : starts.Pairwise (· < ·))
    (offset : Nat) : ∀ start ∈ starts.dropWhile fun start => decide (start ≤ offset),
      offset < start := by
  induction starts with
  | nil => simp
  | cons first others ih =>
      obtain ⟨least, later⟩ := List.pairwise_cons.mp increasing
      by_cases early : first ≤ offset
      · rw [List.dropWhile_cons_of_pos (by simpa using early)]
        exact ih later
      · rw [List.dropWhile_cons_of_neg (by simpa using early)]
        have beyond : offset < first := Nat.lt_of_not_le early
        refine List.forall_mem_cons.mpr ⟨beyond, fun start member => ?_⟩
        exact beyond.trans (least start member)

/-- The search finds the last line that starts at or before an offset. -/
theorem le_iff_le_lineIndex {table : LineTable} (increasing : table.starts.Pairwise (· < ·))
    (first : 0 ∈ table.starts.head?) (offset : Nat) :
    table.lineIndex offset < table.size ∧
      ∀ index start, table.starts[index]? = some start →
        (start ≤ offset ↔ index ≤ table.lineIndex offset) := by
  obtain ⟨others, listed⟩ := List.head?_eq_some_iff.mp first
  -- The starts increase, so the offset cuts them in two: the search counts the ones in front.
  have split := List.takeWhile_append_dropWhile (p := fun start => decide (start ≤ offset))
    (l := table.starts)
  have late := lt_of_mem_dropWhile increasing offset
  have early : ∀ start ∈ table.starts.takeWhile fun start => decide (start ≤ offset),
      start ≤ offset := by
    intro start member
    have holds := List.mem_takeWhile_imp member
    exact of_decide_eq_true holds
  have filled : 0 < (table.starts.takeWhile fun start => decide (start ≤ offset)).length := by
    rw [listed, List.takeWhile_cons_of_pos (by simp)]
    exact Nat.succ_pos _
  have within := (List.takeWhile_prefix (l := table.starts) fun start =>
    decide (start ≤ offset)).length_le
  unfold lineIndex size
  refine ⟨by omega, fun index start there => ?_⟩
  rw [← split] at there
  by_cases taken : index < (table.starts.takeWhile fun start => decide (start ≤ offset)).length
  · rw [List.getElem?_append_left taken] at there
    have := early start (List.mem_of_getElem? there)
    omega
  · rw [List.getElem?_append_right (Nat.le_of_not_lt taken)] at there
    have := late start (List.mem_of_getElem? there)
    omega

/-- A line reaches from its own start to that of the next line. -/
theorem lineRange?_eq_some_iff {table : LineTable} {index start finish : Nat} :
    table.lineRange? index = some (start, finish) ↔
      table.lineStart? index = some start ∧ table.lineStart? (index + 1) = some finish := by
  rw [lineRange?]
  cases table.lineStart? index <;> cases table.lineStart? (index + 1) <;> simp

/-- The line after the last one starts where the text ends. -/
theorem lineStart?_size (table : LineTable) : table.lineStart? table.size = some table.finish := by
  rw [lineStart?, if_pos rfl]

/-- Every other line start is that of the table. -/
theorem lineStart?_of_lt {table : LineTable} {index : Nat} (inside : index < table.size) :
    table.lineStart? index = table.starts[index]? := by
  rw [lineStart?, if_neg inside.ne]

/-- Characters that end with a line feed are followed by the start of a line. -/
theorem lineStart?_ofText {front : List Char} (ended : front.rdropWhile inLine = front)
    (back : List Char) :
    (ofText (front ++ back)).lineStart? (front.count '\n') = some (Utf8.size front) := by
  have inside : front.count '\n' < (ofText (front ++ back)).size := by
    rw [size_ofText, List.count_append]
    omega
  rw [lineStart?_of_lt inside, getElem?_starts_ofText, ended]

/-- Every line starts after as many line feeds as there are lines before it. -/
theorem exists_line_start {cs : List Char} {index : Nat} (inside : index ≤ cs.count '\n') :
    ∃ front back, cs = front ++ back ∧ front.count '\n' = index ∧
      front.rdropWhile inLine = front := by
  induction index with
  | zero => exact ⟨[], cs, rfl, rfl, rfl⟩
  | succ index ih =>
      obtain ⟨front, back, rfl, counted, -⟩ := ih (Nat.le_of_succ_le inside)
      have fed : '\n' ∈ back := by
        rw [List.count_append, counted] at inside
        exact List.count_pos_iff.mp (by omega)
      obtain ⟨line, later, rfl, unbroken⟩ := List.eq_append_cons_of_mem fed
      refine ⟨front ++ line ++ ['\n'], later, ?_, ?_, ?_⟩
      · simp only [List.append_assoc, List.singleton_append]
      · rw [List.count_append, List.count_append, counted, List.count_eq_zero.mpr unbroken]
        rfl
      · exact List.rdropWhile_concat_neg inLine (front ++ line) '\n' (by decide)

/-- Each line stands in its range and has a line feed only at its end, which the last line lacks. -/
theorem exists_line {cs : List Char} {index : Nat} (inside : index < (ofText cs).size) :
    ∃ before line after, cs = before ++ line ++ after ∧
      (ofText cs).lineRange? index = some (Utf8.size before, Utf8.size (before ++ line)) ∧
      '\n' ∉ line.dropLast ∧ (line.getLast? = some '\n' ↔ index + 1 < (ofText cs).size) := by
  rw [size_ofText] at inside
  obtain ⟨before, back, rfl, rfl, ended⟩ := exists_line_start (Nat.le_of_lt_succ inside)
  have started := lineStart?_ofText ended back
  -- The line goes up to the first line feed behind its start, or else to the end of the text.
  by_cases fed : '\n' ∈ back
  · obtain ⟨line, after, rfl, unbroken⟩ := List.eq_append_cons_of_mem fed
    have whole : before ++ line ++ ['\n'] ++ after = before ++ (line ++ '\n' :: after) := by
      simp only [List.append_assoc, List.singleton_append]
    have finished := lineStart?_ofText
      (List.rdropWhile_concat_neg inLine (before ++ line) '\n' (by decide)) after
    have counted : (before ++ line ++ ['\n']).count '\n' = before.count '\n' + 1 := by
      rw [List.count_append, List.count_append, List.count_eq_zero.mpr unbroken]
      rfl
    rw [whole, counted, List.append_assoc] at finished
    refine ⟨before, line ++ ['\n'], after, ?_, lineRange?_eq_some_iff.mpr ⟨started, finished⟩,
      ?_, ?_⟩
    · rw [← whole, List.append_assoc before line]
    · rwa [List.dropLast_concat]
    · rw [List.getLast?_concat, size_ofText, List.count_append]
      have more := List.count_pos_iff.mpr fed
      exact iff_of_true rfl (by omega)
  · have isLast : before.count '\n' + 1 = (ofText (before ++ back)).size := by
      rw [size_ofText, List.count_append, List.count_eq_zero.mpr fed, Nat.add_zero]
    have finished := lineStart?_size (ofText (before ++ back))
    rw [← isLast] at finished
    refine ⟨before, back, [], (List.append_nil _).symm,
      lineRange?_eq_some_iff.mpr ⟨started, finished⟩, ?_, ?_⟩
    · exact fun member => fed ((List.dropLast_sublist back).subset member)
    · rw [← isLast]
      refine iff_of_false (fun feed => fed (List.mem_of_getLast? feed)) (Nat.lt_irrefl _)

/-- The table of a text is exact. -/
theorem exact_ofText (text : String) : (ofText text.toList).Exact text := by
  have ranged (index : Nat) : ((ofText text.toList).lineRange? index).isSome = true ↔
      index < (ofText text.toList).size := by
    constructor
    · intro present
      obtain ⟨⟨start, finish⟩, found⟩ := Option.isSome_iff_exists.mp present
      obtain ⟨-, finished⟩ := lineRange?_eq_some_iff.mp found
      rw [lineStart?] at finished
      split at finished
      next isLast => omega
      next =>
        obtain ⟨inside, -⟩ := List.getElem?_eq_some_iff.mp finished
        exact Nat.lt_of_succ_lt inside
    · intro inside
      obtain ⟨before, line, after, -, found, -⟩ := exists_line inside
      rw [found]
      rfl
  constructor
  case starts =>
    intro start
    have feeds : start ∈ startsAfterFeeds 0 text.toList ↔ _ := mem_startsAfterFeeds_iff
    simp only [Nat.zero_add] at feeds
    rw [← feeds]
    exact List.mem_cons
  case increasing => exact starts_ofText_increasing text.toList
  case finish => exact Utf8.size_toList text
  case ranged => exact ranged
  case first =>
    have inside : 0 < (ofText text.toList).size := Nat.succ_pos _
    obtain ⟨⟨start, finish⟩, found⟩ := Option.isSome_iff_exists.mp ((ranged 0).mpr inside)
    obtain ⟨started, -⟩ := lineRange?_eq_some_iff.mp found
    rw [lineStart?_of_lt inside] at started
    obtain rfl := Option.some.inj started
    exact ⟨finish, found⟩
  case contiguous =>
    rintro index ⟨start, finish⟩ ⟨start', finish'⟩ found next
    have finished := (lineRange?_eq_some_iff.mp found).2
    have started := (lineRange?_eq_some_iff.mp next).1
    exact Option.some.inj (finished.symm.trans started)
  case last =>
    -- The table holds no start for the line after the last one, so the text's own end stands in.
    have inside : (ofText text.toList).size - 1 < (ofText text.toList).size :=
      Nat.sub_lt (Nat.succ_pos _) Nat.one_pos
    obtain ⟨⟨start, finish⟩, found⟩ := Option.isSome_iff_exists.mp ((ranged _).mpr inside)
    obtain ⟨-, finished⟩ := lineRange?_eq_some_iff.mp found
    have filled : 0 < (ofText text.toList).size := Nat.zero_lt_of_lt inside
    rw [Nat.sub_add_cancel filled, lineStart?_size] at finished
    obtain rfl := Option.some.inj finished
    exact ⟨start, Utf8.size_toList text ▸ found⟩
  case lines =>
    rintro index ⟨start, finish⟩ found
    have inside := (ranged index).mp (found ▸ rfl)
    obtain ⟨before, line, after, split, found', inner, ends⟩ := exists_line inside
    obtain ⟨rfl, rfl⟩ := Prod.mk.inj (Option.some.inj (found.symm.trans found'))
    exact ⟨line, Utf8.slice?_eq_some_iff.mpr ⟨before, after, split, rfl, rfl⟩, inner, ends⟩
  case found => exact le_iff_le_lineIndex (starts_ofText_increasing text.toList) rfl

/-- The line that is found for an offset covers it. -/
theorem Exact.lineRange?_lineIndex {table : LineTable} {text : String} (exact : table.Exact text)
    {offset : Nat} (inside : offset ≤ text.utf8ByteSize) :
    ∃ start finish, table.lineRange? (table.lineIndex offset) = some (start, finish) ∧
      table.starts[table.lineIndex offset]? = some start ∧ start ≤ offset ∧ offset ≤ finish := by
  obtain ⟨isLine, isLast⟩ := exact.found offset
  obtain ⟨⟨start, finish⟩, found⟩ := Option.isSome_iff_exists.mp ((exact.ranged _).mpr isLine)
  obtain ⟨started, finished⟩ := lineRange?_eq_some_iff.mp found
  rw [lineStart?_of_lt isLine] at started
  refine ⟨start, finish, found, started, (isLast _ start started).mpr (Nat.le_refl _), ?_⟩
  by_cases more : table.lineIndex offset + 1 < table.size
  · rw [lineStart?_of_lt more] at finished
    have beyond := (isLast _ finish finished).not.mpr (Nat.not_succ_le_self _)
    exact (Nat.lt_of_not_le beyond).le
  · have last : table.lineIndex offset + 1 = table.size :=
      Nat.le_antisymm isLine (Nat.le_of_not_lt more)
    rw [last, lineStart?_size] at finished
    obtain rfl := Option.some.inj finished
    rwa [exact.finish]

end LineTable

end DeclLang
