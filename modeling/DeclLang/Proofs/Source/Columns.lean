import DeclLang.Proofs.Source.Bytes
import DeclLang.Proofs.Source.Lines
import Mathlib.Data.List.Nodup

/-!
# Columns by characters and by bytes

A column counts the characters of a line before a place. A listing finds the same number by going
over the bytes of the line up to the place and counting those that end a character; for a byte
inside a character this is the column of that character.
-/

namespace DeclLang

namespace Utf8

/-- Whether a text can be cut at an offset: at its end or between two characters. -/
def isBoundary (cs : List Char) (offset : Nat) : Bool :=
  (split? offset cs).isSome

/-- The boundaries are the offsets at which the text can be split. -/
theorem isBoundary_iff {cs : List Char} {offset : Nat} :
    isBoundary cs offset = true ↔ ∃ front back, cs = front ++ back ∧ size front = offset := by
  rw [isBoundary, Option.isSome_iff_exists]
  constructor
  · rintro ⟨⟨front, back⟩, cut⟩
    exact ⟨front, back, split?_eq_some_iff.mp cut⟩
  · rintro ⟨front, back, cut⟩
    exact ⟨⟨front, back⟩, split?_eq_some_iff.mpr cut⟩

/-- Every byte of a text lies in a character; the end of the text stands for itself. -/
theorem exists_character {cs : List Char} {offset : Nat} (inside : offset ≤ size cs) :
    ∃ front back, cs = front ++ back ∧ size front ≤ offset ∧
      ∀ c ∈ back.head?, offset < size front + c.utf8Size := by
  induction cs generalizing offset with
  | nil => exact ⟨[], [], rfl, Nat.zero_le _, fun c isFirst => nomatch isFirst⟩
  | cons c cs ih =>
      by_cases within : offset < c.utf8Size
      · refine ⟨[], c :: cs, rfl, Nat.zero_le _, fun d isFirst => ?_⟩
        obtain rfl := Option.some.inj isFirst
        rwa [size_nil, Nat.zero_add]
      · rw [size_cons] at inside
        have passed : offset - c.utf8Size ≤ size cs := by omega
        obtain ⟨front, back, rfl, reached, before⟩ := ih passed
        refine ⟨c :: front, back, rfl, ?_, fun d isFirst => ?_⟩
        · rw [size_cons]
          omega
        · have := before d isFirst
          rw [size_cons]
          omega

/-- The ends of characters in two texts joined, those of the second moved behind the first. -/
@[simp]
theorem ends_append (start : Nat) (front back : List Char) :
    ends start (front ++ back) = ends start front ++ ends (start + size front) back := by
  induction front generalizing start with
  | nil => rfl
  | cons c front ih => simp [ends, ih, Nat.add_assoc]

@[simp]
theorem length_ends (start : Nat) (cs : List Char) : (ends start cs).length = cs.length := by
  induction cs generalizing start with
  | nil => rfl
  | cons c cs ih => simp [ends, ih]

/-- The offsets at which characters end are the boundaries after the start. -/
theorem mem_ends_iff {start stop : Nat} {cs : List Char} :
    stop ∈ ends start cs ↔
      ∃ front back, cs = front ++ back ∧ start < stop ∧ stop = start + size front := by
  constructor
  · intro member
    induction cs generalizing start with
    | nil => cases member
    | cons c cs ih =>
        have wide := c.utf8Size_pos
        rw [ends] at member
        rcases List.mem_cons.mp member with rfl | later
        · exact ⟨[c], cs, rfl, by omega, by simp⟩
        · obtain ⟨front, back, rfl, after, rfl⟩ := ih later
          exact ⟨c :: front, back, rfl, by omega, by simp [Nat.add_assoc]⟩
  · rintro ⟨front, back, rfl, after, rfl⟩
    induction front using List.reverseRecOn with
    | nil => exact absurd after (Nat.lt_irrefl _)
    | append_singleton front c _ =>
        rw [ends_append, ends_append]
        apply List.mem_append_left
        apply List.mem_append_right
        rw [ends, size_append, size_cons, size_nil, Nat.add_zero, Nat.add_assoc]
        exact List.mem_cons_self

theorem ends_increasing (start : Nat) (cs : List Char) : (ends start cs).Pairwise (· < ·) := by
  induction cs generalizing start with
  | nil => exact .nil
  | cons c cs ih =>
      refine .cons (fun stop later => ?_) (ih _)
      obtain ⟨front, back, -, after, -⟩ := mem_ends_iff.mp later
      exact after

section Range

variable {offset start finish : Nat} {cs : List Char}

/-- No character that ends by the start of a range counts for it. -/
theorem filter_ends_of_le (before : offset + size cs ≤ start) :
    (ends offset cs).filter (fun stop => decide (start < stop) && decide (stop ≤ finish)) = [] := by
  refine List.filter_eq_nil_iff.mpr fun stop member kept => ?_
  obtain ⟨front, back, rfl, -, rfl⟩ := mem_ends_iff.mp member
  rw [Bool.and_eq_true, decide_eq_true_eq, decide_eq_true_eq] at kept
  rw [size_append] at before
  omega

/-- All characters from the start of a range that end within it count. -/
theorem filter_ends_of_within (within : offset + size cs ≤ finish) :
    (ends offset cs).filter (fun stop => decide (offset < stop) && decide (stop ≤ finish)) =
      ends offset cs := by
  refine List.filter_eq_self.mpr fun stop member => ?_
  obtain ⟨front, back, rfl, after, rfl⟩ := mem_ends_iff.mp member
  rw [size_append] at within
  rw [Bool.and_eq_true, decide_eq_true_eq, decide_eq_true_eq]
  omega

/-- Where the first character reaches beyond a range, no later one ends within it. -/
theorem filter_ends_of_lt (beyond : ∀ c ∈ cs.head?, finish < offset + c.utf8Size) :
    (ends offset cs).filter (fun stop => decide (start < stop) && decide (stop ≤ finish)) = [] := by
  refine List.filter_eq_nil_iff.mpr fun stop member kept => ?_
  rw [Bool.and_eq_true, decide_eq_true_eq, decide_eq_true_eq] at kept
  cases cs with
  | nil => cases member
  | cons c cs =>
      have short := beyond c rfl
      rcases List.mem_cons.mp member with rfl | later
      · omega
      · obtain ⟨front, back, -, after, -⟩ := mem_ends_iff.mp later
        omega

end Range

/-- The characters that end in a range of bytes are counted by its bytes that end a character. -/
theorem length_filter_ends (cs : List Char) (start finish : Nat) :
    ((ends 0 cs).filter fun stop => decide (start < stop) && decide (stop ≤ finish)).length =
      ((List.range' start (finish - start)).filter fun byte =>
        isBoundary cs (byte + 1)).length := by
  have apart : ((ends 0 cs).filter fun stop =>
      decide (start < stop) && decide (stop ≤ finish)).Nodup :=
    ((ends_increasing 0 cs).imp Nat.ne_of_lt).filter _
  have apart' : (((List.range' start (finish - start)).filter fun byte =>
      isBoundary cs (byte + 1)).map (· + 1)).Nodup :=
    List.Nodup.map Nat.succ_injective (List.Nodup.filter _ (List.nodup_range' ..))
  have same := (List.perm_ext_iff_of_nodup apart apart').mpr fun stop => by
    simp only [List.mem_filter, List.mem_map, List.mem_range'_1, mem_ends_iff, isBoundary_iff,
      Bool.and_eq_true, decide_eq_true_eq, Nat.zero_add]
    constructor
    · rintro ⟨⟨front, back, split, -, rfl⟩, after, within⟩
      exact ⟨size front - 1, ⟨by omega, front, back, split, by omega⟩, by omega⟩
    · rintro ⟨byte, ⟨range, front, back, split, counted⟩, rfl⟩
      exact ⟨⟨front, back, split, Nat.succ_pos _, counted.symm⟩, by omega, by omega⟩
  rw [same.length_eq, List.length_map]

end Utf8

namespace LineTable

/-- The column of an offset on a line as a listing finds it: one more than the number of bytes of
the line, below the offset, after which the text can be cut. -/
def byteColumn (cs : List Char) (lineStart lineFinish offset : Nat) : Nat :=
  ((List.range' lineStart (min offset (min lineFinish (Utf8.size cs)) - lineStart)).filter
    fun byte => Utf8.isBoundary cs (byte + 1)).length + 1

/-- Counting the characters that end on a line is counting the bytes that end a character. -/
theorem displayColumn_eq_byteColumn (cs : List Char) (lineStart lineFinish offset : Nat) :
    displayColumn cs lineStart lineFinish offset = byteColumn cs lineStart lineFinish offset := by
  have inside : ∀ stop ∈ Utf8.ends 0 cs,
      (stop ≤ min offset lineFinish ↔ stop ≤ min offset (min lineFinish (Utf8.size cs))) := by
    intro stop member
    obtain ⟨front, back, rfl, -, rfl⟩ := Utf8.mem_ends_iff.mp member
    rw [Utf8.size_append]
    omega
  have same : ((Utf8.ends 0 cs).filter fun stop =>
        decide (lineStart < stop) && decide (stop ≤ min offset lineFinish)) =
      (Utf8.ends 0 cs).filter fun stop =>
        decide (lineStart < stop) && decide (stop ≤ min offset (min lineFinish (Utf8.size cs))) :=
    List.filter_congr fun stop member => by rw [decide_eq_decide.mpr (inside stop member)]
  rw [displayColumn, byteColumn, ← Utf8.length_filter_ends, same]

/-- On the line of a byte, the column of the byte counts the characters before its own. -/
theorem displayColumn_of_character {front back : List Char} {lineFinish offset : Nat}
    (reached : Utf8.size front ≤ offset)
    (within : ∀ c ∈ back.head?, offset < Utf8.size front + c.utf8Size)
    (covered : Utf8.size front ≤ lineFinish) :
    displayColumn (front ++ back) (Utf8.size (front.rdropWhile inLine)) lineFinish offset =
      (front.rtakeWhile inLine).length + 1 := by
  have line : front.rdropWhile inLine ++ front.rtakeWhile inLine = front :=
    List.rdropWhile_append_rtakeWhile
  have size := congrArg Utf8.size line
  rw [Utf8.size_append] at size
  have split := Utf8.ends_append 0 (front.rdropWhile inLine) (front.rtakeWhile inLine)
  rw [line, Nat.zero_add] at split
  rw [displayColumn, Utf8.ends_append, Nat.zero_add, split, List.filter_append, List.filter_append,
    Utf8.filter_ends_of_le (by omega), Utf8.filter_ends_of_within (by omega),
    Utf8.filter_ends_of_lt fun c isFirst => (Nat.min_le_left ..).trans_lt (within c isFirst),
    List.nil_append, List.append_nil, Utf8.length_ends]

end LineTable

end DeclLang
