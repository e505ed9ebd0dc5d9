import DeclLang.Proofs.Source.Bytes
import DeclLang.Source.LineTable
import Mathlib.Data.List.DropRight

/-!
# Lines counted and lines looked up

The location after some characters is known in three ways. A running location has moved over them
one by one. `DeclLang.Location.after` counts anew: the line feeds among them, the characters since
the last one, and their bytes. A line table finds the line by a search among the starts of lines.
The three agree, so a running location need not be kept where a table is at hand.
-/

namespace DeclLang

/-- Whether a character stands in a line and does not end it. -/
def inLine (c : Char) : Bool :=
  c != '\n'

namespace Location

/-- The location after the first characters of a text, counted anew. -/
def after (passed : List Char) : Location :=
  ⟨1 + passed.count '\n', 1 + (passed.rtakeWhile inLine).length, Utf8.size passed⟩

@[simp]
theorem offset_after (passed : List Char) : (after passed).offset = Utf8.size passed :=
  rfl

@[simp]
theorem advanceAll_append (here : Location) (front back : List Char) :
    here.advanceAll (front ++ back) = (here.advanceAll front).advanceAll back :=
  List.foldl_append

/-- A location that has run from the origin is the one counted anew. -/
theorem advanceAll_origin (passed : List Char) : origin.advanceAll passed = after passed := by
  induction passed using List.reverseRecOn with
  | nil => rfl
  | append_singleton passed c ih =>
      have size : Utf8.size (passed ++ [c]) = Utf8.size passed + c.utf8Size := by simp
      rw [advanceAll_append, ih]
      change (after passed).advance c = _
      rw [advance, after, after, size]
      by_cases feed : c = '\n'
      · subst feed
        rw [if_pos rfl, List.rtakeWhile_concat_neg inLine passed '\n' (by decide)]
        simp [Nat.add_assoc]
      · have kept : inLine c = true := bne_iff_ne.mpr feed
        rw [if_neg feed, List.rtakeWhile_concat_pos inLine passed c kept]
        simp [feed, Nat.add_assoc]

/-- Passing anything at all moves a location on. -/
theorem lt_advanceAll (here : Location) {cs : List Char} (filled : cs ≠ []) :
    here < here.advanceAll cs := by
  obtain ⟨c, rest, rfl⟩ := List.exists_cons_of_ne_nil filled
  exact (lt_advance here c).trans_le (le_advanceAll (here.advance c) rest)

/-- Of two places in a text the later one, by bytes, has the greater location. -/
theorem after_lt_after {front front' back back' : List Char}
    (same : front ++ back = front' ++ back') (fewer : Utf8.size front < Utf8.size front') :
    after front < after front' := by
  rcases List.append_eq_append_iff.mp same with ⟨between, rfl, -⟩ | ⟨between, rfl, -⟩
  · have filled : between ≠ [] := by
      rintro rfl
      simp at fewer
    rw [← advanceAll_origin, ← advanceAll_origin, advanceAll_append]
    exact lt_advanceAll _ filled
  · rw [Utf8.size_append] at fewer
    omega

end Location

namespace LineTable

/-- The line starts of two texts joined, those of the second moved behind the first. -/
@[simp]
theorem startsAfterFeeds_append (offset : Nat) (front back : List Char) :
    startsAfterFeeds offset (front ++ back) =
      startsAfterFeeds offset front ++ startsAfterFeeds (offset + Utf8.size front) back := by
  induction front generalizing offset with
  | nil => rfl
  | cons c front ih =>
      rw [List.cons_append, startsAfterFeeds, startsAfterFeeds, ih, Utf8.size_cons, Nat.add_assoc]
      split <;> rfl

@[simp]
theorem length_startsAfterFeeds (offset : Nat) (cs : List Char) :
    (startsAfterFeeds offset cs).length = cs.count '\n' := by
  induction cs generalizing offset with
  | nil => rfl
  | cons c cs ih =>
      rw [startsAfterFeeds]
      by_cases feed : c = '\n'
      · rw [if_pos feed, List.length_cons, ih, feed, List.count_cons_self]
      · rw [if_neg feed, ih, List.count_cons_of_ne feed]

/-- The lines of a text start after its beginning and no later than its end. -/
theorem mem_startsAfterFeeds {offset start : Nat} {cs : List Char}
    (member : start ∈ startsAfterFeeds offset cs) :
    offset < start ∧ start ≤ offset + Utf8.size cs := by
  induction cs generalizing offset with
  | nil => cases member
  | cons c cs ih =>
      have wide := c.utf8Size_pos
      rw [Utf8.size_cons]
      rw [startsAfterFeeds] at member
      split at member
      · rcases List.mem_cons.mp member with rfl | later
        · omega
        · have := ih later
          omega
      · have := ih member
        omega

/-- The last line start is behind the last line feed. -/
theorem getLast?_starts (offset : Nat) (cs : List Char) :
    (offset :: startsAfterFeeds offset cs).getLast? =
      some (offset + Utf8.size (cs.rdropWhile inLine)) := by
  induction cs using List.reverseRecOn with
  | nil => rfl
  | append_singleton cs c ih =>
      rw [startsAfterFeeds_append, startsAfterFeeds]
      by_cases feed : c = '\n'
      · subst feed
        rw [if_pos rfl, List.rdropWhile_concat_neg inLine cs '\n' (by decide), ← List.cons_append,
          List.getLast?_append]
        simp [startsAfterFeeds, Nat.add_assoc]
      · have kept : inLine c = true := bne_iff_ne.mpr feed
        rw [if_neg feed, List.rdropWhile_concat_pos inLine cs c kept, startsAfterFeeds,
          List.append_nil, ih]

/-- No line starts inside the first character of a text. -/
theorem le_of_mem_startsAfterFeeds_cons {offset start : Nat} {c : Char} {cs : List Char}
    (member : start ∈ startsAfterFeeds offset (c :: cs)) : offset + c.utf8Size ≤ start := by
  rw [startsAfterFeeds] at member
  split at member
  · rcases List.mem_cons.mp member with rfl | later
    · exact Nat.le_refl _
    · exact (mem_startsAfterFeeds later).1.le
  · exact (mem_startsAfterFeeds member).1.le

/-- The line of a byte in a text is found by the number of line feeds before its character. -/
theorem lineIndex_of_character (front back : List Char) {offset : Nat}
    (reached : Utf8.size front ≤ offset)
    (within : ∀ c ∈ back.head?, offset < Utf8.size front + c.utf8Size) :
    (ofText (front ++ back)).lineIndex offset = front.count '\n' := by
  have before : ∀ start ∈ 0 :: startsAfterFeeds 0 front, start ≤ offset := by
    intro start member
    rcases List.mem_cons.mp member with rfl | later
    · exact Nat.zero_le _
    · have := mem_startsAfterFeeds later
      omega
  have beyond : ∀ start ∈ startsAfterFeeds (0 + Utf8.size front) back, ¬ start ≤ offset := by
    intro start member
    cases back with
    | nil => cases member
    | cons c back =>
        have := le_of_mem_startsAfterFeeds_cons member
        have := within c rfl
        omega
  have found : (0 :: startsAfterFeeds 0 (front ++ back)).takeWhile
      (fun start => decide (start ≤ offset)) = 0 :: startsAfterFeeds 0 front := by
    rw [startsAfterFeeds_append, ← List.cons_append,
      List.takeWhile_append_of_pos (by simpa using before)]
    rw [List.takeWhile_eq_nil_iff.mpr, List.append_nil]
    intro filled
    simpa using beyond _ (List.getElem_mem filled)
  rw [lineIndex, ofText, found, List.length_cons, length_startsAfterFeeds, Nat.add_sub_cancel]

/-- The line of a place in a text is found by the number of line feeds before it. -/
theorem lineIndex_ofText (front back : List Char) :
    (ofText (front ++ back)).lineIndex (Utf8.size front) = front.count '\n' :=
  lineIndex_of_character front back (Nat.le_refl _) fun c _ =>
    Nat.lt_add_of_pos_right c.utf8Size_pos

/-- The line of a place in a text starts after the last line feed before it. -/
theorem getElem?_starts_ofText (front back : List Char) :
    (ofText (front ++ back)).starts[front.count '\n']? =
      some (Utf8.size (front.rdropWhile inLine)) := by
  have last := getLast?_starts 0 front
  have count : front.count '\n' < (0 :: startsAfterFeeds 0 front).length := by
    simp
  rw [ofText, startsAfterFeeds_append, ← List.cons_append, List.getElem?_append_left count]
  rw [List.getLast?_eq_getElem?, List.length_cons, length_startsAfterFeeds, Nat.zero_add] at last
  exact last

end LineTable

end DeclLang
