import DeclLang.Proofs.Source.Order
import DeclLang.Source.LineTable

/-!
# Byte offsets of characters

A text is cut at a byte offset exactly when some of its first characters have that many bytes
(`DeclLang.Utf8.split?_eq_some_iff`), and a slice between two offsets is what stands between two
such cuts (`DeclLang.Utf8.slice?_eq_some_iff`). The offset of a location counts the bytes of the
characters that it has passed.
-/

namespace DeclLang

namespace Utf8

/-- Counting bytes on from a total adds what the characters need. -/
private theorem foldl_size (start : Nat) (cs : List Char) :
    cs.foldl (fun total c => total + c.utf8Size) start = start + size cs := by
  induction cs generalizing start with
  | nil => rfl
  | cons c cs ih =>
      rw [size, List.foldl_cons, List.foldl_cons, ih, ih (0 + c.utf8Size)]
      omega

@[simp]
theorem size_nil : size [] = 0 :=
  rfl

@[simp]
theorem size_cons (c : Char) (cs : List Char) : size (c :: cs) = c.utf8Size + size cs := by
  rw [size, List.foldl_cons, foldl_size, Nat.zero_add]

@[simp]
theorem size_append (before after : List Char) :
    size (before ++ after) = size before + size after := by
  induction before with
  | nil => simp
  | cons c cs ih => simp [ih, Nat.add_assoc]

/-- Every character takes at least one byte. -/
theorem size_pos {cs : List Char} (filled : cs ≠ []) : 0 < size cs := by
  obtain ⟨c, rest, rfl⟩ := List.exists_cons_of_ne_nil filled
  rw [size_cons]
  exact Nat.add_pos_left c.utf8Size_pos _

/-- Characters take the bytes of the string that they make. -/
theorem size_eq_utf8ByteSize (cs : List Char) : size cs = (String.ofList cs).utf8ByteSize := by
  induction cs with
  | nil => rfl
  | cons c cs ih =>
      rw [size_cons, ih, String.ofList_cons, String.utf8ByteSize_append,
        String.utf8ByteSize_singleton]

@[simp]
theorem size_toList (text : String) : size text.toList = text.utf8ByteSize := by
  rw [size_eq_utf8ByteSize, String.ofList_toList]

/-- The first characters of a text have no more bytes than all of it. -/
theorem size_le_of_append {text : String} {front back : List Char}
    (split : text.toList = front ++ back) : size front ≤ text.utf8ByteSize := by
  rw [← size_toList, split, size_append]
  exact Nat.le_add_right _ _

/-- A text can be split behind each of its front parts. -/
@[simp]
theorem split?_append (before after : List Char) :
    split? (size before) (before ++ after) = some (before, after) := by
  induction before with
  | nil => cases after <;> rfl
  | cons c before ih =>
      have := c.utf8Size_pos
      rw [List.cons_append, split?, size_cons, if_neg (by omega), if_neg (by omega),
        Nat.add_sub_cancel_left, ih]
      rfl

/-- A text is cut after some of its characters at their size, and nowhere else. -/
theorem split?_eq_some_iff {bytes : Nat} {cs before after : List Char} :
    split? bytes cs = some (before, after) ↔ cs = before ++ after ∧ size before = bytes := by
  constructor
  · intro cut
    induction cs generalizing bytes before with
    | nil =>
        rw [split?] at cut
        split at cut
        · cases cut
          exact ⟨rfl, Eq.symm ‹bytes = 0›⟩
        · cases cut
    | cons c rest ih =>
        rw [split?] at cut
        split at cut
        · cases cut
          exact ⟨rfl, Eq.symm ‹bytes = 0›⟩
        split at cut
        · cases cut
        · obtain ⟨parts, later, same⟩ := Option.map_eq_some_iff.mp cut
          obtain ⟨rfl, rfl⟩ := Prod.mk.inj same
          obtain ⟨rfl, counted⟩ := ih later
          refine ⟨rfl, ?_⟩
          rw [size_cons]
          omega
  · rintro ⟨rfl, rfl⟩
    exact split?_append before after

/-- The characters between two byte offsets of a text, unless one of the offsets falls inside a
character or after the end or they are in the wrong order. -/
def slice? (start finish : Nat) (cs : List Char) : Option (List Char) :=
  if start ≤ finish then do
    let (_, onward) ← split? start cs
    let (piece, _) ← split? (finish - start) onward
    return piece
  else none

/-- A slice is what stands between two cuts of a text. -/
theorem slice?_eq_some_iff {start finish : Nat} {cs piece : List Char} :
    slice? start finish cs = some piece ↔
      ∃ before after, cs = before ++ piece ++ after ∧ size before = start ∧
        size (before ++ piece) = finish := by
  constructor
  · intro cut
    rw [slice?] at cut
    split at cut
    · rename_i ordered
      obtain ⟨⟨before, onward⟩, first, cut⟩ := Option.bind_eq_some_iff.mp cut
      obtain ⟨⟨piece', after⟩, second, same⟩ := Option.bind_eq_some_iff.mp cut
      obtain rfl := Option.some.inj same
      obtain ⟨rfl, rfl⟩ := split?_eq_some_iff.mp first
      obtain ⟨rfl, counted⟩ := split?_eq_some_iff.mp second
      refine ⟨before, after, (List.append_assoc ..).symm, rfl, ?_⟩
      rw [size_append]
      omega
    · cases cut
  · rintro ⟨before, after, rfl, rfl, rfl⟩
    rw [slice?, size_append, if_pos (Nat.le_add_right _ _), List.append_assoc, split?_append,
      Nat.add_sub_cancel_left]
    change (split? (size piece) (piece ++ after)).bind _ = _
    rw [split?_append]
    rfl

end Utf8

namespace Location

@[simp]
theorem offset_advance (here : Location) (c : Char) :
    (here.advance c).offset = here.offset + c.utf8Size := by
  rw [advance]
  split <;> rfl

@[simp]
theorem offset_advanceAll (here : Location) (cs : List Char) :
    (here.advanceAll cs).offset = here.offset + Utf8.size cs := by
  induction cs generalizing here with
  | nil => rfl
  | cons c cs ih => simp [ih, Nat.add_assoc]

end Location

end DeclLang
