import DeclLang.Token
import Mathlib.Data.List.Chain
import Mathlib.Order.Defs.LinearOrder

/-!
# The order of locations and of tokens

Locations are linearly ordered, and a location only grows while characters are passed. Tokens are
in order when they lie in one source and each starts at or after the end of the one before; every
stretch from the start of one of them to the end of a later one is then a proper span.
-/

namespace DeclLang

namespace Location

/-- Locations are compared by line first, then by column, then by offset. -/
theorem lt_iff {a b : Location} :
    a < b ↔ a.line < b.line ∨
      a.line = b.line ∧ (a.column < b.column ∨ a.column = b.column ∧ a.offset < b.offset) :=
  Iff.rfl

private theorem lt_irreflexive (a : Location) : ¬ a < a := by
  rw [lt_iff]
  omega

private theorem lt_transitive {a b c : Location} (first : a < b) (second : b < c) : a < c := by
  rw [lt_iff] at *
  omega

private theorem lt_or_eq_or_gt (a b : Location) : a < b ∨ a = b ∨ b < a := by
  obtain ⟨line, column, offset⟩ := a
  obtain ⟨line', column', offset'⟩ := b
  simp only [lt_iff, Location.mk.injEq]
  omega

/-- Locations are ordered by line, then column, then offset. -/
instance : LinearOrder Location where
  le_refl a := Or.inr rfl
  le_trans a b c first second := by
    rcases first with first | rfl
    · rcases second with second | rfl
      · exact Or.inl (lt_transitive first second)
      · exact Or.inl first
    · exact second
  lt_iff_le_not_ge a b := by
    constructor
    · intro below
      refine ⟨Or.inl below, ?_⟩
      rintro (above | rfl)
      · exact lt_irreflexive a (lt_transitive below above)
      · exact lt_irreflexive _ below
    · rintro ⟨below | rfl, notAbove⟩
      · exact below
      · exact absurd (Or.inr rfl) notAbove
  le_antisymm a b first second := by
    rcases first with first | same
    · rcases second with second | same
      · exact absurd (lt_transitive first second) (lt_irreflexive a)
      · exact same.symm
    · exact same
  le_total a b := by
    rcases lt_or_eq_or_gt a b with below | same | above
    · exact Or.inl (Or.inl below)
    · exact Or.inl (Or.inr same)
    · exact Or.inr (Or.inl above)
  toDecidableLE := inferInstance
  toDecidableEq := inferInstance
  toDecidableLT := inferInstance
  compare_eq_compareOfLessAndEq _ _ := rfl

/-- Every character moves a location on, a line feed to the next line. -/
theorem lt_advance (here : Location) (c : Char) : here < here.advance c := by
  rw [lt_iff, advance]
  split
  · exact Or.inl (Nat.lt_succ_self _)
  · exact Or.inr ⟨rfl, Or.inl (Nat.lt_succ_self _)⟩

@[simp]
theorem advanceAll_nil (here : Location) : here.advanceAll [] = here :=
  rfl

@[simp]
theorem advanceAll_cons (here : Location) (c : Char) (cs : List Char) :
    here.advanceAll (c :: cs) = (here.advance c).advanceAll cs :=
  rfl

theorem le_advanceAll (here : Location) (cs : List Char) : here ≤ here.advanceAll cs := by
  induction cs generalizing here with
  | nil => exact le_refl here
  | cons c cs ih => exact (lt_advance here c).le.trans (ih (here.advance c))

end Location

namespace Token

/-- A token of one character on the first line of a source. -/
def single (kind : TokenKind) (text : String) (offset : Nat) : Token :=
  ⟨kind, text, "main", ⟨1, offset + 1, offset⟩, ⟨1, offset + 2, offset + 1⟩⟩

/-- Tokens that lie in one source, of which none ends before it starts and each starts at or after
the end of the one before. -/
structure InOrder (source : String) (tokens : List Token) : Prop where
  sources : ∀ t ∈ tokens, t.span.source = source
  ordered : ∀ t ∈ tokens, t.span.Ordered
  successive : tokens.IsChain fun earlier later => earlier.span.finish ≤ later.span.start

namespace InOrder

variable {source : String} {first last : Token} {rest front back : List Token}

theorem nil : InOrder source [] :=
  ⟨by simp, by simp, List.isChain_nil⟩

/-- A token in front of tokens in order, which it does not reach into. -/
theorem cons (named : first.span.source = source) (ordered : first.span.Ordered)
    (before : ∀ next ∈ rest.head?, first.span.finish ≤ next.span.start)
    (inOrder : InOrder source rest) : InOrder source (first :: rest) where
  sources := List.forall_mem_cons.mpr ⟨named, inOrder.sources⟩
  ordered := List.forall_mem_cons.mpr ⟨ordered, inOrder.ordered⟩
  successive := List.isChain_cons.mpr ⟨before, inOrder.successive⟩

theorem tail (inOrder : InOrder source (first :: rest)) : InOrder source rest where
  sources := (List.forall_mem_cons.mp inOrder.sources).2
  ordered := (List.forall_mem_cons.mp inOrder.ordered).2
  successive := (List.isChain_cons.mp inOrder.successive).2

theorem of_append_right (inOrder : InOrder source (front ++ back)) : InOrder source back := by
  induction front with
  | nil => exact inOrder
  | cons first front ih => exact ih inOrder.tail

/-- Order is not only between neighbours: each token ends before all later ones start. -/
theorem pairwise (inOrder : InOrder source rest) :
    rest.Pairwise fun earlier later => earlier.span.finish ≤ later.span.start := by
  induction rest with
  | nil => exact .nil
  | cons first rest ih =>
      have later := ih inOrder.tail
      refine .cons (fun t member => ?_) later
      cases rest with
      | nil => cases member
      | cons second rest =>
          have next : first.span.finish ≤ second.span.start :=
            (List.isChain_cons_cons.mp inOrder.successive).1
          rcases List.mem_cons.mp member with rfl | member
          · exact next
          · have ordered : second.span.start ≤ second.span.finish :=
              inOrder.ordered second (List.mem_cons_of_mem first List.mem_cons_self)
            exact next.trans (ordered.trans (List.rel_of_pairwise_cons later member))

/-- Leaving tokens out keeps the others in order. -/
theorem sublist (inOrder : InOrder source rest) (kept : front.Sublist rest) :
    InOrder source front where
  sources := fun t member => inOrder.sources t (kept.subset member)
  ordered := fun t member => inOrder.ordered t (kept.subset member)
  successive := (inOrder.pairwise.sublist kept).isChain

/-- No token ends before an earlier one starts. -/
theorem start_le_finish (inOrder : InOrder source (first :: rest)) (member : last ∈ rest) :
    first.span.start ≤ last.span.finish := by
  induction rest generalizing first with
  | nil => cases member
  | cons second rest ih =>
      have firstOrdered : first.span.start ≤ first.span.finish :=
        inOrder.ordered first List.mem_cons_self
      have secondOrdered : second.span.start ≤ second.span.finish :=
        inOrder.ordered second (List.mem_cons_of_mem first List.mem_cons_self)
      have apart : first.span.finish ≤ second.span.start :=
        (List.isChain_cons_cons.mp inOrder.successive).1
      have reached : first.span.start ≤ second.span.start := firstOrdered.trans apart
      rcases List.mem_cons.mp member with rfl | later
      · exact reached.trans secondOrdered
      · exact reached.trans (ih inOrder.tail later)

/-- The spans of two tokens in order merge without a fault. -/
theorem merge_eq_ok (inOrder : InOrder source (first :: rest)) (member : last ∈ rest) :
    Span.merge first.span last.span =
      .ok ⟨first.span.source, first.span.start, last.span.finish⟩ := by
  have named : first.span.source = last.span.source :=
    (inOrder.sources first List.mem_cons_self).trans
      (inOrder.sources last (List.mem_cons_of_mem first member)).symm
  rw [Span.merge, if_pos named, Span.ofLocations, if_pos (inOrder.start_le_finish member)]

end InOrder

end Token

end DeclLang
