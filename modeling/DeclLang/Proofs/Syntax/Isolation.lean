import DeclLang.Proofs.Syntax.Resumption

/-!
# Recovery isolates damage

Junk between groups of declarations costs nothing but itself. A recovering parse keeps every
declaration of the groups and adds none, and junk yields at most one error, provided that no
declaration starts inside junk or across its end, and that junk does not go on with the declaration
in front of it.
-/

namespace DeclLang

/-- Tokens between declarations: at least one, no two identifiers next to each other, and no
identifier at the end. -/
structure Junk where
  tokens : List Token
  filled : tokens ≠ []
  skipped : Round.Skipped tokens

/-- Junk and the group of phrases after it. -/
structure Segment where
  junk : Junk
  group : List Phrase

namespace Junk

/-- The error that is reported in some junk, if one is. Leading runes are passed over; what is left
is at fault at its first token, or at the second after an identifier, but not at a rune. -/
def errorIn? : List Token → Option ParseError
  | [] => none
  | first :: rest =>
      if first.kind = .rune then errorIn? rest
      else if first.kind = .identifier then
        rest.head?.bind fun second =>
          if second.kind = .rune then none else some (.unexpectedToken second .type)
      else some (.unexpectedToken first .declaration)

/-- The error that is reported in junk, if one is. -/
def error? (junk : Junk) : Option ParseError :=
  errorIn? junk.tokens

/-- Runes alone are passed over. -/
theorem errorIn?_of_runes {tokens : List Token} (runes : ∀ t ∈ tokens, t.kind = .rune) :
    errorIn? tokens = none := by
  induction tokens with
  | nil => rfl
  | cons first rest ih =>
      obtain ⟨isRune, runes⟩ := List.forall_mem_cons.mp runes
      rw [errorIn?, if_pos isRune, ih runes]

/-- Junk without a rune is at fault at its first token, or at its second if the first is an
identifier. -/
theorem error?_of_runeless {junk : Junk} (runeless : ∀ t ∈ junk.tokens, t.kind ≠ .rune)
    {first : Token} {rest : List Token} (split : junk.tokens = first :: rest) :
    (first.kind ≠ .identifier → junk.error? = some (.unexpectedToken first .declaration)) ∧
      (first.kind = .identifier →
        ∃ second ∈ rest.head?, junk.error? = some (.unexpectedToken second .type)) := by
  have closed := junk.skipped.closed
  rw [split] at runeless closed
  obtain ⟨notRune, others⟩ := List.forall_mem_cons.mp runeless
  rw [error?, split, errorIn?, if_neg notRune]
  constructor
  · intro other
    rw [if_neg other]
  · intro named
    rw [if_pos named]
    cases rest with
    | nil => exact absurd named (closed first rfl)
    | cons second rest =>
        have shown : second.kind ≠ .rune := others second List.mem_cons_self
        exact ⟨second, rfl, by simp [shown]⟩

end Junk

namespace Segment

/-- The tokens of a segment. -/
def tokens (segment : Segment) : List Token :=
  segment.junk.tokens ++ segment.group.flatMap Phrase.tokens

/-- A group of phrases and then segments. The phrase before some junk must end there, and only the
last segment may lack phrases. -/
inductive Alternating : List Phrase → List Segment → Prop
  | last (group : List Phrase) : Alternating group []
  | next {group : List Phrase} {segment : Segment} {segments : List Segment}
      (seam : ∀ last ∈ group.getLast?, last.EndsBefore segment.junk.tokens)
      (separated : segment.group = [] → segments = [])
      (later : Alternating segment.group segments) : Alternating group (segment :: segments)

end Segment

namespace Round.Recovers

variable {budget index : Nat} {tokens rest : List Token} {declarations : List Declaration}
  {errors : List ParseError}

/-- A round that fails at the start of skipped tokens resumes after all of them. -/
theorem resumeAfter_skipped (skipped : Skipped tokens)
    (starts : rest = [] ∨ startsDeclaration rest = true) {taken : Nat} (few : taken ≤ 1)
    (later : ∀ index, Recovers budget index rest declarations errors) (index : Nat) :
    Recovers budget (resumeAfter index taken (tokens ++ rest)).1
      (resumeAfter index taken (tokens ++ rest)).2 declarations errors := by
  have none : taken - 1 = 0 := by omega
  rw [resumeAfter, none, List.drop_zero, resume_append skipped, resume_of_starts starts]
  exact later _

/-- Junk yields its error, if it has one, and what comes after it is read as if it stood alone. -/
theorem junk (skipped : Skipped tokens) (starts : rest = [] ∨ startsDeclaration rest = true)
    (later : ∀ budget' index, budget ≤ budget' →
      Recovers budget' index rest declarations errors) (index : Nat) :
    Recovers (budget + 1) index (tokens ++ rest) declarations
      ((Junk.errorIn? tokens).toList ++ errors) := by
  -- Junk reports at most one error, so what comes after it is met with the same budget or with one
  -- less, and both are needed.
  have silent := fun index => later (budget + 1) index (Nat.le_succ budget)
  have counted := fun index => later budget index (Nat.le_refl budget)
  induction tokens generalizing index with
  | nil => exact silent index
  | cons first tokens ih =>
      rw [Junk.errorIn?]
      by_cases isRune : first.kind = .rune
      · rw [if_pos isRune]
        exact .passed isRune (ih skipped.tail (index + 1))
      rw [if_neg isRune]
      by_cases named : first.kind = .identifier
      · rw [if_pos named]
        cases tokens with
        | nil => exact absurd named (skipped.closed first rfl)
        | cons second tokens =>
            have other : second.kind ≠ .identifier := fun typed =>
              (List.isChain_cons_cons.mp skipped.apart).1 ⟨named, typed⟩
            have refusal : Reading.Refusal (first :: second :: (tokens ++ rest)) _ 1 :=
              .noType first second (tokens ++ rest) named other
            by_cases cutShort : second.kind = .rune
            · have atRune : runeOf? (.unexpectedToken second .type) = some second :=
                if_pos cutShort
              have resumed := resumeAfter_skipped skipped.tail starts (Nat.le_refl 1) silent index
              simpa [cutShort] using Recovers.cut isRune refusal atRune resumed
            · have notAtRune : runeOf? (.unexpectedToken second .type) = none :=
                if_neg cutShort
              have resumed := resumeAfter_skipped skipped.tail starts (Nat.le_refl 1) counted index
              simpa [cutShort] using Recovers.reported isRune refusal notAtRune resumed
      · rw [if_neg named]
        have refusal : Reading.Refusal (first :: (tokens ++ rest)) _ 0 :=
          .noName first (tokens ++ rest) named
        have notAtRune : runeOf? (.unexpectedToken first .declaration) = none := if_neg isRune
        have resumed := resumeAfter_skipped skipped.tail starts (Nat.zero_le 1) counted index
        exact .reported isRune refusal notAtRune resumed

/-- Groups and junk in turn yield the declarations of the groups and the errors of the junk. -/
theorem segments {group : List Phrase} {segments : List Segment}
    (alternating : Segment.Alternating group segments) (enough : segments.length ≤ budget)
    (index : Nat) :
    Recovers budget index (group.flatMap Phrase.tokens ++ segments.flatMap Segment.tokens)
      ((group ++ segments.flatMap Segment.group).map Phrase.declaration)
      (segments.filterMap fun segment => segment.junk.error?) := by
  induction alternating generalizing budget index with
  | last group =>
      have ends : ∀ last ∈ group.getLast?, last.EndsBefore [] := fun last _ => last.endsBefore_nil
      have grouped := Recovers.phrases ends (fun index => .finished budget index) index
      simpa using grouped
  | @next group segment segments seam separated alternating ih =>
      obtain ⟨budget, rfl⟩ : ∃ fewer, budget = fewer + 1 :=
        Nat.exists_eq_succ_of_ne_zero (by rw [List.length_cons] at enough; omega)
      have fewer : segments.length ≤ budget := by
        rw [List.length_cons] at enough
        omega
      have starts : segment.group.flatMap Phrase.tokens ++ segments.flatMap Segment.tokens = [] ∨
          startsDeclaration
            (segment.group.flatMap Phrase.tokens ++ segments.flatMap Segment.tokens) = true := by
        cases phrases : segment.group with
        | nil => exact Or.inl (by rw [separated phrases]; rfl)
        | cons phrase phrases =>
            right
            simp [startsDeclaration, Phrase.tokens, Phrase.others, phrase.name_kind,
              phrase.type_kind]
      have damaged := Recovers.junk segment.junk.skipped starts
        fun budget' index more => ih (fewer.trans more) index
      have ends : ∀ last ∈ group.getLast?, last.EndsBefore (segment.junk.tokens ++
          (segment.group.flatMap Phrase.tokens ++ segments.flatMap Segment.tokens)) := by
        intro last isLast absent next isNext
        rw [List.head?_append_of_ne_nil _ segment.junk.filled] at isNext
        exact seam last isLast absent next isNext
      have whole := Recovers.phrases ends damaged index
      have reported : ((segment :: segments).filterMap fun segment => segment.junk.error?) =
          (Junk.errorIn? segment.junk.tokens).toList ++
            segments.filterMap fun segment => segment.junk.error? := by
        rw [List.filterMap_cons, Junk.error?]
        cases Junk.errorIn? segment.junk.tokens <;> rfl
      rw [reported]
      simpa [Segment.tokens, List.append_assoc] using whole

end Round.Recovers

namespace Tree

/-- **Recovery isolates damage.** Groups of phrases with junk between them are parsed, with a limit
above the number of pieces of junk, to the declarations of all groups and of nothing else. Each
piece of junk has at most one error: one at its first token, or at its second after an identifier,
if it has no rune, and none if it has nothing else. -/
theorem recovery_isolates_junk (name source : String) (group : List Phrase)
    (segments : List Segment) (limit : Nat) (alternating : Segment.Alternating group segments)
    (inOrder : Token.InOrder source
      (group.flatMap Phrase.tokens ++ segments.flatMap Segment.tokens))
    (enough : segments.length < limit) :
    parseRecovering name (group.flatMap Phrase.tokens ++ segments.flatMap Segment.tokens) limit =
        .ok (⟨name, (group ++ segments.flatMap Segment.group).map Phrase.declaration⟩,
          segments.filterMap fun segment => segment.junk.error?) ∧
      ∀ segment ∈ segments,
        ((∀ t ∈ segment.junk.tokens, t.kind ≠ .rune) →
          ∀ first rest, segment.junk.tokens = first :: rest →
            (first.kind ≠ .identifier →
              segment.junk.error? = some (.unexpectedToken first .declaration)) ∧
            (first.kind = .identifier → ∃ second ∈ rest.head?,
              segment.junk.error? = some (.unexpectedToken second .type))) ∧
        ((∀ t ∈ segment.junk.tokens, t.kind = .rune) → segment.junk.error? = none) := by
  constructor
  · have fewer : segments.length ≤ limit - 1 := by omega
    have recovers := Round.Recovers.segments alternating fewer 0
    exact Round.parseRecovering_of_recovers name recovers inOrder
  · intro segment _
    exact ⟨fun runeless first rest split => Junk.error?_of_runeless runeless split,
      Junk.errorIn?_of_runes⟩

/-- The declaration `x T`. -/
def undamaged : List Phrase :=
  [⟨.single .identifier "x" 0, .single .identifier "T" 2, none, rfl, rfl⟩]

/-- The junk `a 1`, the declaration `y T = 2`, the junk `@` and the declaration `z T`. -/
def damage : List Segment :=
  [{ junk := ⟨[.single .identifier "a" 4, .single .number "1" 6], by simp,
       .cons_cons (by decide) (.cons (by decide) .nil)⟩
     group :=
       [{ name := .single .identifier "y" 8
          type := .single .identifier "T" 10
          assignment? := some
            { equals := .single .operator "=" 12
              number := .single .number "2" 14
              value := .integer 2
              equals_kind := rfl
              equals_text := rfl
              number_kind := rfl
              number_text := by decide }
          name_kind := rfl
          type_kind := rfl }] },
   { junk := ⟨[.single .rune "@" 16], by simp, .cons (by decide) .nil⟩
     group := [⟨.single .identifier "z" 18, .single .identifier "T" 20, none, rfl, rfl⟩] }]

/-- All three declarations are kept, and only the `1` is reported. -/
theorem parseRecovering_damage :
    Segment.Alternating undamaged damage ∧
      Token.InOrder "main"
        (undamaged.flatMap Phrase.tokens ++ damage.flatMap Segment.tokens) ∧
      damage.length < 3 ∧
      parseRecovering "main"
          (undamaged.flatMap Phrase.tokens ++ damage.flatMap Segment.tokens) 3 =
        .ok (⟨"main", (undamaged ++ damage.flatMap Segment.group).map Phrase.declaration⟩,
          [.unexpectedToken (.single .number "1" 6) .type]) := by
  have alternating : Segment.Alternating undamaged damage := by
    refine .next ?_ (fun empty => nomatch empty) (.next ?_ (fun empty => nomatch empty) (.last _))
    · intro last _ _ next isNext assigned
      obtain rfl := Option.some.inj isNext
      cases assigned.1
    · intro last _ _ next isNext assigned
      obtain rfl := Option.some.inj isNext
      cases assigned.1
  have inOrder : Token.InOrder "main"
      (undamaged.flatMap Phrase.tokens ++ damage.flatMap Segment.tokens) :=
    ⟨by decide, by decide, by decide⟩
  exact ⟨alternating, inOrder, by decide,
    (recovery_isolates_junk "main" "main" undamaged damage 3 alternating inOrder (by decide)).1⟩

end Tree

end DeclLang
