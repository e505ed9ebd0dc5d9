import DeclLang.Proofs.Syntax.Resumption

/-!
# Runes among phrases

Runes that fall among the tokens of some phrases should cost a recovering parse the phrases that
they cut and nothing else, since the scan has reported them. Whether they do depends on where they
stand. A rune between a type and an equals sign leaves a declaration without its value and an equals
sign that nothing can start with. A rune between a name and its type cuts the phrase; if the type
then stands right before the name of the next phrase, recovery takes these two for a declaration.
This slip goes on from phrase to phrase until a rune after a type ends it, unless an equals sign or
the end comes first. `DeclLang.Interrupted.Silent` tells from the places of the runes alone whether
an error comes of them, and `DeclLang.Interrupted.settled` shows by induction on the phrases that
recovery keeps to it.
-/

namespace DeclLang

namespace Phrase

/-- A rune is no equals sign, so every phrase ends before it. -/
theorem endsBefore_rune_cons (phrase : Phrase) {rune : Token} (isRune : rune.kind = .rune)
    (rest : List Token) : phrase.EndsBefore (rune :: rest) := by
  intro _ next isNext assigned
  obtain rfl := Option.some.inj isNext
  cases isRune.symm.trans assigned.1

/-- A phrase that ends before some tokens ends before them with runes in between. -/
theorem EndsBefore.runes_append {phrase : Phrase} {runes rest : List Token}
    (ends : phrase.EndsBefore rest) (areRunes : ∀ t ∈ runes, t.kind = .rune) :
    phrase.EndsBefore (runes ++ rest) := by
  cases runes with
  | nil => exact ends
  | cons rune runes => exact phrase.endsBefore_rune_cons (areRunes rune List.mem_cons_self) _

end Phrase

namespace Round

/-- A recovering parse from an index on reports no error exactly under a condition. -/
def SilentIff (budget index : Nat) (tokens : List Token) (condition : Prop) : Prop :=
  ∃ declarations errors, Recovers budget index tokens declarations errors ∧
    (errors = [] ↔ condition)

/-- A recovering parse that looks from an index on for a place to resume reports no error exactly
under a condition. -/
def ResumesSilentIff (budget index : Nat) (tokens : List Token) (condition : Prop) : Prop :=
  SilentIff budget (resume index tokens).1 (resume index tokens).2 condition

variable {budget index taken : Nat} {first rune : Token} {tokens rest : List Token}
  {e : ParseError} {condition : Prop}

namespace SilentIff

theorem finished (holds : condition) (index : Nat) : SilentIff budget index [] condition :=
  ⟨[], [], .finished budget index, by simp [holds]⟩

/-- A declaration reports nothing and leaves the condition to the tokens behind it. -/
theorem declared (phrase : Phrase) (ends : phrase.EndsBefore rest)
    (later : ∀ index, SilentIff budget index rest condition) (index : Nat) :
    SilentIff budget index (phrase.tokens ++ rest) condition := by
  obtain ⟨declarations, errors, recovers, silent⟩ := later (index + phrase.tokens.length)
  exact ⟨_, errors, .declared phrase ends recovers, silent⟩

/-- A phrase that a rune cuts reports nothing and leaves the condition to where recovery resumes. -/
theorem cut (other : first.kind ≠ .rune) (refusal : Reading.Refusal (first :: rest) e taken)
    (atRune : runeOf? e = some rune)
    (later : ∀ index, ResumesSilentIff budget index (rest.drop (taken - 1)) condition)
    (index : Nat) : SilentIff budget index (first :: rest) condition := by
  obtain ⟨declarations, errors, recovers, silent⟩ := later (index + 1 + (taken - 1))
  exact ⟨declarations, errors, .cut other refusal atRune recovers, silent⟩

/-- A refusal that is not at a rune reports its error, under every limit. -/
theorem refused (other : first.kind ≠ .rune) (refusal : Reading.Refusal (first :: rest) e taken)
    (notAtRune : runeOf? e = none) (fails : ¬ condition) (index : Nat) :
    SilentIff budget index (first :: rest) condition := by
  cases budget with
  | zero => exact ⟨[], [e], .stopped other refusal notAtRune, by simp [fails]⟩
  | succ budget =>
      obtain ⟨rounds, course⟩ := exists_course budget (resumeAfter index taken rest).1
        (resumeAfter index taken rest).2
      have later : Recovers budget _ _ _ _ := ⟨rounds, course, rfl, rfl⟩
      exact ⟨_, _, .reported other refusal notAtRune later, by simp [fails]⟩

/-- Runes between declarations are passed over, and the condition is left to the tokens behind
them. -/
theorem runes {runes : List Token} (areRunes : ∀ t ∈ runes, t.kind = .rune)
    (later : ∀ index, SilentIff budget index rest condition) (index : Nat) :
    SilentIff budget index (runes ++ rest) condition := by
  induction runes generalizing index with
  | nil => exact later index
  | cons rune runes ih =>
      obtain ⟨isRune, areRunes⟩ := List.forall_mem_cons.mp areRunes
      obtain ⟨declarations, errors, recovers, silent⟩ := ih areRunes (index + 1)
      exact ⟨declarations, errors, .passed isRune recovers, silent⟩

end SilentIff

namespace ResumesSilentIff

theorem finished (holds : condition) (index : Nat) : ResumesSilentIff budget index [] condition :=
  SilentIff.finished holds index

/-- Where two identifiers stand, recovery resumes at once. -/
theorem of_starts (starts : startsDeclaration tokens = true)
    (later : ∀ index, SilentIff budget index tokens condition) (index : Nat) :
    ResumesSilentIff budget index tokens condition := by
  rw [ResumesSilentIff, resume_of_starts (Or.inr starts)]
  exact later index

/-- Recovery looks for a place to resume behind all that can be skipped. -/
theorem skipped (skipped : Skipped tokens)
    (later : ∀ index, ResumesSilentIff budget index rest condition) (index : Nat) :
    ResumesSilentIff budget index (tokens ++ rest) condition := by
  rw [ResumesSilentIff, resume_append skipped]
  exact later _

end ResumesSilentIff

end Round

/-- A phrase with the runes that follow each of its tokens. -/
structure Interrupted where
  phrase : Phrase
  afterName : List Token
  afterType : List Token
  afterEquals : List Token
  afterNumber : List Token
  afterName_runes : ∀ t ∈ afterName, t.kind = .rune
  afterType_runes : ∀ t ∈ afterType, t.kind = .rune
  afterEquals_runes : ∀ t ∈ afterEquals, t.kind = .rune
  afterNumber_runes : ∀ t ∈ afterNumber, t.kind = .rune

namespace Interrupted

open Round

/-- The assignment of a phrase, if it has one, with its runes. -/
def value (piece : Interrupted) : List Token :=
  piece.phrase.assignment?.elim [] fun assignment =>
    assignment.equals :: (piece.afterEquals ++ assignment.number :: piece.afterNumber)

/-- The tokens and runes of a phrase from its type on. -/
def fromType (piece : Interrupted) : List Token :=
  piece.phrase.type :: (piece.afterType ++ piece.value)

/-- The tokens and runes of a phrase. -/
def tokens (piece : Interrupted) : List Token :=
  piece.phrase.name :: (piece.afterName ++ piece.fromType)

/-- Whether recovery passes phrases among runes without an error. After a slip it has taken the name
of the first phrase for a type. -/
def Silent : Bool → List Interrupted → Prop
  | slipped, [] => slipped = false
  | false, piece :: rest =>
      if piece.afterName = [] then
        -- A rune after the type strands the equals sign; one after the equals sign cuts the phrase.
        (piece.phrase.assignment? = none ∨ piece.afterType = []) ∧ Silent false rest
      else if piece.phrase.assignment? = none ∧ piece.afterType = [] ∧ rest ≠ [] then
        Silent true rest
      else Silent false rest
  | true, piece :: rest =>
      if piece.afterType = [] then piece.phrase.assignment? = none ∧ Silent true rest
      else Silent false rest

variable {piece : Interrupted}

/-- No rune can start a declaration. -/
theorem ne_identifier_of_rune {runes : List Token} (areRunes : ∀ t ∈ runes, t.kind = .rune) :
    ∀ t ∈ runes, t.kind ≠ .identifier := by
  intro t member named
  cases named.symm.trans (areRunes t member)

theorem exists_rune_cons {runes : List Token} (areRunes : ∀ t ∈ runes, t.kind = .rune)
    (filled : runes ≠ []) : ∃ rune others, runes = rune :: others ∧ rune.kind = .rune := by
  obtain ⟨rune, others, rfl⟩ := List.exists_cons_of_ne_nil filled
  exact ⟨rune, others, rfl, areRunes rune List.mem_cons_self⟩

theorem ne_rune_of_identifier {t : Token} (named : t.kind = .identifier) : t.kind ≠ .rune := by
  simp [named]

/-- No identifier stands in the value of a phrase, whatever runes stand there. -/
theorem ne_identifier_of_value (piece : Interrupted) : ∀ t ∈ piece.value, t.kind ≠ .identifier := by
  intro t member named
  rw [value] at member
  cases assigned : piece.phrase.assignment? with
  | none =>
      rw [assigned] at member
      cases member
  | some assignment =>
      rw [assigned, Option.elim_some] at member
      rcases List.mem_cons.mp member with rfl | member
      · cases named.symm.trans assignment.equals_kind
      rcases List.mem_append.mp member with member | member
      · exact ne_identifier_of_rune piece.afterEquals_runes t member named
      rcases List.mem_cons.mp member with rfl | member
      · cases named.symm.trans assignment.number_kind
      · exact ne_identifier_of_rune piece.afterNumber_runes t member named

/-- A token that is kept when runes are dropped stands behind the runes dropped before it. -/
theorem exists_runes_append {tokens rest : List Token} {first : Token}
    (kept : tokens.filter (fun t => t.kind != .rune) = first :: rest) :
    ∃ runes after, tokens = runes ++ first :: after ∧ (∀ t ∈ runes, t.kind = .rune) ∧
      after.filter (fun t => t.kind != .rune) = rest := by
  obtain ⟨runes, after, split, dropped, -, later⟩ := List.filter_eq_cons_iff.mp kept
  exact ⟨runes, after, split, by simpa using dropped, later⟩

/-- Phrases into which runes are inserted are interrupted phrases after some runes. -/
theorem exists_interrupted {tokens : List Token} {phrases : List Phrase}
    (kept : tokens.filter (fun t => t.kind != .rune) = phrases.flatMap Phrase.tokens) :
    ∃ (leading : List Token) (pieces : List Interrupted),
      tokens = leading ++ pieces.flatMap Interrupted.tokens ∧
        (∀ t ∈ leading, t.kind = .rune) ∧ pieces.map Interrupted.phrase = phrases := by
  induction phrases generalizing tokens with
  | nil => exact ⟨tokens, [], by simp, by simpa using kept, rfl⟩
  | cons phrase phrases ih =>
      rw [List.flatMap_cons, Phrase.tokens, Phrase.others, List.cons_append,
        List.cons_append] at kept
      obtain ⟨leading, afterName, rfl, leadingRunes, kept⟩ := exists_runes_append kept
      obtain ⟨nameRunes, afterType, rfl, areNameRunes, kept⟩ := exists_runes_append kept
      cases assigned : phrase.assignment? with
      | none =>
          rw [assigned, Option.elim_none, List.nil_append] at kept
          obtain ⟨typeRunes, pieces, rfl, areTypeRunes, same⟩ := ih kept
          refine ⟨leading, ⟨phrase, nameRunes, typeRunes, [], [], areNameRunes, areTypeRunes,
            by simp, by simp⟩ :: pieces, ?_, leadingRunes, congrArg (phrase :: ·) same⟩
          simp [Interrupted.tokens, fromType, value, assigned]
      | some assignment =>
          rw [assigned, Option.elim_some, Assignment.tokens, List.cons_append,
            List.cons_append] at kept
          obtain ⟨typeRunes, afterEquals, rfl, areTypeRunes, kept⟩ := exists_runes_append kept
          obtain ⟨equalsRunes, afterNumber, rfl, areEqualsRunes, kept⟩ := exists_runes_append kept
          obtain ⟨numberRunes, pieces, rfl, areNumberRunes, same⟩ := ih kept
          refine ⟨leading, ⟨phrase, nameRunes, typeRunes, equalsRunes, numberRunes, areNameRunes,
            areTypeRunes, areEqualsRunes, areNumberRunes⟩ :: pieces, ?_, leadingRunes,
            congrArg (phrase :: ·) same⟩
          simp [Interrupted.tokens, fromType, value, assigned]

/-- Recovery tells by `Silent` whether it passes phrases without an error, from their start, from
where it looks for a place to resume, and after a slip, from an identifier in front of them. -/
structure Settled (budget : Nat) (pieces : List Interrupted) : Prop where
  inStep : ∀ index, SilentIff budget index (pieces.flatMap tokens) (Silent false pieces)
  resuming : ∀ index, ResumesSilentIff budget index (pieces.flatMap tokens) (Silent false pieces)
  slipped : ∀ name : Token, name.kind = .identifier → ∀ index,
    SilentIff budget index (name :: pieces.flatMap tokens) (Silent true pieces)

variable {budget : Nat} {rest : List Interrupted}

/-- Everything of a phrase behind its type is skipped, since it has no identifier. -/
theorem skipped_rest_of_type (piece : Interrupted) : Skipped (piece.afterType ++ piece.value) :=
  .append (ne_identifier_of_rune piece.afterType_runes) (.of_others piece.ne_identifier_of_value)

/-- Nothing starts at a type that a rune or an equals sign follows. -/
theorem skipped_fromType (followed : ¬ (piece.phrase.assignment? = none ∧ piece.afterType = [])) :
    Skipped piece.fromType := by
  have skipped := piece.skipped_rest_of_type
  rw [fromType]
  cases split : piece.afterType ++ piece.value with
  | nil =>
      obtain ⟨noRunes, noValue⟩ := List.append_eq_nil_iff.mp split
      refine absurd ⟨?_, noRunes⟩ followed
      cases assigned : piece.phrase.assignment? with
      | none => rfl
      | some assignment => simp [value, assigned] at noValue
  | cons second others =>
      rw [split] at skipped
      have member : second ∈ piece.afterType ++ piece.value := by simp [split]
      refine .cons_cons ?_ skipped
      rcases List.mem_append.mp member with member | member
      · exact ne_identifier_of_rune piece.afterType_runes second member
      · exact piece.ne_identifier_of_value second member

/-- Behind a cut name recovery skips the phrase, or slips if its type is all that is left before the
next name. -/
theorem resuming_fromType (settled : Settled budget rest) (cutName : piece.afterName ≠ [])
    (index : Nat) :
    ResumesSilentIff budget index (piece.fromType ++ rest.flatMap tokens)
      (Silent false (piece :: rest)) := by
  rw [Silent, if_neg cutName]
  by_cases alone : piece.phrase.assignment? = none ∧ piece.afterType = []
  · have type : piece.fromType = [piece.phrase.type] := by simp [fromType, value, alone]
    rw [type]
    cases rest with
    | nil =>
        rw [if_neg (by simp)]
        exact SilentIff.finished rfl _
    | cons next rest =>
        rw [if_pos ⟨alone.1, alone.2, by simp⟩]
        refine .of_starts ?_ (settled.slipped _ piece.phrase.type_kind) index
        simp [startsDeclaration, tokens, piece.phrase.type_kind, next.phrase.name_kind]
  · rw [if_neg fun slips => alone ⟨slips.1, slips.2.1⟩]
    exact .skipped (skipped_fromType alone) settled.resuming index

/-- Phrases among runes go on with a name, so that a phrase before them ends. -/
theorem endsBefore_flatMap_tokens (phrase : Phrase) (pieces : List Interrupted) :
    phrase.EndsBefore (pieces.flatMap tokens) := by
  cases pieces with
  | nil => exact phrase.endsBefore_nil
  | cons piece pieces =>
      refine phrase.endsBefore_of_identifier fun next isNext => ?_
      obtain rfl := Option.some.inj isNext
      exact piece.phrase.name_kind

/-- A slip ends at a rune after the type, and goes on to the next phrase if nothing follows it. -/
theorem slipped_fromType (settled : Settled budget rest) (piece : Interrupted) (index : Nat) :
    SilentIff budget index (piece.fromType ++ rest.flatMap tokens)
      (Silent true (piece :: rest)) := by
  have other : piece.phrase.type.kind ≠ .rune := ne_rune_of_identifier piece.phrase.type_kind
  rw [Silent, fromType]
  by_cases typeRunes : piece.afterType = []
  · rw [if_pos typeRunes, typeRunes, value]
    cases assigned : piece.phrase.assignment? with
    | none =>
        rw [eq_self, true_and]
        exact settled.slipped piece.phrase.type piece.phrase.type_kind index
    | some assignment =>
        have notRune : assignment.equals.kind ≠ .rune := by simp [assignment.equals_kind]
        have unnamed : assignment.equals.kind ≠ .identifier := by simp [assignment.equals_kind]
        exact .refused other (.noType _ _ _ piece.phrase.type_kind unnamed) (if_neg notRune)
          (by simp) index
  · obtain ⟨rune, runes, split, isRune⟩ := exists_rune_cons piece.afterType_runes typeRunes
    have resumes := ResumesSilentIff.skipped piece.skipped_rest_of_type settled.resuming
    rw [split] at resumes
    rw [if_neg typeRunes, split]
    refine .cut other (.noType _ rune _ piece.phrase.type_kind ?_) (if_pos isRune) resumes index
    simp [isRune]

/-- After a slip, an identifier and the name of the next phrase are taken for a declaration. -/
theorem slipped_cons (settled : Settled budget rest) (piece : Interrupted) {name : Token}
    (named : name.kind = .identifier) (index : Nat) :
    SilentIff budget index (name :: (piece :: rest).flatMap tokens)
      (Silent true (piece :: rest)) := by
  have ends : Phrase.EndsBefore ⟨name, piece.phrase.name, none, named, piece.phrase.name_kind⟩
      (piece.afterName ++ (piece.fromType ++ rest.flatMap tokens)) := by
    refine .runes_append (Phrase.endsBefore_of_identifier _ ?_) piece.afterName_runes
    intro next isNext
    obtain rfl := Option.some.inj isNext
    exact piece.phrase.type_kind
  rw [List.flatMap_cons, tokens, List.cons_append, List.append_assoc]
  exact .declared _ ends (.runes piece.afterName_runes (slipped_fromType settled piece)) index

/-- A rune between a name and its type cuts the phrase without an error, and recovery resumes from
the type on. -/
theorem inStep_of_cutName (settled : Settled budget rest) (cutName : piece.afterName ≠ [])
    (index : Nat) :
    SilentIff budget index ((piece :: rest).flatMap tokens) (Silent false (piece :: rest)) := by
  obtain ⟨rune, runes, split, isRune⟩ := exists_rune_cons piece.afterName_runes cutName
  have skipped : Skipped piece.afterName := .of_others (ne_identifier_of_rune piece.afterName_runes)
  have resumes := ResumesSilentIff.skipped skipped (resuming_fromType settled cutName)
  rw [split] at resumes
  rw [List.flatMap_cons, tokens, split, List.cons_append, List.append_assoc]
  refine .cut (ne_rune_of_identifier piece.phrase.name_kind)
    (.noType _ rune _ piece.phrase.name_kind ?_) (if_pos isRune) resumes index
  simp [isRune]

/-- The tokens of a phrase with an assignment and no rune behind its name, spelled out. -/
theorem flatMap_tokens_of_assigned {assignment : Assignment}
    (assigned : piece.phrase.assignment? = some assignment) (whole : piece.afterName = []) :
    (piece :: rest).flatMap tokens =
      piece.phrase.name :: piece.phrase.type ::
        (piece.afterType ++ assignment.equals :: (piece.afterEquals ++ assignment.number ::
          (piece.afterNumber ++ rest.flatMap tokens))) := by
  simp [tokens, fromType, value, assigned, whole]

/-- A phrase without an assignment is declared, whatever runes follow its type. -/
theorem inStep_of_unassigned (settled : Settled budget rest) (whole : piece.afterName = [])
    (assigned : piece.phrase.assignment? = none) (index : Nat) :
    SilentIff budget index ((piece :: rest).flatMap tokens) (Silent false rest) := by
  have ends : piece.phrase.EndsBefore (piece.afterType ++ rest.flatMap tokens) :=
    (endsBefore_flatMap_tokens _ rest).runes_append piece.afterType_runes
  have declares := SilentIff.declared piece.phrase ends
    (.runes piece.afterType_runes settled.inStep) index
  simpa [tokens, fromType, value, Phrase.tokens, Phrase.others, assigned, whole] using declares

/-- A phrase with an assignment is declared if runes follow only its last token. -/
theorem inStep_of_assigned {assignment : Assignment} (settled : Settled budget rest)
    (whole : piece.afterName = []) (assigned : piece.phrase.assignment? = some assignment)
    (typeRunes : piece.afterType = []) (equalsRunes : piece.afterEquals = []) (index : Nat) :
    SilentIff budget index ((piece :: rest).flatMap tokens) (Silent false rest) := by
  have ends : piece.phrase.EndsBefore (piece.afterNumber ++ rest.flatMap tokens) :=
    fun absent => nomatch absent.symm.trans assigned
  have declares := SilentIff.declared piece.phrase ends
    (.runes piece.afterNumber_runes settled.inStep) index
  rw [flatMap_tokens_of_assigned assigned whole, typeRunes, equalsRunes]
  simpa [Phrase.tokens, Phrase.others, Assignment.tokens, assigned] using declares

/-- A phrase with a rune after its equals sign is dropped. -/
theorem inStep_of_cutValue {assignment : Assignment} (settled : Settled budget rest)
    (whole : piece.afterName = []) (assigned : piece.phrase.assignment? = some assignment)
    (typeRunes : piece.afterType = []) (equalsRunes : piece.afterEquals ≠ []) (index : Nat) :
    SilentIff budget index ((piece :: rest).flatMap tokens) (Silent false rest) := by
  obtain ⟨rune, runes, split, isRune⟩ := exists_rune_cons piece.afterEquals_runes equalsRunes
  have skipped : Skipped (piece.afterEquals ++ assignment.number :: piece.afterNumber) := by
    refine .of_others fun t member => piece.ne_identifier_of_value t ?_
    rw [value, assigned]
    exact List.mem_cons_of_mem _ member
  have resumes := ResumesSilentIff.skipped skipped settled.resuming
  rw [split, List.append_assoc, List.cons_append, List.cons_append] at resumes
  rw [flatMap_tokens_of_assigned assigned whole, typeRunes, split]
  refine .cut (ne_rune_of_identifier piece.phrase.name_kind)
    (.noValue _ _ assignment.equals rune _ piece.phrase.name_kind piece.phrase.type_kind
      ⟨assignment.equals_kind, assignment.equals_text⟩ ?_) (if_pos isRune) resumes index
  simp [isRune]

/-- A rune between a type and an equals sign ends the declaration there, so the sign is reported. -/
theorem inStep_of_strandedEquals {assignment : Assignment} {condition : Prop}
    (whole : piece.afterName = []) (assigned : piece.phrase.assignment? = some assignment)
    (typeRunes : piece.afterType ≠ []) (fails : ¬ condition) (index : Nat) :
    SilentIff budget index ((piece :: rest).flatMap tokens) condition := by
  obtain ⟨rune, runes, split, isRune⟩ := exists_rune_cons piece.afterType_runes typeRunes
  have notRune : assignment.equals.kind ≠ .rune := by simp [assignment.equals_kind]
  have unnamed : assignment.equals.kind ≠ .identifier := by simp [assignment.equals_kind]
  rw [flatMap_tokens_of_assigned assigned whole]
  refine .declared ⟨_, _, none, piece.phrase.name_kind, piece.phrase.type_kind⟩ ?_
    (.runes piece.afterType_runes (.refused notRune (.noName _ _ unnamed) (if_neg notRune) fails))
    index
  rw [split]
  exact Phrase.endsBefore_rune_cons _ isRune _

/-- One more phrase in step: by whether its name is cut, then by whether its value is. -/
theorem inStep_cons (settled : Settled budget rest) (piece : Interrupted) (index : Nat) :
    SilentIff budget index ((piece :: rest).flatMap tokens) (Silent false (piece :: rest)) := by
  by_cases whole : piece.afterName = []
  swap
  · exact inStep_of_cutName settled whole index
  rw [Silent, if_pos whole]
  cases assigned : piece.phrase.assignment? with
  | none => simpa using inStep_of_unassigned settled whole assigned index
  | some assignment =>
      by_cases typeRunes : piece.afterType = []
      swap
      · exact inStep_of_strandedEquals whole assigned typeRunes (by simp [typeRunes]) index
      by_cases equalsRunes : piece.afterEquals = []
      · simpa [typeRunes] using
          inStep_of_assigned settled whole assigned typeRunes equalsRunes index
      · simpa [typeRunes] using
          inStep_of_cutValue settled whole assigned typeRunes equalsRunes index

/-- One more phrase where recovery resumes: it starts there unless its name is cut. -/
theorem resuming_cons (settled : Settled budget rest) (piece : Interrupted) (index : Nat) :
    ResumesSilentIff budget index ((piece :: rest).flatMap tokens)
      (Silent false (piece :: rest)) := by
  cases cutName : piece.afterName with
  | nil =>
      refine .of_starts ?_ (inStep_cons settled piece) index
      simp [startsDeclaration, tokens, fromType, cutName, piece.phrase.name_kind,
        piece.phrase.type_kind]
  | cons rune runes =>
      have areRunes := ne_identifier_of_rune piece.afterName_runes
      rw [cutName] at areRunes
      have skipped : Skipped (piece.phrase.name :: rune :: runes) :=
        .cons_cons (areRunes rune List.mem_cons_self) (.of_others areRunes)
      have cut : piece.afterName ≠ [] := by simp [cutName]
      have onward := ResumesSilentIff.skipped skipped (resuming_fromType settled cut) index
      simpa [tokens, cutName] using onward

/-- Recovery keeps to `Silent` on all phrases among runes, by induction on the phrases. -/
theorem settled (budget : Nat) (pieces : List Interrupted) : Settled budget pieces := by
  -- A phrase hands over to the next one in step, in search of a place to resume, or after a slip,
  -- so the induction carries all three at once.
  induction pieces with
  | nil =>
      refine ⟨.finished rfl, .finished rfl, fun name named => ?_⟩
      exact .refused (ne_rune_of_identifier named) (.endAfterName name named) rfl (by simp [Silent])
  | cons piece pieces ih =>
      exact ⟨inStep_cons ih piece, resuming_cons ih piece, fun _ => slipped_cons ih piece⟩

/-- Some runes, and then phrases among runes that recovery passes without an error. -/
def PassedSilently (tokens : List Token) : Prop :=
  ∃ (leading : List Token) (pieces : List Interrupted),
    tokens = leading ++ pieces.flatMap Interrupted.tokens ∧ (∀ t ∈ leading, t.kind = .rune) ∧
      Silent false pieces

/-- Runes and then phrases among runes are parsed without an error exactly where they are silent. -/
theorem parseRecovering_eq_ok {source : String} (name : String) (limit : Nat) {leading : List Token}
    (areRunes : ∀ t ∈ leading, t.kind = .rune) (pieces : List Interrupted)
    (inOrder : Token.InOrder source (leading ++ pieces.flatMap tokens)) :
    ∃ tree errors,
      Tree.parseRecovering name (leading ++ pieces.flatMap tokens) limit = .ok (tree, errors) ∧
        (errors = [] ↔ Silent false pieces) := by
  obtain ⟨declarations, errors, recovers, silent⟩ :=
    SilentIff.runes areRunes (settled (limit - 1) pieces).inStep 0
  exact ⟨_, errors, parseRecovering_of_recovers name recovers inOrder, silent⟩

end Interrupted

namespace Tree

/-- **Where runes are silent.** Let runes stand at any places among tokens that parse. Recovery then
reports no error, whatever the limit, exactly if they leave the phrases silent. -/
theorem recovery_silent_iff (name source : String) (accepted tokens : List Token) (limit : Nat)
    (inOrder : Token.InOrder source tokens)
    (inserted : tokens.filter (fun t => t.kind != .rune) = accepted)
    (parsed : ∃ tree, parse name accepted = .ok (.ok tree)) :
    ∃ tree errors, parseRecovering name tokens limit = .ok (tree, errors) ∧
      (errors = [] ↔ Interrupted.PassedSilently tokens) := by
  obtain ⟨tree, parsed⟩ := parsed
  have kept : Token.InOrder source accepted := inserted ▸ inOrder.sublist List.filter_sublist
  obtain ⟨phrases, spelled⟩ := exists_phrases_of_parse kept parsed
  obtain ⟨leading, pieces, rfl, areRunes, -⟩ :=
    Interrupted.exists_interrupted (inserted.trans spelled)
  obtain ⟨tree, errors, recovered, silent⟩ :=
    Interrupted.parseRecovering_eq_ok name limit areRunes pieces inOrder
  refine ⟨tree, errors, recovered, ?_, ?_⟩
  · intro clean
    exact ⟨leading, pieces, rfl, areRunes, silent.mp clean⟩
  · rintro ⟨leading', pieces', same, areRunes', passes⟩
    rw [same] at inOrder recovered
    obtain ⟨tree', errors', recovered', silent'⟩ :=
      Interrupted.parseRecovering_eq_ok name limit areRunes' pieces' inOrder
    cases recovered.symm.trans recovered'
    exact silent'.mpr passes

/-- The phrases `a b`, `c d` and `e f` with a rune after `a` and one after `d`. -/
def slipAndCatch : List Interrupted :=
  [⟨⟨.single .identifier "a" 0, .single .identifier "b" 4, none, rfl, rfl⟩,
      [.single .rune "@" 2], [], [], [], by simp [Token.single], by simp, by simp, by simp⟩,
   ⟨⟨.single .identifier "c" 6, .single .identifier "d" 8, none, rfl, rfl⟩,
      [], [.single .rune "@" 10], [], [], by simp, by simp [Token.single], by simp, by simp⟩,
   ⟨⟨.single .identifier "e" 12, .single .identifier "f" 14, none, rfl, rfl⟩,
      [], [], [], [], by simp, by simp, by simp, by simp⟩]

/-- Recovery takes `b c` for a declaration, but the second rune ends the slip without an error. -/
theorem parseRecovering_slipAndCatch :
    Token.InOrder "main" (slipAndCatch.flatMap Interrupted.tokens) ∧
      (slipAndCatch.flatMap Interrupted.tokens).filter (fun t => t.kind != .rune) =
        slipAndCatch.flatMap (Phrase.tokens ∘ Interrupted.phrase) ∧
      (∃ tree, parse "main" (slipAndCatch.flatMap (Phrase.tokens ∘ Interrupted.phrase)) =
        .ok (.ok tree)) ∧
      ∃ tree, parseRecovering "main" (slipAndCatch.flatMap Interrupted.tokens) 1 =
        .ok (tree, []) := by
  have inOrder : Token.InOrder "main" (slipAndCatch.flatMap Interrupted.tokens) :=
    ⟨by decide, by decide, by decide⟩
  have inserted : (slipAndCatch.flatMap Interrupted.tokens).filter (fun t => t.kind != .rune) =
      slipAndCatch.flatMap (Phrase.tokens ∘ Interrupted.phrase) := by decide
  have kept : Token.InOrder "main" (slipAndCatch.flatMap (Phrase.tokens ∘ Interrupted.phrase)) :=
    inserted ▸ inOrder.sublist List.filter_sublist
  have parsed : ∃ tree, parse "main" (slipAndCatch.flatMap (Phrase.tokens ∘ Interrupted.phrase)) =
      .ok (.ok tree) :=
    ⟨_, parse_of_course "main" (course_flatMap (slipAndCatch.map Interrupted.phrase)) kept⟩
  obtain ⟨tree, errors, recovered, silent⟩ :=
    recovery_silent_iff "main" "main" _ _ 1 inOrder inserted parsed
  have passed : Interrupted.PassedSilently (slipAndCatch.flatMap Interrupted.tokens) :=
    ⟨[], slipAndCatch, rfl, by simp, by simp [slipAndCatch, Interrupted.Silent]⟩
  obtain rfl := silent.mpr passed
  exact ⟨inOrder, inserted, parsed, tree, recovered⟩

/-- The phrases `a b` and `c d` with a rune after `a`. -/
def slip : List Token :=
  [.single .identifier "a" 0, .single .rune "@" 2, .single .identifier "b" 4,
   .single .identifier "c" 6, .single .identifier "d" 8]

/-- Recovery takes `b c` for a declaration and reports that `d` has no type. -/
theorem parseRecovering_slip :
    Token.InOrder "main" slip ∧
      (∃ tree, parse "main" (slip.filter fun t => t.kind != .rune) = .ok (.ok tree)) ∧
      parseRecovering "main" slip 32 =
        .ok (⟨"main", [Phrase.declaration
          ⟨.single .identifier "b" 4, .single .identifier "c" 6, none, rfl, rfl⟩]⟩,
          [.unexpectedEnd ⟨"main", ⟨1, 10, 9⟩⟩ .type]) := by
  have inOrder : Token.InOrder "main" slip := ⟨by decide, by decide, by decide⟩
  have inserted : slip.filter (fun t => t.kind != .rune) =
      (slipAndCatch.take 2).flatMap (Phrase.tokens ∘ Interrupted.phrase) := by decide
  have kept : Token.InOrder "main" (slip.filter fun t => t.kind != .rune) :=
    inOrder.sublist List.filter_sublist
  have course := course_flatMap ((slipAndCatch.take 2).map Interrupted.phrase)
  have accepted := parse_of_course "main" course (inserted ▸ kept)
  have alone : Round.Recovers 31 4 [.single .identifier "d" 8] []
      [.unexpectedEnd ⟨"main", ⟨1, 10, 9⟩⟩ .type] :=
    .reported (by decide) (.endAfterName _ rfl) rfl (.finished 30 5)
  have cut : Round.Recovers 31 0 slip _ _ :=
    .cut (by decide) (.noType _ _ _ rfl (by decide)) rfl
      (.declared ⟨.single .identifier "b" 4, .single .identifier "c" 6, none, rfl, rfl⟩
        (Phrase.endsBefore_of_identifier _ (by simp [Token.single])) alone)
  exact ⟨inOrder, ⟨_, inserted ▸ accepted⟩, Round.parseRecovering_of_recovers "main" cut inOrder⟩

end Tree

end DeclLang
