import DeclLang.Syntax.Parse

/-!
# Parsing past errors

A recovering parse goes in rounds. A round starts at a token and either passes over a rune there,
or reads a declaration, or drops one that a rune cuts short, or reports an error. The last two
resume where two identifiers stand next to each other, since a declaration can start there, and
always after the token where the round started. The scan has reported the runes already, so a rune
never yields an error here. The parse stops after the round that reaches the limit of errors.
-/

namespace DeclLang

/-- How a round of a recovering parse ends; `resumed` is the index at which the next one starts. -/
inductive RoundEnd
  | passed
  | declared (declaration : Declaration)
  | cut (rune : Token) (resumed : Nat)
  | reported (error : ParseError) (resumed : Nat)
  | stopped (error : ParseError)
  deriving DecidableEq

/-- A round of a recovering parse: the index of its first token, that token, the tokens after it,
and how it ends. -/
structure Round where
  index : Nat
  first : Token
  rest : List Token
  ending : RoundEnd
  deriving DecidableEq

namespace Round

/-- The declaration that a round read, if it did. -/
def declaration? (round : Round) : Option Declaration :=
  match round.ending with
  | .declared declaration => some declaration
  | _ => none

/-- The error that a round reported, if it did. -/
def error? (round : Round) : Option ParseError :=
  match round.ending with
  | .reported e _ => some e
  | .stopped e => some e
  | _ => none

/-- Whether tokens start with two identifiers. -/
def startsDeclaration : List Token → Bool
  | first :: second :: _ => first.kind == .identifier && second.kind == .identifier
  | _ => false

/-- The first place, from an index on, where a declaration can start, and the tokens there; the end
if there is no such place. -/
def resume (index : Nat) : List Token → Nat × List Token
  | [] => (index, [])
  | first :: rest =>
      if startsDeclaration (first :: rest) then (index, first :: rest)
      else resume (index + 1) rest

/-- Resuming passes over tokens and adds none. -/
theorem length_resume_le (index : Nat) (tokens : List Token) :
    (resume index tokens).2.length ≤ tokens.length := by
  fun_induction resume index tokens with
  | case1 => exact Nat.le_refl _
  | case2 => exact Nat.le_refl _
  | case3 index first rest _ ih => exact Nat.le_succ_of_le ih

/-- The first place where a declaration can start after the first token of a round and the `taken`
tokens that the round took. -/
def resumeAfter (index taken : Nat) (rest : List Token) : Nat × List Token :=
  resume (index + 1 + (taken - 1)) (rest.drop (taken - 1))

/-- A round that fails resumes after its first token. -/
theorem length_resumeAfter_le (index taken : Nat) (rest : List Token) :
    (resumeAfter index taken rest).2.length ≤ rest.length :=
  Nat.le_trans (length_resume_le _ _) (by simp)

/-- The rune that an error was found at, if it was. -/
def runeOf? : ParseError → Option Token
  | .unexpectedToken found _ => if found.kind = .rune then some found else none
  | _ => none

/-- The rounds from an index on, after those already `done`, latest first, when `budget` more
errors are allowed besides the last one. -/
def run (budget : Nat) (done : List Round) (index : Nat) (tokens : List Token) :
    Except Fault (List Round) :=
  match tokens with
  | [] => .ok done.reverse
  | first :: rest =>
      let round := Round.mk index first rest
      if first.kind = .rune then run budget (round .passed :: done) (index + 1) rest
      else
        match Reading.read first rest with
        | .error fault => .error fault
        | .ok (.declared declaration taken) =>
            run budget (round (.declared declaration) :: done) (index + 1 + (taken - 1))
              (rest.drop (taken - 1))
        | .ok (.refused e taken) =>
            let next := resumeAfter index taken rest
            match runeOf? e with
            | some rune => run budget (round (.cut rune next.1) :: done) next.1 next.2
            | none =>
                match budget with
                | 0 => .ok (round (.stopped e) :: done).reverse
                | budget + 1 =>
                    run budget (round (.reported e next.1) :: done) next.1 next.2
termination_by tokens.length
decreasing_by
  · exact Nat.lt_succ_self _
  · exact Nat.lt_succ_of_le (by simp)
  · exact Nat.lt_succ_of_le (length_resumeAfter_le index taken rest)
  · exact Nat.lt_succ_of_le (length_resumeAfter_le index taken rest)

end Round

namespace Tree

/-- The rounds of a recovering parse; a limit of zero counts as one. -/
def recoveryRounds (tokens : List Token) (limit : Nat) : Except Fault (List Round) :=
  Round.run (limit - 1) [] 0 tokens

/-- Parses tokens past errors, up to a limit of them. -/
def parseRecovering (source : String) (tokens : List Token) (limit : Nat) :
    Except Fault (Tree × List ParseError) :=
  (recoveryRounds tokens limit).map fun rounds =>
    (⟨source, rounds.filterMap Round.declaration?⟩, rounds.filterMap Round.error?)

end Tree

end DeclLang
