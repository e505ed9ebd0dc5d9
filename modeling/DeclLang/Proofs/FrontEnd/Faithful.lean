import DeclLang.Proofs.FrontEnd.PlainTrees
import DeclLang.Proofs.Scan.Positions
import DeclLang.Proofs.Scan.Tiling

/-!
# Trees are faithful to their text

Spans go from the scanner through the tokens into the nodes of a tree, and the span of a declaration
is made of two of them. In the tree of a run every one of these spans still shows the text that its
node holds, and the declarations stand one after another as their tokens do, whatever a recovering
parse has passed over between them.
-/

namespace DeclLang

namespace Span

/-- A stretch that is not empty, counted in lines and columns as well as in bytes. -/
def Filled (s : Span) : Prop :=
  s.start < s.finish ∧ s.start.offset < s.finish.offset

/-- One stretch of a source stands before another and shares nothing with it, counted in lines and
columns as well as in bytes. -/
structure Precedes (earlier later : Span) : Prop where
  source : earlier.source = later.source
  starts : earlier.start < later.start ∧ earlier.start.offset < later.start.offset
  apart : earlier.finish ≤ later.start ∧ earlier.finish.offset ≤ later.start.offset
  finishes : earlier.finish < later.finish ∧ earlier.finish.offset < later.finish.offset

namespace Precedes

/-- Two spans that are not empty stand one before the other when the first ends where the second
starts, or earlier. -/
theorem of_apart {earlier later : Span} (source : earlier.source = later.source)
    (first : earlier.Filled) (second : later.Filled)
    (apart : earlier.finish ≤ later.start ∧ earlier.finish.offset ≤ later.start.offset) :
    earlier.Precedes later where
  source := source
  starts := ⟨first.1.trans_le apart.1, first.2.trans_le apart.2⟩
  apart := apart
  finishes := ⟨apart.1.trans_lt second.1, apart.2.trans_lt second.2⟩

end Precedes

end Span

namespace SourceUnit

/-- A span of a unit shows a text: it is not empty, both its ends are where the unit finds their
offsets, and the text stands between them. -/
structure Shows (unit : SourceUnit) (span : Span) (text : String) : Prop where
  source : span.source = unit.name
  filled : span.Filled
  started : unit.position? span.start.offset = some span.startPosition
  finished : unit.position? span.finish.offset = some span.finishPosition
  sliced : Utf8.slice? span.start.offset span.finish.offset unit.text.toList = some text.toList

/-- The span of every token of a scan shows the text of the token. -/
theorem shows_of_scanRecovering (name text : String) :
    ∀ t ∈ (scanRecovering name text).1.tokens,
      (scanRecovering name text).1.Shows t.span t.text := by
  obtain ⟨steps, finish, course, recovered, -⟩ := scan_eq_of_course name text
  rw [recovered]
  intro t member
  have table : finish.lines = LineTable.ofText text.toList := by
    rw [course.finish_eq, Cursor.lines_advanceAll_origin]
  have bytes := course.laidOut.nonempty t member
  have slice := course.laidOut.sliced [] Utf8.size_nil t member
  obtain ⟨step, taken, rfl⟩ := List.mem_map.mp member
  obtain ⟨front, piece, back, split, span⟩ := course.placed step taken
  have started : Cursor.origin.location.advanceAll front = Location.after front :=
    Location.advanceAll_origin front
  have finished : Cursor.origin.location.advanceAll (front ++ piece) =
      Location.after (front ++ piece) := Location.advanceAll_origin (front ++ piece)
  have apart : front ++ piece ++ back = front ++ (piece ++ back) := List.append_assoc ..
  rw [started, finished] at span
  rw [span] at bytes slice ⊢
  constructor
  case source => rfl
  case filled => exact ⟨Location.after_lt_after apart.symm bytes, bytes⟩
  case started => exact position?_size table (split.trans apart)
  case finished => exact position?_size table split
  case sliced => exact slice

/-- The tokens of every scan stand one before the other, by locations and by bytes. -/
theorem precedes_of_scanRecovering (name text : String) :
    (scanRecovering name text).1.tokens.Pairwise fun earlier later =>
      earlier.span.Precedes later.span := by
  have shown := shows_of_scanRecovering name text
  obtain ⟨steps, finish, course, recovered, -⟩ := scan_eq_of_course name text
  rw [recovered] at shown ⊢
  have byLocation := course.inOrder.1.pairwise
  have byOffset := course.laidOut.disjoint
  refine (byLocation.and byOffset).imp_of_mem fun {earlier later} first second apart => ?_
  apply Span.Precedes.of_apart _ (shown earlier first).filled (shown later second).filled apart
  exact (shown earlier first).source.trans (shown later second).source.symm

end SourceUnit

namespace VariableDeclaration

/-- A declaration whose spans show its name and its type in a unit, with one span for all nodes of
the type, and which goes from its name to its type. -/
structure Faithful (unit : SourceUnit) (declared : VariableDeclaration) : Prop where
  named : unit.Shows declared.name.span declared.name.text
  typed : ∃ type, declared.type = some type ∧ unit.Shows type.span type.nameText ∧
    type.nodeSpans = List.replicate 5 type.span ∧ declared.name.span.Precedes type.span ∧
    declared.span = ⟨unit.name, declared.name.span.start, type.span.finish⟩
  filled : declared.span.Filled
  started : unit.position? declared.span.start.offset = some declared.span.startPosition
  finished : unit.position? declared.span.finish.offset = some declared.span.finishPosition

end VariableDeclaration

namespace Declaration

variable {unit : SourceUnit} {name type name' type' : Token}

/-- A name and a later type that show their texts make a faithful declaration. -/
theorem faithful_plain (named : unit.Shows name.span name.text)
    (typed : unit.Shows type.span type.text) (order : name.span.Precedes type.span) :
    ∃ declared, plain name type = .variable declared ∧ declared.Faithful unit := by
  refine ⟨_, rfl, ?_⟩
  constructor
  case named => exact named
  case typed =>
    have span : (plain name type).span = ⟨unit.name, name.span.start, type.span.finish⟩ := by
      rw [← named.source]
      rfl
    exact ⟨_, rfl, typed, rfl, order, span⟩
  case filled =>
    exact ⟨named.filled.1.trans order.finishes.1, named.filled.2.trans order.finishes.2⟩
  case started => exact named.started
  case finished =>
    have same : (plain name type).span.finishPosition = type.span.finishPosition := by
      rw [Span.finishPosition, Span.finishPosition, ← order.source]
      rfl
    exact typed.finished.trans (congrArg some same.symm)

/-- Declarations stand one before the other when the type of the first stands before the name of the
second. -/
theorem precedes_plain (first : (plain name type).span.Filled)
    (second : (plain name' type').span.Filled) (order : name.span.Precedes type.span)
    (apart : type.span.Precedes name'.span) :
    (plain name type).span.Precedes (plain name' type').span :=
  .of_apart (order.source.trans apart.source) first second apart.apart

end Declaration

namespace Occurrence

/-- Phrases picked from tokens that show their texts one after another. -/
theorem Picked.shown {unit : SourceUnit} {index : Nat} {tokens : List Token}
    {found : List Occurrence} (picked : Picked index tokens found)
    (shown : ∀ t ∈ tokens, unit.Shows t.span t.text)
    (successive : tokens.Pairwise fun earlier later => earlier.span.Precedes later.span) :
    (∀ occurrence ∈ found,
      unit.Shows occurrence.phrase.name.span occurrence.phrase.name.text ∧
        unit.Shows occurrence.phrase.type.span occurrence.phrase.type.text ∧
        occurrence.phrase.name.span.Precedes occurrence.phrase.type.span) ∧
      found.Pairwise fun earlier later =>
        earlier.phrase.type.span.Precedes later.phrase.name.span := by
  have named (phrase : Phrase) : phrase.name ∈ phrase.tokens := List.mem_cons_self
  have typed (phrase : Phrase) : phrase.type ∈ phrase.tokens :=
    List.mem_cons_of_mem phrase.name List.mem_cons_self
  obtain ⟨within, across⟩ := List.pairwise_flatMap.mp (successive.sublist picked.sublist)
  constructor
  · intro occurrence member
    have kept {t : Token} (inPhrase : t ∈ occurrence.phrase.tokens) :
        unit.Shows t.span t.text := by
      apply shown
      exact picked.sublist.subset (List.mem_flatMap.mpr ⟨occurrence, member, inPhrase⟩)
    refine ⟨kept (named _), kept (typed _), ?_⟩
    exact List.rel_of_pairwise_cons (within occurrence member) List.mem_cons_self
  · exact across.imp fun apart => apart _ (typed _) _ (named _)

end Occurrence

namespace FrontEnd

/-- **Trees are faithful.** Whatever the configuration, in the tree of a run each declaration is a
variable whose name and type are the texts at their spans, with all locations where the unit finds
their offsets, and each declaration stands before all later ones. -/
theorem run_tree_faithful (config : Config) (name text : String) :
    ∃ outcome, run config name text = .ok outcome ∧
      ∀ unit tree, outcome.value? = some (unit, tree) →
        unit.name = name ∧ unit.text = text ∧ tree.source = name ∧
        (∀ declaration ∈ tree.declarations,
          ∃ declared, declaration = .variable declared ∧ declared.Faithful unit) ∧
        tree.declarations.Pairwise fun earlier later => earlier.span.Precedes later.span := by
  obtain ⟨outcome, ended, origin⟩ := exists_outcome config name text
  refine ⟨outcome, ended, fun unit tree present => ?_⟩
  -- No declaration of a text has a value, so its spans are those of two tokens.
  obtain ⟨found, picked, declared⟩ := exists_plain_phrases origin present
  obtain ⟨rfl, source, -⟩ := origin.value unit tree present
  obtain ⟨isNamed, isText⟩ : (SourceUnit.scanRecovering name text).1.name = name ∧
      (SourceUnit.scanRecovering name text).1.text = text := ⟨rfl, rfl⟩
  obtain ⟨shown, across⟩ := picked.shown (SourceUnit.shows_of_scanRecovering name text)
    (SourceUnit.precedes_of_scanRecovering name text)
  have faithful : ∀ occurrence ∈ found, ∃ variableDeclared,
      Declaration.plain occurrence.phrase.name occurrence.phrase.type = .variable variableDeclared ∧
        variableDeclared.Faithful (SourceUnit.scanRecovering name text).1 := by
    intro occurrence member
    obtain ⟨named, typed, order⟩ := shown occurrence member
    exact Declaration.faithful_plain named typed order
  have filled : ∀ occurrence ∈ found,
      (Declaration.plain occurrence.phrase.name occurrence.phrase.type).span.Filled := by
    intro occurrence member
    obtain ⟨asVariable, same, isFaithful⟩ := faithful occurrence member
    rw [same]
    exact isFaithful.filled
  refine ⟨isNamed, isText, source, ?_, ?_⟩
  · rw [declared]
    intro declaration member
    obtain ⟨occurrence, inFound, rfl⟩ := List.mem_map.mp member
    exact faithful occurrence inFound
  · rw [declared, List.pairwise_map]
    refine across.imp_of_mem fun {earlier later} first second apart => ?_
    exact Declaration.precedes_plain (filled earlier first) (filled later second)
      (shown earlier first).2.2 apart

/-- With recovery, the declarations of `é` and `y` are kept from between errors. -/
theorem run_faithful_between_errors :
    ∃ unit tree errors,
      run (.ofOptions true 32 false) "main" "x 1\né Int @\n\ny T = z" =
        .ok (.incomplete unit tree errors) ∧
      tree.declarations.length = 2 ∧
      (∀ declaration ∈ tree.declarations,
        ∃ declared, declaration = .variable declared ∧ declared.Faithful unit) ∧
      tree.declarations.Pairwise fun earlier later => earlier.span.Precedes later.span := by
  obtain ⟨outcome, ended, faithful⟩ :=
    run_tree_faithful (.ofOptions true 32 false) "main" "x 1\né Int @\n\ny T = z"
  have counted : (run (.ofOptions true 32 false) "main" "x 1\né Int @\n\ny T = z").map
      (fun outcome => outcome.value?.map fun value => value.2.declarations.length) =
        .ok (some 2) := by
    decide +kernel
  have reported : (run (.ofOptions true 32 false) "main" "x 1\né Int @\n\ny T = z").map
      (fun outcome => outcome.isComplete) = .ok false := by
    decide +kernel
  rw [ended] at counted reported
  cases outcome with
  | complete unit tree => cases reported
  | failed e => cases counted
  | incomplete unit tree errors =>
      obtain ⟨-, -, -, each, apart⟩ := faithful unit tree rfl
      exact ⟨unit, tree, errors, ended, Option.some.inj (Except.ok.inj counted), each, apart⟩

end FrontEnd

end DeclLang
