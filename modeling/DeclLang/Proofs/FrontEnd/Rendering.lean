import DeclLang.Proofs.FrontEnd.PlainTrees
import DeclLang.Proofs.Scan.Concatenation

/-!
# Written declarations run back to themselves

Declarations can be written with any white space that keeps their names and types apart. A run of
the written text, under any configuration, comes back to a tree of just these declarations, at the
places where they were written.
-/

namespace DeclLang

/-- The identifier that a text makes right after another text. -/
def Token.identifierAfter (source passed text : String) : Token :=
  ⟨.identifier, text, source, Location.after passed.toList, Location.after (passed ++ text).toList⟩

namespace ScanStep

variable {source passed text : String} {tail : List Char} {steps : List ScanStep}
  {finish : Cursor}

/-- A word of a name with white space or nothing behind it is scanned as an identifier. -/
theorem Course.identifier_append (accepted : text.toList ∈ Rule.name.language)
    (blank : ∀ d ∈ tail.head?, Text.isBlank d = true)
    (later : Course source (.after (passed ++ text).toList) tail steps finish) :
    Course source (.after passed.toList) (text.toList ++ tail)
      (.token (.identifierAfter source passed text) :: steps) finish := by
  obtain ⟨c, others, spelled, -⟩ := Rule.starts_of_mem_language accepted
  have moved : (Cursor.after passed.toList).advanceAll text.toList =
      .after (passed ++ text).toList := by
    rw [Cursor.advanceAll_after, String.toList_append]
  rw [spelled] at accepted moved ⊢
  refine .taken (Lexeme.read_name accepted blank) ?_ ?_
  · rw [ofLexeme?, Lexeme.chars, moved, Cursor.location_after, Cursor.location_after, ← spelled,
      String.ofList_toList]
    rfl
  · rw [Lexeme.chars, moved]
    exact later

theorem Course.gap_append {gap : String} (blank : ∀ c ∈ gap.toList, Text.isBlank c = true)
    (later : Course source (.after (passed ++ gap).toList) tail steps finish) :
    Course source (.after passed.toList) (gap.toList ++ tail) steps finish := by
  apply Course.blank_append blank
  rwa [Cursor.advanceAll_after, ← String.toList_append]

end ScanStep

/-- A name and a type as they are written: each a word of a name, some white space between them,
and possibly some before the name. -/
structure Written where
  before : String
  name : String
  between : String
  type : String
  before_blank : ∀ c ∈ before.toList, Text.isBlank c = true
  name_word : name.toList ∈ Rule.name.language
  between_blank : ∀ c ∈ between.toList, Text.isBlank c = true
  between_filled : between ≠ ""
  type_word : type.toList ∈ Rule.name.language

namespace Written

/-- The text that is written. -/
def text (w : Written) : String :=
  w.before ++ w.name ++ w.between ++ w.type

/-- The phrase of what is written after some text. -/
def phrase (source passed : String) (w : Written) : Phrase where
  name := .identifierAfter source (passed ++ w.before) w.name
  type := .identifierAfter source (passed ++ w.before ++ w.name ++ w.between) w.type
  assignment? := none
  name_kind := rfl
  type_kind := rfl

/-- The declaration of what is written after some text: its name and its type have the places where
they are written, and it goes from the start of its name to the end of its type. -/
def declaration (source passed : String) (w : Written) : Declaration :=
  .plain (.identifierAfter source (passed ++ w.before) w.name)
    (.identifierAfter source (passed ++ w.before ++ w.name ++ w.between) w.type)

/-- Some pairs written one after another, and a text behind them. -/
def render (written : List Written) (trail : String) : String :=
  match written with
  | [] => trail
  | w :: written => w.text ++ render written trail

/-- The declarations of some pairs written one after another behind some text. -/
def declarations (source passed : String) : List Written → List Declaration
  | [] => []
  | w :: written => w.declaration source passed :: declarations source (passed ++ w.text) written

theorem append_text (passed : String) (w : Written) :
    passed ++ w.text = passed ++ w.before ++ w.name ++ w.between ++ w.type := by
  simp only [text, String.append_assoc]

theorem toList_text (w : Written) :
    w.text.toList = w.before.toList ++ (w.name.toList ++ (w.between.toList ++ w.type.toList)) := by
  simp only [text, String.toList_append, List.append_assoc]

/-- What is written behind a type starts with white space. -/
theorem isBlank_of_head?_render {written : List Written} {trail : String}
    (spaced : ∀ w ∈ written, w.before ≠ "") (blank : ∀ c ∈ trail.toList, Text.isBlank c = true) :
    ∀ d ∈ (render written trail).toList.head?, Text.isBlank d = true := by
  cases written with
  | nil =>
      intro d first
      exact blank d (List.mem_of_mem_head? first)
  | cons w written =>
      rw [render, String.toList_append, toList_text, List.append_assoc]
      exact Text.isBlank_of_head?_append (spaced w List.mem_cons_self) w.before_blank _

/-- The phrases of some pairs written one after another behind some text. -/
def phrases (source passed : String) : List Written → List Phrase
  | [] => []
  | w :: written => w.phrase source passed :: phrases source (passed ++ w.text) written

/-- The phrases of pairs spell their declarations, place by place. -/
theorem map_declaration_phrases (source passed : String) (written : List Written) :
    (phrases source passed written).map Phrase.declaration =
      declarations source passed written := by
  induction written generalizing passed with
  | nil => rfl
  | cons w written ih =>
      rw [phrases, declarations, List.map_cons, ih]
      rfl

/-- A scan that comes to a pair passes over it with one identifier for the name and one for the
type. -/
theorem course_text (source passed : String) (w : Written) {tail : List Char}
    {steps : List ScanStep} {finish : Cursor} (blank : ∀ d ∈ tail.head?, Text.isBlank d = true)
    (later : ScanStep.Course source (.after (passed ++ w.text).toList) tail steps finish) :
    ScanStep.Course source (.after passed.toList) (w.text.toList ++ tail)
      ((w.phrase source passed).tokens.map .token ++ steps) finish := by
  rw [append_text] at later
  have typed := (later.identifier_append w.type_word blank).gap_append w.between_blank
  have starts :=
    Text.isBlank_of_head?_append w.between_filled w.between_blank (w.type.toList ++ tail)
  have whole := (typed.identifier_append w.name_word starts).gap_append w.before_blank
  rw [toList_text]
  simp only [List.append_assoc]
  exact whole

/-- A scan of pairs in a row passes the tokens of their phrases and nothing else. -/
theorem course_render (source passed : String) {written : List Written} {trail : String}
    (spaced : ∀ w ∈ written.tail, w.before ≠ "")
    (blank : ∀ c ∈ trail.toList, Text.isBlank c = true) :
    ScanStep.Course source (.after passed.toList) (render written trail).toList
      (((phrases source passed written).flatMap Phrase.tokens).map .token)
      (.after (passed ++ render written trail).toList) := by
  induction written generalizing passed with
  | nil =>
      have ended : ScanStep.Course source (.after (passed ++ trail).toList) [] []
          (.after (passed ++ trail).toList) := .finished _
      have course := ended.gap_append blank
      rwa [List.append_nil] at course
  | cons w written ih =>
      have later := ih (passed ++ w.text) fun w' member =>
        spaced w' (List.mem_of_mem_tail member)
      rw [render, ← String.append_assoc, String.toList_append, phrases, List.flatMap_cons,
        List.map_append]
      exact course_text source passed w (isBlank_of_head?_render spaced blank) later

end Written

namespace FrontEnd

/-- A strict run that is complete makes every run complete. -/
theorem run_eq_complete_of_runStrict {source text : String} {unit : SourceUnit} {tree : Tree}
    (config : Config) (complete : runStrict source text = .ok (.complete unit tree)) :
    run config source text = .ok (.complete unit tree) := by
  have agreement := agreement_run config.errorLimit config.errorLimit_pos source text
  rw [complete] at agreement
  generalize recovered : runRecovering config.errorLimit source text = outcome at agreement
  cases agreement with
  | complete unit tree =>
      rw [run]
      split
      · exact recovered
      · exact complete

/-- **Written declarations run back to themselves.** Names and types written in turn, with white
space that keeps them apart, are a text of which every run is complete, and its tree has just these
names and types in this order, each pair in the place where it is written. -/
theorem run_render (config : Config) (source : String) (written : List Written) (trail : String)
    (spaced : ∀ w ∈ written.tail, w.before ≠ "")
    (blank : ∀ c ∈ trail.toList, Text.isBlank c = true) :
    ∃ unit, unit.name = source ∧ unit.text = Written.render written trail ∧
      run config source (Written.render written trail) =
        .ok (.complete unit ⟨source, Written.declarations source "" written⟩) := by
  have course := Written.course_render source "" spaced blank
  have declared := Written.map_declaration_phrases source "" written
  -- From here on the text counts only by its course, and the pairs only by their phrases.
  generalize Written.phrases source "" written = phrases at course declared
  generalize Written.render written trail = text at course ⊢
  have emitted : ((phrases.flatMap Phrase.tokens).map ScanStep.token).map ScanStep.emitted =
      phrases.flatMap Phrase.tokens := by
    rw [List.map_map]
    exact List.map_id _
  have clean : ((phrases.flatMap Phrase.tokens).map ScanStep.token).filterMap ScanStep.error? =
      [] := by
    rw [List.filterMap_map]
    exact List.filterMap_eq_nil_iff.mpr fun t _ => rfl
  have scanned := SourceUnit.scan_of_course course
  have inOrder := course.inOrder.1
  rw [clean, emitted] at scanned
  rw [emitted] at inOrder
  have parsed := Tree.parse_of_course source (Tree.course_flatMap phrases) inOrder
  rw [Tree.Course.result, declared] at parsed
  have complete := runStrict_eq_complete_iff.mpr ⟨scanned, parsed⟩
  refine ⟨_, ?_, ?_, run_eq_complete_of_runStrict config complete⟩
  · rfl
  · rfl

/-- `größe`, a tab, a line feed and `Int`, then `_x` and `T1` behind a wide space, and a line feed
at the end. -/
def twoWritten : List Written :=
  [{ before := ""
     name := "größe"
     between := "\t\n"
     type := "Int"
     before_blank := by simp
     name_word := Rule.mem_run.mpr
       ⟨'g', ['r', 'ö', 'ß', 'e'], rfl, by decide +kernel, List.all_eq_true.mp (by decide +kernel)⟩
     between_blank := List.all_eq_true.mp (by decide +kernel)
     between_filled := by decide
     type_word := Rule.mem_run.mpr
       ⟨'I', ['n', 't'], rfl, by decide +kernel, List.all_eq_true.mp (by decide +kernel)⟩ },
   { before := " \u2003"
     name := "_x"
     between := " "
     type := "T1"
     before_blank := List.all_eq_true.mp (by decide +kernel)
     name_word := Rule.mem_run.mpr
       ⟨'_', ['x'], rfl, by decide +kernel, List.all_eq_true.mp (by decide +kernel)⟩
     between_blank := List.all_eq_true.mp (by decide +kernel)
     between_filled := by decide
     type_word := Rule.mem_run.mpr
       ⟨'T', ['1'], rfl, by decide +kernel, List.all_eq_true.mp (by decide +kernel)⟩ }]

theorem run_twoWritten :
    ∃ unit : SourceUnit, unit.text = "größe\t\nInt \u2003_x T1\n" ∧
      run (.ofOptions true 1 false) "main" "größe\t\nInt \u2003_x T1\n" =
        .ok (.complete unit ⟨"main",
          [.plain ⟨.identifier, "größe", "main", ⟨1, 1, 0⟩, ⟨1, 6, 7⟩⟩
              ⟨.identifier, "Int", "main", ⟨2, 1, 9⟩, ⟨2, 4, 12⟩⟩,
            .plain ⟨.identifier, "_x", "main", ⟨2, 6, 16⟩, ⟨2, 8, 18⟩⟩
              ⟨.identifier, "T1", "main", ⟨2, 9, 19⟩, ⟨2, 11, 21⟩⟩]⟩) := by
  have spaced : ∀ w ∈ twoWritten.tail, w.before ≠ "" := by
    intro w member
    obtain rfl := List.mem_singleton.mp member
    decide
  have blank : ∀ c ∈ "\n".toList, Text.isBlank c = true := List.all_eq_true.mp (by decide +kernel)
  obtain ⟨unit, -, text, complete⟩ :=
    run_render (.ofOptions true 1 false) "main" twoWritten "\n" spaced blank
  have rendered : Written.render twoWritten "\n" = "größe\t\nInt \u2003_x T1\n" := by
    decide +kernel
  have placed : Written.declarations "main" "" twoWritten =
      [.plain ⟨.identifier, "größe", "main", ⟨1, 1, 0⟩, ⟨1, 6, 7⟩⟩
          ⟨.identifier, "Int", "main", ⟨2, 1, 9⟩, ⟨2, 4, 12⟩⟩,
        .plain ⟨.identifier, "_x", "main", ⟨2, 6, 16⟩, ⟨2, 8, 18⟩⟩
          ⟨.identifier, "T1", "main", ⟨2, 9, 19⟩, ⟨2, 11, 21⟩⟩] := by
    decide +kernel
  rw [placed] at complete
  rw [rendered] at complete text
  exact ⟨unit, text, complete⟩

end FrontEnd

end DeclLang
