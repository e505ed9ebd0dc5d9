import DeclLang.Source.Span

/-!
# Diagnostics

A diagnostic is what a reader of the source gets to see of an error: how grave it is, a code and a
title, labels on the bytes it is about, and notes that help. A label is either where the reader
should look first or a place that explains the others. How all this is drawn is left to the
terminal.
-/

namespace DeclLang

/-- How grave a diagnostic is, the gravest first. -/
inductive Severity
  | bug
  | error
  | warning
  | note
  | help
  deriving DecidableEq

namespace Severity

/-- The word that a heading opens with. -/
def text : Severity → String
  | .bug => "bug"
  | .error => "error"
  | .warning => "warning"
  | .note => "note"
  | .help => "help"

end Severity

/-- Whether a label marks the cause of a diagnostic or something that explains it. -/
inductive LabelStyle
  | primary
  | secondary
  deriving DecidableEq

/-- A message on the bytes from `start` up to `finish`. -/
structure Label where
  style : LabelStyle
  start : Nat
  finish : Nat
  message : String
  deriving DecidableEq

/-- The label of a cause that covers a span. -/
def Span.label (s : Span) (message : String) : Label :=
  ⟨.primary, s.start.offset, s.finish.offset, message⟩

/-- The label of a cause that covers one character. -/
def Position.label (p : Position) (c : Char) (message : String) : Label :=
  ⟨.primary, p.location.offset, p.location.offset + c.utf8Size, message⟩

/-- An error as it is reported on a source. -/
structure Diagnostic where
  severity : Severity
  code : String
  title : String
  labels : List Label
  notes : List String
  deriving DecidableEq

namespace Diagnostic

/-- The first line of a report. -/
def heading (d : Diagnostic) : String :=
  d.severity.text ++ "[" ++ d.code ++ "]: " ++ d.title

end Diagnostic

end DeclLang
