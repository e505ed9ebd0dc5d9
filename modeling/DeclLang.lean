import DeclLang.Command.Arguments
import DeclLang.Command.Directory
import DeclLang.Command.Execute
import DeclLang.Command.Printing
import DeclLang.Diagnostic
import DeclLang.FrontEnd.Run
import DeclLang.Lexeme
import DeclLang.Main
import DeclLang.Number.Binary64
import DeclLang.Number.Decimal
import DeclLang.Number.Numeral
import DeclLang.Scan.Error
import DeclLang.Scan.Unit
import DeclLang.Source.LineTable
import DeclLang.Source.Span
import DeclLang.Syntax.Error
import DeclLang.Syntax.Parse
import DeclLang.Syntax.Recovery
import DeclLang.Syntax.Tree
import DeclLang.Text.CharacterClass
import DeclLang.Text.Display
import DeclLang.Text.LowerCase
import DeclLang.Token
import DeclLang.Trace
import DeclLang.Proofs.Command.Listing
import DeclLang.Proofs.Command.Painting
import DeclLang.Proofs.Command.Rows
import DeclLang.Proofs.FrontEnd.Diagnostics
import DeclLang.Proofs.FrontEnd.ErrorLimit
import DeclLang.Proofs.FrontEnd.Faithful
import DeclLang.Proofs.FrontEnd.Guarded
import DeclLang.Proofs.FrontEnd.Layout
import DeclLang.Proofs.FrontEnd.Origin
import DeclLang.Proofs.FrontEnd.PlainTrees
import DeclLang.Proofs.FrontEnd.Rendering
import DeclLang.Proofs.Lexeme.Language
import DeclLang.Proofs.Lexeme.LongestMatch
import DeclLang.Proofs.Lexeme.Seam
import DeclLang.Proofs.Number.Classification
import DeclLang.Proofs.Number.Digits
import DeclLang.Proofs.Number.Exponents
import DeclLang.Proofs.Number.Literals
import DeclLang.Proofs.Number.Signs
import DeclLang.Proofs.Scan.Concatenation
import DeclLang.Proofs.Scan.Course
import DeclLang.Proofs.Scan.ErrorRunes
import DeclLang.Proofs.Scan.Guarded
import DeclLang.Proofs.Scan.Listing
import DeclLang.Proofs.Scan.LongestMatches
import DeclLang.Proofs.Scan.Positions
import DeclLang.Proofs.Scan.Runes
import DeclLang.Proofs.Scan.Spelling
import DeclLang.Proofs.Scan.Tiling
import DeclLang.Proofs.Scan.Truncation
import DeclLang.Proofs.Source.Bytes
import DeclLang.Proofs.Source.Columns
import DeclLang.Proofs.Source.LineRanges
import DeclLang.Proofs.Source.Lines
import DeclLang.Proofs.Source.Order
import DeclLang.Proofs.Source.Shift
import DeclLang.Proofs.Syntax.Rounds
import DeclLang.Proofs.Syntax.Concatenation
import DeclLang.Proofs.Syntax.ErrorLimit
import DeclLang.Proofs.Syntax.ErrorPlaces
import DeclLang.Proofs.Syntax.Grammar
import DeclLang.Proofs.Syntax.Interruption
import DeclLang.Proofs.Syntax.Isolation
import DeclLang.Proofs.Syntax.LastError
import DeclLang.Proofs.Syntax.Layout
import DeclLang.Proofs.Syntax.Occurrence
import DeclLang.Proofs.Syntax.Phrase
import DeclLang.Proofs.Syntax.Progress
import DeclLang.Proofs.Syntax.Resumption
import DeclLang.Proofs.Syntax.Viability
