import SqlTriage.Executable.Main
import SqlTriage.Proofs.Script.Stripping
import SqlTriage.Proofs.Lexical.TokenStream
import SqlTriage.Proofs.Classify.Verdict
import SqlTriage.Proofs.Classify.KeywordTable
import SqlTriage.Proofs.Rule.Alike
import SqlTriage.Proofs.Classify.Gap
import SqlTriage.Proofs.Classify.QuotedData
import SqlTriage.Proofs.Script.CutSpans
import SqlTriage.Proofs.Lexical.Seam
import SqlTriage.Proofs.Lexical.Terminator
import SqlTriage.Proofs.Classify.FirstStatement
import SqlTriage.Proofs.Lexical.Splice
import SqlTriage.Proofs.Classify.Splice
import SqlTriage.Proofs.Classify.Names
import SqlTriage.Proofs.Lexical.LetterCase
import SqlTriage.Proofs.Classify.LetterCase
import SqlTriage.Proofs.Lexical.Spelling
import SqlTriage.Proofs.Classify.Spelling
import SqlTriage.Proofs.Script.Joining
import SqlTriage.Proofs.Lexical.Portable
import SqlTriage.Proofs.Classify.Agreement
import SqlTriage.Proofs.Classify.Semicolon
import SqlTriage.Proofs.Text.Words
import SqlTriage.Proofs.Report.TextLine
import SqlTriage.Proofs.Statement.NameParts
import SqlTriage.Proofs.Classify.Qualified
import SqlTriage.Proofs.Script.Pieces
import SqlTriage.Proofs.Lexical.NormalForm
import SqlTriage.Proofs.Lexical.Stepwise
import SqlTriage.Proofs.Classify.NormalForm
import SqlTriage.Proofs.Lexical.Separated
import SqlTriage.Proofs.Rule.Greedy
import SqlTriage.Proofs.Classify.Lookahead
import SqlTriage.Proofs.Classify.Noise
import SqlTriage.Proofs.Lexical.Tiling
import SqlTriage.Proofs.Lexical.ClosingQuote
import SqlTriage.Proofs.Run.FailFast
import SqlTriage.Proofs.Settings.Precedence
import SqlTriage.Proofs.Json.Reading
import SqlTriage.Proofs.Report.JsonLine
