import PhraseAudit.Unicode.Word
import PhraseAudit.Unicode.Digit
import PhraseAudit.Text.Lowercase
import PhraseAudit.Text.Numeral
import PhraseAudit.Text.Quoted
import PhraseAudit.Text.Pattern
import PhraseAudit.Text.Folded
import PhraseAudit.Line
import PhraseAudit.Phrase.Index
import PhraseAudit.Ledger
import PhraseAudit.Dictionary
import PhraseAudit.Store
import PhraseAudit.Json.Printer
import PhraseAudit.Console
import PhraseAudit.Encoding.Name
import PhraseAudit.Encoding.Chunks
import PhraseAudit.Text.Lines
import PhraseAudit.Source
import PhraseAudit.Report.Writer
import PhraseAudit.Report.OfStore
import PhraseAudit.Host
import PhraseAudit.CommandLine.Run
import PhraseAudit.Main
import PhraseAudit.Proofs.Unicode.Spelling
import PhraseAudit.Proofs.Unicode.Matching
import PhraseAudit.Proofs.Unicode.WordCase
import PhraseAudit.Proofs.Scan.Cut
import PhraseAudit.Proofs.Scan.Outside
import PhraseAudit.Proofs.Scan.Places
import PhraseAudit.Proofs.Marker.Grammar
import PhraseAudit.Proofs.Marker.Keyword
import PhraseAudit.Proofs.Marker.Stray
import PhraseAudit.Proofs.Marker.Removal
import PhraseAudit.Proofs.Marker.Rewrap
import PhraseAudit.Proofs.Phrase.Index
import PhraseAudit.Proofs.Phrase.Occurrence
import PhraseAudit.Proofs.Phrase.Packing
import PhraseAudit.Proofs.Phrase.Joined
import PhraseAudit.Proofs.Ledger.Recording
import PhraseAudit.Proofs.Ledger.Snippets
import PhraseAudit.Proofs.Search.Rows
import PhraseAudit.Proofs.Search.Numbering
import PhraseAudit.Proofs.Search.Comparison
import PhraseAudit.Proofs.Search.Blanking
import PhraseAudit.Proofs.Search.Contained
import PhraseAudit.Proofs.Search.Variants
import PhraseAudit.Proofs.Search.Exact
import PhraseAudit.Proofs.Search.Original
import PhraseAudit.Proofs.Search.Payload
import PhraseAudit.Proofs.Source.Reading
import PhraseAudit.Proofs.Audit.Outcome
import PhraseAudit.Proofs.Audit.Summary
import PhraseAudit.Proofs.Audit.Reuse
import PhraseAudit.Proofs.Audit.Transparency
import PhraseAudit.Proofs.CommandLine.Crash
import PhraseAudit.Proofs.Ledger.History
import PhraseAudit.Proofs.Store.History
import PhraseAudit.Proofs.Ledger.Acceptance
import PhraseAudit.Proofs.Report.Coherent
import PhraseAudit.Proofs.Report.Frame
import PhraseAudit.Proofs.Report.AllOrNothing
import PhraseAudit.Proofs.Encoding.Utf16
import PhraseAudit.Proofs.Encoding.Utf8
import PhraseAudit.Proofs.Source.Forms
import PhraseAudit.Proofs.Report.ReadsBack
import PhraseAudit.Proofs.Marker.Lexing
import PhraseAudit.Proofs.Marker.Joined
import PhraseAudit.Proofs.Audit.Notices
import PhraseAudit.Proofs.CommandLine.Course
import PhraseAudit.Proofs.CommandLine.Status
import PhraseAudit.Proofs.CommandLine.Streams
import PhraseAudit.Proofs.Scan.Leftmost
import PhraseAudit.Proofs.Scan.Middle
import PhraseAudit.Proofs.Ledger.Refusal
import PhraseAudit.Proofs.Encoding.WellFormed
import PhraseAudit.Proofs.Phrase.WholeWord
import PhraseAudit.Proofs.Source.Strict
import PhraseAudit.Proofs.Text.Lines
import PhraseAudit.Proofs.Source.LineEnds
import PhraseAudit.Proofs.Tag.Told
import PhraseAudit.Proofs.Marker.Stopping
import PhraseAudit.Proofs.Files.Lengths
import PhraseAudit.Proofs.CommandLine.SourcePath
import PhraseAudit.Proofs.Encoding.Resuming
import PhraseAudit.Proofs.Encoding.Chunked
import PhraseAudit.Proofs.Source.BreakingOff
import PhraseAudit.Proofs.Line.Snippet
import PhraseAudit.Proofs.Report.Agreement
