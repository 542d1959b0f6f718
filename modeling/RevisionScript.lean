import RevisionScript.CommandLine.Options
import RevisionScript.CommandLine.Program
import RevisionScript.CommandLine.Request
import RevisionScript.Console.Layout
import RevisionScript.Console.Markup
import RevisionScript.Console.Width
import RevisionScript.Duration.Dyadic
import RevisionScript.Encoding.Decode
import RevisionScript.Encoding.Name
import RevisionScript.Envelope
import RevisionScript.Failure
import RevisionScript.File.Revision
import RevisionScript.File.Tree
import RevisionScript.Json.Reader
import RevisionScript.Json.Value
import RevisionScript.Json.Writer
import RevisionScript.Main
import RevisionScript.Proofs.CommandLine.Check
import RevisionScript.Proofs.CommandLine.CheckReport
import RevisionScript.Proofs.CommandLine.Containment
import RevisionScript.Proofs.CommandLine.Ending
import RevisionScript.Proofs.CommandLine.Envelope
import RevisionScript.Proofs.CommandLine.EnvelopeText
import RevisionScript.Proofs.CommandLine.FailureLine
import RevisionScript.Proofs.CommandLine.JsonMode
import RevisionScript.Proofs.CommandLine.RunEnding
import RevisionScript.Proofs.Console.Escape
import RevisionScript.Proofs.Console.Joined
import RevisionScript.Proofs.Console.Layout
import RevisionScript.Proofs.Console.Tagged
import RevisionScript.Proofs.Encoding.Reads
import RevisionScript.Proofs.Encoding.SingleByte
import RevisionScript.Proofs.Encoding.Stored
import RevisionScript.Proofs.Encoding.Utf16
import RevisionScript.Proofs.Encoding.Utf8
import RevisionScript.Proofs.Encoding.Utf8Fault
import RevisionScript.Proofs.Except
import RevisionScript.Proofs.File.Discovery
import RevisionScript.Proofs.File.Expansion
import RevisionScript.Proofs.File.Load
import RevisionScript.Proofs.File.Reading
import RevisionScript.Proofs.File.Tree
import RevisionScript.Proofs.File.Utf8
import RevisionScript.Proofs.Json.Grammar
import RevisionScript.Proofs.Json.Lexing
import RevisionScript.Proofs.Json.RoundTrip
import RevisionScript.Proofs.Json.Spelling
import RevisionScript.Proofs.Report.Check
import RevisionScript.Proofs.Report.Completion
import RevisionScript.Proofs.Report.Line
import RevisionScript.Proofs.Run.Attempt
import RevisionScript.Proofs.Run.Containment
import RevisionScript.Proofs.Run.Course
import RevisionScript.Proofs.Run.Execution
import RevisionScript.Proofs.Run.Executor
import RevisionScript.Proofs.Run.Fault
import RevisionScript.Proofs.Run.Progress
import RevisionScript.Proofs.Run.Quiet
import RevisionScript.Proofs.Run.Rehearsal
import RevisionScript.Proofs.Run.Session
import RevisionScript.Proofs.Run.Silent
import RevisionScript.Proofs.Run.Summary
import RevisionScript.Proofs.Run.Tally
import RevisionScript.Proofs.Run.Trace
import RevisionScript.Proofs.Run.Transaction
import RevisionScript.Proofs.Run.Transcript
import RevisionScript.Proofs.Script.AddedComment
import RevisionScript.Proofs.Script.Comment
import RevisionScript.Proofs.Script.Concatenation
import RevisionScript.Proofs.Script.Continuation
import RevisionScript.Proofs.Script.Cut
import RevisionScript.Proofs.Script.HiddenCommand
import RevisionScript.Proofs.Script.Image
import RevisionScript.Proofs.Script.Join
import RevisionScript.Proofs.Script.Kept
import RevisionScript.Proofs.Script.Lexeme
import RevisionScript.Proofs.Script.LineEnd
import RevisionScript.Proofs.Script.NormalForm
import RevisionScript.Proofs.Script.Rejoin
import RevisionScript.Proofs.Script.Reserved
import RevisionScript.Proofs.Script.Spelling
import RevisionScript.Proofs.Script.Statement
import RevisionScript.Proofs.Text.Blank
import RevisionScript.Proofs.Text.Case
import RevisionScript.Proofs.Text.CodePoint
import RevisionScript.Proofs.Text.Line
import RevisionScript.Proofs.Text.LineEnd
import RevisionScript.Report
import RevisionScript.Run.Database
import RevisionScript.Run.Record
import RevisionScript.Run.RecordField
import RevisionScript.Run.Rehearsal
import RevisionScript.Run.Session
import RevisionScript.Run.Transaction
import RevisionScript.Script.Position
import RevisionScript.Script.Revision
import RevisionScript.Text.Basic
import RevisionScript.Text.Case
import RevisionScript.Text.CaseTable
import RevisionScript.Text.Quoted
import RevisionScript.Text.Similarity
