import IssuePlanner.Chunk.Paragraphs
import IssuePlanner.Chunk.Sentences
import IssuePlanner.Chunk.SplitPoint
import IssuePlanner.Citation
import IssuePlanner.Clock.Timestamp
import IssuePlanner.Comment
import IssuePlanner.Cost
import IssuePlanner.Curation.Basic
import IssuePlanner.Curation.Choice
import IssuePlanner.Curation.ContextFile
import IssuePlanner.Curation.Directories
import IssuePlanner.Curation.Prompt
import IssuePlanner.Data.Access
import IssuePlanner.Data.Arithmetic
import IssuePlanner.Data.Basic
import IssuePlanner.Data.Reader
import IssuePlanner.Data.Written
import IssuePlanner.Failure
import IssuePlanner.FileTree
import IssuePlanner.Generation
import IssuePlanner.Issue.Basic
import IssuePlanner.Issue.Branch
import IssuePlanner.Issue.Resource
import IssuePlanner.Job
import IssuePlanner.Judgement.Basic
import IssuePlanner.Judgement.Diff
import IssuePlanner.Judgement.Prompt
import IssuePlanner.Main
import IssuePlanner.Metadata
import IssuePlanner.Model.Call
import IssuePlanner.Model.Manager
import IssuePlanner.Model.Merge
import IssuePlanner.Model.Reply
import IssuePlanner.Model.Request
import IssuePlanner.Model.Retry
import IssuePlanner.Model.Usage
import IssuePlanner.Number.Double
import IssuePlanner.Number.Reading
import IssuePlanner.Number.Scaled
import IssuePlanner.Number.Shortest
import IssuePlanner.Number.Written
import IssuePlanner.Outline.Diff
import IssuePlanner.Outline.Package
import IssuePlanner.Outline.Script
import IssuePlanner.Outline.Script.Docstring
import IssuePlanner.Outline.Script.Expr
import IssuePlanner.Outline.Script.Grammar.Basic
import IssuePlanner.Outline.Script.Grammar.Expression
import IssuePlanner.Outline.Script.Grammar.Pattern
import IssuePlanner.Outline.Script.Grammar.Statement
import IssuePlanner.Outline.Script.Interpolation
import IssuePlanner.Outline.Script.Lexer
import IssuePlanner.Outline.Script.Literal
import IssuePlanner.Outline.Script.Printer
import IssuePlanner.Outline.Script.Token
import IssuePlanner.Outline.Snapshot
import IssuePlanner.Path.Glob
import IssuePlanner.Server.Environment
import IssuePlanner.Server.Launch
import IssuePlanner.Server.Options
import IssuePlanner.Server.Startup
import IssuePlanner.Server.Tool
import IssuePlanner.Server.Work
import IssuePlanner.Session.Basic
import IssuePlanner.Session.Command
import IssuePlanner.Snapshot.AlwaysIgnored
import IssuePlanner.Snapshot.Basic
import IssuePlanner.Snapshot.Context
import IssuePlanner.Snapshot.Rules
import IssuePlanner.Snapshot.Tree
import IssuePlanner.Text.Blank
import IssuePlanner.Text.CharName
import IssuePlanner.Text.Composite
import IssuePlanner.Text.Expansion
import IssuePlanner.Text.Identifier
import IssuePlanner.Text.Letter
import IssuePlanner.Text.Lines
import IssuePlanner.Text.NormalForm
import IssuePlanner.Text.Order
import IssuePlanner.Text.Pick
import IssuePlanner.Text.Printable
import IssuePlanner.Text.Quoted
import IssuePlanner.Text.Ranges
import IssuePlanner.Text.Search
import IssuePlanner.Text.Utf8
import IssuePlanner.Tokens.Counter
import IssuePlanner.Tokens.Encoding
import IssuePlanner.Tokens.Limit
import IssuePlanner.Workplan.Draft
import IssuePlanner.Workplan.Prompt
import IssuePlanner.Workplan.Publish
import IssuePlanner.Proofs.Chunk.Cut
import IssuePlanner.Proofs.Chunk.Conservation
import IssuePlanner.Proofs.Model.Requests
import IssuePlanner.Proofs.Chunk.Size
import IssuePlanner.Proofs.Model.Terms
import IssuePlanner.Proofs.Model.Content
import IssuePlanner.Proofs.Model.Delivery
import IssuePlanner.Proofs.Model.Limit
import IssuePlanner.Proofs.Snapshot.Selection
import IssuePlanner.Proofs.Session.World
import IssuePlanner.Proofs.Snapshot.Taking
import IssuePlanner.Proofs.Snapshot.Noninterference
import IssuePlanner.Proofs.Path.Glob
import IssuePlanner.Proofs.Snapshot.Hiding
import IssuePlanner.Proofs.Model.Exchange
import IssuePlanner.Proofs.Model.Course
import IssuePlanner.Proofs.Model.Accounting
import IssuePlanner.Proofs.Server.Frame
import IssuePlanner.Proofs.Server.Switch
import IssuePlanner.Proofs.Session.Filing
import IssuePlanner.Proofs.Generation.Asking
import IssuePlanner.Proofs.Workplan.Filing
import IssuePlanner.Proofs.Issue.Creation
import IssuePlanner.Proofs.Judgement.Filing
import IssuePlanner.Proofs.Server.Judging
import IssuePlanner.Proofs.Curation.ContextFile
import IssuePlanner.Proofs.FileTree
import IssuePlanner.Proofs.Curation.Writing
import IssuePlanner.Proofs.Curation.Agreement
import IssuePlanner.Proofs.Server.Launching
import IssuePlanner.Proofs.Server.Placeholder
import IssuePlanner.Proofs.Server.Dispatch
import IssuePlanner.Proofs.Model.Residue
import IssuePlanner.Proofs.Session.Alike
import IssuePlanner.Proofs.Model.Independence
import IssuePlanner.Proofs.Curation.Independence
import IssuePlanner.Proofs.Server.History
import IssuePlanner.Proofs.Outline.Isolation
import IssuePlanner.Proofs.Workplan.Title
import IssuePlanner.Proofs.Model.Grounding
import IssuePlanner.Proofs.Data.Lexeme
import IssuePlanner.Proofs.Data.Reading
import IssuePlanner.Proofs.Model.Braces
import IssuePlanner.Proofs.Model.Decoding
import IssuePlanner.Proofs.Tokens.Cache
import IssuePlanner.Proofs.Citation.Form
import IssuePlanner.Proofs.Number.Range
import IssuePlanner.Proofs.Chunk.Overlap
import IssuePlanner.Proofs.Chunk.Bodies
import IssuePlanner.Proofs.Tokens.Limit
import IssuePlanner.Proofs.Citation.Metadata
import IssuePlanner.Proofs.Citation.Overrun
import IssuePlanner.Proofs.Citation.Reply
import IssuePlanner.Proofs.Tokens.Truncation
import IssuePlanner.Proofs.Model.Merging
import IssuePlanner.Proofs.Snapshot.Drawing
import IssuePlanner.Proofs.Snapshot.ReadingBack
import IssuePlanner.Proofs.Snapshot.Legibility
import IssuePlanner.Proofs.Curation.Picking
import IssuePlanner.Proofs.Model.Overlay
import IssuePlanner.Proofs.Server.Stopping
import IssuePlanner.Proofs.Outline.PublicApi
import IssuePlanner.Proofs.Outline.Touched
import IssuePlanner.Proofs.Outline.Reversal
import IssuePlanner.Proofs.Outline.Fields
import IssuePlanner.Proofs.Outline.Parameters
import IssuePlanner.Proofs.Chunk.Boundary
import IssuePlanner.Proofs.Chunk.Coincidence
import IssuePlanner.Proofs.Chunk.Tearing
import IssuePlanner.Proofs.Outline.Attributes
import IssuePlanner.Proofs.Server.Chunking
