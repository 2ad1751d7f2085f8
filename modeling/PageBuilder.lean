import PageBuilder.Action.Basic
import PageBuilder.Action.Token
import PageBuilder.Advice.Basic
import PageBuilder.Advice.Preview
import PageBuilder.Advice.Reading
import PageBuilder.Binary64.Basic
import PageBuilder.Binary64.Decimal
import PageBuilder.Binary64.Layout
import PageBuilder.Binary64.Rounding
import PageBuilder.CommandLine.Arguments
import PageBuilder.CommandLine.Folder
import PageBuilder.CommandLine.PathName
import PageBuilder.CommandLine.Run
import PageBuilder.Config
import PageBuilder.ConfigFile
import PageBuilder.Document.Basic
import PageBuilder.Document.Codec
import PageBuilder.Document.Completion
import PageBuilder.Document.Component
import PageBuilder.Document.Default
import PageBuilder.Document.Error
import PageBuilder.Document.Grammar
import PageBuilder.Document.Import
import PageBuilder.Document.Page
import PageBuilder.Document.Props
import PageBuilder.Document.Published
import PageBuilder.Document.Timestamp
import PageBuilder.Drawing.Canvas
import PageBuilder.Drawing.Color
import PageBuilder.Drawing.Listing
import PageBuilder.Drawing.NamedColor
import PageBuilder.Drawing.Painter
import PageBuilder.Drawing.Plain
import PageBuilder.Edit.Basic
import PageBuilder.Edit.Components
import PageBuilder.Edit.FreshId
import PageBuilder.Edit.Pages
import PageBuilder.Edit.Reached
import PageBuilder.Edit.Run
import PageBuilder.Edit.Settings
import PageBuilder.Editor.Run
import PageBuilder.Editor.State
import PageBuilder.Editor.Workbench
import PageBuilder.Json.Acceptance
import PageBuilder.Json.Agreement
import PageBuilder.Json.Basic
import PageBuilder.Json.Display
import PageBuilder.Json.Limits
import PageBuilder.Json.Parser
import PageBuilder.Json.Printer
import PageBuilder.Json.Shape
import PageBuilder.Main
import PageBuilder.Navigation.History
import PageBuilder.Navigation.Initial
import PageBuilder.Numeral
import PageBuilder.Outline
import PageBuilder.Preview.Execution
import PageBuilder.Preview.Executor
import PageBuilder.Preview.Run
import PageBuilder.Preview.Session
import PageBuilder.Proofs.AcceptedSettings
import PageBuilder.Proofs.ActionMeaning
import PageBuilder.Proofs.Additions
import PageBuilder.Proofs.Agreement
import PageBuilder.Proofs.ButtonTokens
import PageBuilder.Proofs.ClickTargets
import PageBuilder.Proofs.ComponentCodec
import PageBuilder.Proofs.ComponentEdits
import PageBuilder.Proofs.ComponentIds
import PageBuilder.Proofs.ComponentMoves
import PageBuilder.Proofs.ControlValues
import PageBuilder.Proofs.DocumentCodec
import PageBuilder.Proofs.DoubleRange
import PageBuilder.Proofs.DoubleRounding
import PageBuilder.Proofs.DoubleText
import PageBuilder.Proofs.EditFrames
import PageBuilder.Proofs.EditValidity
import PageBuilder.Proofs.EditedDocuments
import PageBuilder.Proofs.EditorRuns
import PageBuilder.Proofs.EditorSteps
import PageBuilder.Proofs.ExecutorRuns
import PageBuilder.Proofs.ExportImport
import PageBuilder.Proofs.FieldLists
import PageBuilder.Proofs.FreshIds
import PageBuilder.Proofs.ImportGrammar
import PageBuilder.Proofs.ImportPhase
import PageBuilder.Proofs.ImportReports
import PageBuilder.Proofs.JsonReading
import PageBuilder.Proofs.JsonText
import PageBuilder.Proofs.LabelLists
import PageBuilder.Proofs.NodeIds
import PageBuilder.Proofs.Normalization
import PageBuilder.Proofs.NumberText
import PageBuilder.Proofs.Numerals
import PageBuilder.Proofs.PageDeletions
import PageBuilder.Proofs.PageIds
import PageBuilder.Proofs.PageMoves
import PageBuilder.Proofs.PageOutline
import PageBuilder.Proofs.PageRendering
import PageBuilder.Proofs.PendingNavigation
import PageBuilder.Proofs.PreviewOpening
import PageBuilder.Proofs.PreviewRuns
import PageBuilder.Proofs.PublishedShape
import PageBuilder.Proofs.QuotedText
import PageBuilder.Proofs.ReadRecords
import PageBuilder.Proofs.ReaderLimits
import PageBuilder.Proofs.RecordCodec
import PageBuilder.Proofs.RecordFields
import PageBuilder.Proofs.ResolvedStyles
import PageBuilder.Proofs.Selection
import PageBuilder.Proofs.Shapes
import PageBuilder.Proofs.ShortestDecimal
import PageBuilder.Proofs.StackedPaintings
import PageBuilder.Proofs.StampSearch
import PageBuilder.Proofs.StoredActions
import PageBuilder.Proofs.UnnamedProps
import PageBuilder.Proofs.Utf8Text
import PageBuilder.Proofs.ValueDisplay
import PageBuilder.Text.Blank
import PageBuilder.Text.CharRange
import PageBuilder.Text.DecimalDigit
import PageBuilder.Text.HexColor
import PageBuilder.Text.Integer
import PageBuilder.Text.Letters
import PageBuilder.Text.Literal
import PageBuilder.Text.Printable
import PageBuilder.Text.Start
import PageBuilder.Text.Utf8
import PageBuilder.Text.WordChar
import PageBuilder.Text.Wrap
import PageBuilder.Toml.Reader
import PageBuilder.Toml.Scalar
import PageBuilder.Toml.Table
import PageBuilder.View.Address
import PageBuilder.View.Component
import PageBuilder.View.Node
import PageBuilder.View.Page
import PageBuilder.View.Style
import PageBuilder.View.Theme
