import Legible.Text.Basic
import Legible.Text.Range
import Legible.Text.Blank
import Legible.Text.Digit
import Legible.Text.Word
import Legible.Text.Name
import Legible.Text.Printable
import Legible.Text.Cells
import Legible.Text.CaseTable
import Legible.Text.Case
import Legible.Text.Units
import Legible.Text.Utf8
import Legible.Text.Quoted
import Legible.Number.Binary64
import Legible.Number.Shortest
import Legible.Number.Notation
import Legible.Number.Reading
import Legible.Value.Basic
import Legible.Value.Parser
import Legible.Value.Printer
import Legible.Value.Source
import Legible.Pattern.CharTest
import Legible.Pattern.Basic
import Legible.Pattern.CharName
import Legible.Pattern.AsciiName
import Legible.Pattern.Matcher
import Legible.Pattern.Search
import Legible.Pattern.Parser
import Legible.TypeLayout
import Legible.Template
import Legible.Rule
import Legible.Keymap.Chord
import Legible.Keymap.Command
import Legible.Path
import Legible.Language
import Legible.Diagnostic.Basic
import Legible.Diagnostic.Published
import Legible.Settings.Merge
import Legible.Settings.Config
import Legible.Settings.Store
import Legible.Settings.Session
import Legible.Message
import Legible.Diagnostic.Interception
import Legible.Frame
import Legible.Popup.Highlight
import Legible.Popup.Basic
import Legible.Popup.Recorder
import Legible.Controller
import Legible.Controller.Session
import Legible.Debounce
import Legible.Startup
import Legible.Client.Outgoing
import Legible.Client.Basic
import Legible.Client.Documents
import Legible.Client.Lifecycle
import Legible.Client.Incoming
import Legible.Workspace.Basic
import Legible.Editor.Position
import Legible.Editor.Basic
import Legible.Popup.Overlay
import Legible.Transcript.Basic
import Legible.Transcript.Popup
import Legible.Transcript.Workspace
import Legible.Transcript.Editor
import Legible.Transcript.Keymap
import Legible.Files
import Legible.Log.Format
import Legible.Log.Record
import Legible.Log.Rotation
import Legible.Log.Basic
import Legible.Window.Basic
import Legible.Application
import Legible.Transcript.Window
import Legible.Main
import Legible.Proofs.Text.Decimal
import Legible.Proofs.Text.Utf8
import Legible.Proofs.Text.Blank
import Legible.Proofs.Text.Lines
import Legible.Proofs.Text.Parts
import Legible.Proofs.Text.Units
import Legible.Proofs.Text.Utf16
import Legible.Proofs.Lists
import Legible.Proofs.Value.Fields
import Legible.Proofs.Value.Names
import Legible.Proofs.Value.RoundTrip
import Legible.Proofs.Value.Integer
import Legible.Proofs.Value.Nesting
import Legible.Proofs.Value.Controls
import Legible.Proofs.Frame.Chunks
import Legible.Proofs.Frame.RoundTrip
import Legible.Proofs.Frame.Header
import Legible.Proofs.Frame.Segments
import Legible.Proofs.Frame.Refused
import Legible.Proofs.Client.Holding
import Legible.Proofs.Client.Life
import Legible.Proofs.Client.Opening
import Legible.Proofs.Client.Overtaking
import Legible.Proofs.Client.Run
import Legible.Proofs.Workspace.Run
import Legible.Proofs.Message.Inline
import Legible.Proofs.Message.Ink
import Legible.Proofs.Message.Layout
import Legible.Proofs.Message.Part
import Legible.Proofs.Message.Shape
import Legible.Proofs.Frame.Stray
import Legible.Proofs.Popup.Host
import Legible.Proofs.Popup.Ownership
import Legible.Proofs.Popup.Content
import Legible.Proofs.Controller.Cursor
import Legible.Proofs.Controller.Deferral
import Legible.Proofs.Client.Once
import Legible.Proofs.Client.Copies
import Legible.Proofs.Workspace.Documents
import Legible.Proofs.Workspace.Serving
import Legible.Proofs.Workspace.Convergence
import Legible.Proofs.Diagnostic.Rewording
import Legible.Proofs.Diagnostic.Location
import Legible.Proofs.Diagnostic.Order
import Legible.Proofs.Diagnostic.Recovery
import Legible.Proofs.Diagnostic.Selection
import Legible.Proofs.Workspace.Publication
import Legible.Proofs.Client.Talk
import Legible.Proofs.Client.Ledger
import Legible.Proofs.Client.Reading
import Legible.Proofs.Client.Requests
import Legible.Proofs.Client.Stopping
import Legible.Proofs.Client.Shutdown
import Legible.Proofs.Client.Exit
import Legible.Proofs.Settings.Loading
import Legible.Proofs.Settings.Merge
import Legible.Proofs.Settings.Aliases
import Legible.Proofs.Settings.Layers
import Legible.Proofs.Message.Rules
import Legible.Proofs.Message.Special
import Legible.Proofs.Window.Run
import Legible.Proofs.Window.Diagnostics
import Legible.Proofs.Window.Deferral
import Legible.Proofs.Controller.Round
import Legible.Proofs.Controller.Severity
import Legible.Proofs.Language.Family
import Legible.Proofs.Editor.Position
import Legible.Proofs.Editor.Underline
import Legible.Proofs.Popup.Overlay
import Legible.Proofs.Window.Jump
import Legible.Proofs.Template.RoundTrip
import Legible.Proofs.Popup.Display
import Legible.Proofs.Popup.Highlight
import Legible.Proofs.Popup.Formats
import Legible.Proofs.Keymap.Conflicts
import Legible.Proofs.Keymap.Sequence
