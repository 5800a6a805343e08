import TemplatePaint.Text.Range
import TemplatePaint.Text.Blank
import TemplatePaint.Text.CharCounter
import TemplatePaint.Text.Runs
import TemplatePaint.Text.Numeric
import TemplatePaint.Text.Word
import TemplatePaint.Text.LowerCase
import TemplatePaint.Pattern.Place
import TemplatePaint.Pattern.Basic
import TemplatePaint.Pattern.Search
import TemplatePaint.Pattern.Class
import TemplatePaint.Span.Basic
import TemplatePaint.Span.Identifier
import TemplatePaint.Span.ClassToken
import TemplatePaint.Span.Rule
import TemplatePaint.Span.Stream
import TemplatePaint.Sorted
import TemplatePaint.Distinct
import TemplatePaint.Text.Lines
import TemplatePaint.Context
import TemplatePaint.Links
import TemplatePaint.Paint.Edit
import TemplatePaint.Frame
import TemplatePaint.KeyMap
import TemplatePaint.Text.Quoted
import TemplatePaint.Json.FloatText
import TemplatePaint.Json.Reader
import TemplatePaint.Document.StoredToggles
import TemplatePaint.Settings
import TemplatePaint.Language
import TemplatePaint.Debouncer
import TemplatePaint.Document.Store
import TemplatePaint.Document.Snapshot
import TemplatePaint.Feature
import TemplatePaint.Host.Workspace
import TemplatePaint.Host.Canvas
import TemplatePaint.Host.Archive
import TemplatePaint.Session.Run
import TemplatePaint.Proofs.Pattern.Ways
import TemplatePaint.Proofs.Pattern.Matches
import TemplatePaint.Proofs.Pattern.Language
import TemplatePaint.Proofs.Pattern.First
import TemplatePaint.Proofs.Span.Plain
import TemplatePaint.Proofs.Span.Located
import TemplatePaint.Proofs.Span.Order
import TemplatePaint.Proofs.Span.ClassAttributes
import TemplatePaint.Proofs.Span.Tags
import TemplatePaint.Proofs.Span.Controllers
import TemplatePaint.Proofs.Span.Actions
import TemplatePaint.Proofs.Text.LineOffsets
import TemplatePaint.Proofs.Text.LineNumbers
import TemplatePaint.Proofs.Text.NormalForms
import TemplatePaint.Proofs.Text.Listing
import TemplatePaint.Proofs.Frame.Around
import TemplatePaint.Proofs.Frame.Nested
import TemplatePaint.Proofs.Frame.Exact
import TemplatePaint.Proofs.Frame.Declaration
import TemplatePaint.Proofs.Context.Innermost
import TemplatePaint.Proofs.Paint.Bounds
import TemplatePaint.Proofs.Paint.Complement
import TemplatePaint.Proofs.Paint.Dimming
import TemplatePaint.Proofs.Paint.Finished
import TemplatePaint.Proofs.Paint.Folded
import TemplatePaint.Proofs.Paint.Modifiers
import TemplatePaint.Proofs.Context.Primary
import TemplatePaint.Proofs.Context.Actions
import TemplatePaint.Proofs.Paint.Tooltips
import TemplatePaint.Proofs.Debouncer.Trace
import TemplatePaint.Proofs.Host.Steady
import TemplatePaint.Proofs.Host.Apart
import TemplatePaint.Proofs.Session.Pass
import TemplatePaint.Proofs.Session.Drawings
import TemplatePaint.Proofs.Session.Moves
import TemplatePaint.Proofs.Session.Record
import TemplatePaint.Proofs.Session.Closings
import TemplatePaint.Proofs.Session.Picture
import TemplatePaint.Proofs.Session.Folding
import TemplatePaint.Proofs.Session.Delivery
import TemplatePaint.Proofs.Session.Held
import TemplatePaint.Proofs.Session.Upkeep
import TemplatePaint.Proofs.Session.Quiet
import TemplatePaint.Proofs.Session.Polls
import TemplatePaint.Proofs.Session.Reach
import TemplatePaint.Proofs.Session.Footprint
import TemplatePaint.Proofs.Session.Commuting
import TemplatePaint.Proofs.Session.Saved
import TemplatePaint.Proofs.Session.Flags
import TemplatePaint.Proofs.Session.Clicks
import TemplatePaint.Proofs.Text.LineBreaks
import TemplatePaint.Proofs.Paint.FrameLines
import TemplatePaint.Proofs.Text.Replacement
import TemplatePaint.Text.ByteSlice
import TemplatePaint.Proofs.Links.Named
import TemplatePaint.Proofs.Links.Modifiers
import TemplatePaint.Proofs.Links.Frames
import TemplatePaint.Proofs.Span.PlainTags
import TemplatePaint.Proofs.Span.Classes
import TemplatePaint.Proofs.Settings.Members
import TemplatePaint.Proofs.Document.Restored
