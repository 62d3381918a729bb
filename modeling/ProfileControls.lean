import ProfileControls.Account
import ProfileControls.Action
import ProfileControls.ActionEffect
import ProfileControls.Command
import ProfileControls.CommandLine.Invocation
import ProfileControls.CommandLine.Opt
import ProfileControls.CommandLine.Run
import ProfileControls.CommandLine.Word
import ProfileControls.Config
import ProfileControls.Decision
import ProfileControls.Dispatch.Entry
import ProfileControls.Dispatch.Exchange
import ProfileControls.Dispatch.Gate
import ProfileControls.Dispatch.Lane
import ProfileControls.Dispatch.Request
import ProfileControls.Dispatch.Run
import ProfileControls.Dispatch.Server
import ProfileControls.Dispatch.Table
import ProfileControls.Handle
import ProfileControls.Header
import ProfileControls.Json.NumberLiteral
import ProfileControls.Json.Plain
import ProfileControls.Json.Printer
import ProfileControls.Json.Reader
import ProfileControls.Json.TextLiteral
import ProfileControls.Json.Token
import ProfileControls.Json.Value
import ProfileControls.Main
import ProfileControls.Menu.Item
import ProfileControls.Menu.Layout
import ProfileControls.Menu.Sections
import ProfileControls.PrimaryAction
import ProfileControls.Prompt
import ProfileControls.Record.Account
import ProfileControls.Record.Answer
import ProfileControls.Record.ConfigFile
import ProfileControls.Record.Dispatch
import ProfileControls.Record.Fields
import ProfileControls.Record.Input
import ProfileControls.Record.Viewer
import ProfileControls.Relationship
import ProfileControls.Row
import ProfileControls.Selection
import ProfileControls.Session
import ProfileControls.Standing
import ProfileControls.Tag
import ProfileControls.Text.AsciiCase
import ProfileControls.Text.Blank
import ProfileControls.Text.Decimal
import ProfileControls.Text.Digits
import ProfileControls.Text.Glyphless
import ProfileControls.Text.Quoted
import ProfileControls.Text.Start
import ProfileControls.Toggles
import ProfileControls.Toml.Document
import ProfileControls.Toml.Key
import ProfileControls.Toml.Line
import ProfileControls.Toml.Node
import ProfileControls.Toml.Scalar
import ProfileControls.Toml.Text
import ProfileControls.Visibility
import ProfileControls.Proofs.Dispatch.Move
import ProfileControls.Proofs.Dispatch.Coherence
import ProfileControls.Proofs.Dispatch.History
import ProfileControls.Proofs.Dispatch.Lanes
import ProfileControls.Proofs.Dispatch.Waiting
import ProfileControls.Proofs.Dispatch.Turns
import ProfileControls.Proofs.Dispatch.Shown
import ProfileControls.Proofs.Dispatch.Confirmed
import ProfileControls.Proofs.Relationship.Independence
import ProfileControls.Proofs.Profile.Concealment
import ProfileControls.Proofs.Dispatch.Agreement
import ProfileControls.Proofs.Dispatch.Work
import ProfileControls.Proofs.Dispatch.Exchange
import ProfileControls.Proofs.Dispatch.Overtaking
import ProfileControls.Proofs.Profile.Disclosure
import ProfileControls.Proofs.Profile.Offers
import ProfileControls.Proofs.Profile.Uptake
import ProfileControls.Proofs.Relationship.Clicks
import ProfileControls.Proofs.Account.Handle
import ProfileControls.Proofs.Profile.Qualification
import ProfileControls.Proofs.Menu.Table
import ProfileControls.Proofs.Profile.Surfaces
import ProfileControls.Proofs.Profile.Widgets
import ProfileControls.Proofs.Dispatch.Approval
import ProfileControls.Proofs.Dispatch.Projection
import ProfileControls.Proofs.Dispatch.Isolation
import ProfileControls.Proofs.Menu.Separators
import ProfileControls.Proofs.Menu.Order
import ProfileControls.Proofs.Account.Rules
import ProfileControls.Proofs.Profile.SignedOut
import ProfileControls.Proofs.Profile.Origin
import ProfileControls.Proofs.Menu.Links
import ProfileControls.Proofs.Account.LetterCase
import ProfileControls.Proofs.Profile.LetterCase
import ProfileControls.Proofs.Dispatch.Rejection
import ProfileControls.Proofs.Dispatch.Server
import ProfileControls.Proofs.Profile.Rows
import ProfileControls.Proofs.Config.Loading
import ProfileControls.Proofs.Record.Forms
import ProfileControls.Proofs.Record.Tagged
import ProfileControls.Proofs.Record.Decoding
import ProfileControls.Proofs.Record.Answers
import ProfileControls.Proofs.Json.Literals
import ProfileControls.Proofs.Json.RoundTrip
import ProfileControls.Proofs.Command.Rendering
