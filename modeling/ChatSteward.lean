import ChatSteward.Bot.Commands
import ChatSteward.Bot.Tables
import ChatSteward.Command.Binding
import ChatSteward.Command.Expression
import ChatSteward.Command.Signature
import ChatSteward.Command.Table
import ChatSteward.Dialogue
import ChatSteward.Event.Envelope
import ChatSteward.Event.Mention
import ChatSteward.Http.Encoding
import ChatSteward.Http.Host
import ChatSteward.Http.Message
import ChatSteward.Http.Status
import ChatSteward.Http.Target
import ChatSteward.Http.Url
import ChatSteward.Json.Decoder
import ChatSteward.Json.Enclosed
import ChatSteward.Json.Fault
import ChatSteward.Json.Literal
import ChatSteward.Json.Numeral
import ChatSteward.Json.Reading
import ChatSteward.Json.Record
import ChatSteward.Json.Scalar
import ChatSteward.Json.Skip
import ChatSteward.Json.Tagged
import ChatSteward.Json.Value
import ChatSteward.Json.Writer
import ChatSteward.Main
import ChatSteward.Net.Address
import ChatSteward.Net.Domain
import ChatSteward.Net.DomainTable
import ChatSteward.Net.Punycode
import ChatSteward.Number.Binary64
import ChatSteward.Number.Layout
import ChatSteward.Number.Shortest
import ChatSteward.Platform.Agenda
import ChatSteward.Platform.Board
import ChatSteward.Platform.Client
import ChatSteward.Platform.Directory
import ChatSteward.Platform.Endpoint
import ChatSteward.Platform.Failure
import ChatSteward.Platform.Job
import ChatSteward.Platform.Operation
import ChatSteward.Platform.Post
import ChatSteward.Platform.Reply
import ChatSteward.Platform.Settings
import ChatSteward.Proofs.Bot.Arguments
import ChatSteward.Proofs.Bot.Extension
import ChatSteward.Proofs.Bot.Targets
import ChatSteward.Proofs.Bot.Transcript
import ChatSteward.Proofs.Command.Arity
import ChatSteward.Proofs.Command.Cut
import ChatSteward.Proofs.Command.Grammar
import ChatSteward.Proofs.Command.Help
import ChatSteward.Proofs.Command.Lookup
import ChatSteward.Proofs.Command.Naming
import ChatSteward.Proofs.Command.Spelling
import ChatSteward.Proofs.Command.Taking
import ChatSteward.Proofs.Event.Elements
import ChatSteward.Proofs.Event.Envelopes
import ChatSteward.Proofs.Event.Mentions
import ChatSteward.Proofs.Event.Placeholders
import ChatSteward.Proofs.Event.Removal
import ChatSteward.Proofs.Json.Exactness
import ChatSteward.Proofs.Json.Fractions
import ChatSteward.Proofs.Json.Grammar
import ChatSteward.Proofs.Json.Membership
import ChatSteward.Proofs.Json.Passing
import ChatSteward.Proofs.Json.Positions
import ChatSteward.Proofs.Json.Restoring
import ChatSteward.Proofs.Json.Scanning
import ChatSteward.Proofs.Json.Written
import ChatSteward.Proofs.Json.Yields
import ChatSteward.Proofs.Number.Rounding
import ChatSteward.Proofs.Number.Shortest
import ChatSteward.Proofs.Platform.Acceptance
import ChatSteward.Proofs.Platform.Asked
import ChatSteward.Proofs.Platform.Authorization
import ChatSteward.Proofs.Platform.Content
import ChatSteward.Proofs.Platform.Directory
import ChatSteward.Proofs.Platform.Envelope
import ChatSteward.Proofs.Platform.Expansion
import ChatSteward.Proofs.Platform.Isolation
import ChatSteward.Proofs.Platform.Listing
import ChatSteward.Proofs.Platform.Masters
import ChatSteward.Proofs.Platform.Outcome
import ChatSteward.Proofs.Platform.Paging
import ChatSteward.Proofs.Platform.Posts
import ChatSteward.Proofs.Platform.Rejections
import ChatSteward.Proofs.Platform.Results
import ChatSteward.Proofs.Platform.Secrecy
import ChatSteward.Proofs.Platform.Sending
import ChatSteward.Proofs.Platform.Succession
import ChatSteward.Proofs.Server.Alternation
import ChatSteward.Proofs.Server.Calls
import ChatSteward.Proofs.Server.Isolation
import ChatSteward.Proofs.Server.Pacing
import ChatSteward.Proofs.Server.Parameters
import ChatSteward.Proofs.Server.Privilege
import ChatSteward.Proofs.Server.RemoteCalls
import ChatSteward.Proofs.Server.Renewal
import ChatSteward.Proofs.Server.Replies
import ChatSteward.Proofs.Server.Responses
import ChatSteward.Proofs.Server.Routing
import ChatSteward.Proofs.Server.Secrecy
import ChatSteward.Proofs.Server.Traffic
import ChatSteward.Proofs.Text.Dictionary
import ChatSteward.Proofs.Text.Joining
import ChatSteward.Proofs.Text.Lowercase
import ChatSteward.Proofs.Text.Padding
import ChatSteward.Proofs.Text.Utf8
import ChatSteward.Proofs.Text.Words
import ChatSteward.Proofs.Turns
import ChatSteward.Server.Config
import ChatSteward.Server.Fault
import ChatSteward.Server.Keeper
import ChatSteward.Server.Refresh
import ChatSteward.Server.Renewal
import ChatSteward.Server.Response
import ChatSteward.Server.Router
import ChatSteward.Server.Rpc
import ChatSteward.Server.Session
import ChatSteward.Text.Blank
import ChatSteward.Text.Canonical
import ChatSteward.Text.CanonicalTable
import ChatSteward.Text.CodePoints
import ChatSteward.Text.Dictionary
import ChatSteward.Text.ImageRun
import ChatSteward.Text.Letter
import ChatSteward.Text.LetterTable
import ChatSteward.Text.Line
import ChatSteward.Text.LineTable
import ChatSteward.Text.Lowercase
import ChatSteward.Text.LowercaseTable
import ChatSteward.Text.Quoted
import ChatSteward.Text.QuotedTable
import ChatSteward.Text.Split
import ChatSteward.Text.Utf8
