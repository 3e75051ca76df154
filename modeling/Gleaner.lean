import Gleaner.Text.Quoted
import Gleaner.Text.Split
import Gleaner.Text.Case
import Gleaner.Rule.Basic
import Gleaner.Decimal.Shortest
import Gleaner.Decimal.Read
import Gleaner.Json.Reader
import Gleaner.Json.Shown
import Gleaner.Fault
import Gleaner.Page.Sniff
import Gleaner.Pattern.Parser
import Gleaner.Json.Select
import Gleaner.Markup.Token.Lexer
import Gleaner.Markup.Node.Printer
import Gleaner.Selector.Parser
import Gleaner.Selector.Match
import Gleaner.Markup.Charset
import Gleaner.Main
import Gleaner.Fetch.Wire
import Gleaner.Proofs.Fetch.Log
import Gleaner.Proofs.Debug.Step
import Gleaner.Proofs.Fault
import Gleaner.Proofs.Debug.Control
import Gleaner.Proofs.Debug.Derail
import Gleaner.Proofs.Debug.Itinerary
import Gleaner.Proofs.Text.Run
import Gleaner.Proofs.Markup.Written
import Gleaner.Proofs.Page.DirectText
import Gleaner.Proofs.Page.Steps
import Gleaner.Proofs.Decimal.Pointed
import Gleaner.Proofs.Json.Printed
import Gleaner.Proofs.Json.Read
import Gleaner.Proofs.Source.RoundTrip
import Gleaner.Proofs.Url.Absolute
import Gleaner.Proofs.Fetch.Stationary
import Gleaner.Proofs.Client.Agreement
import Gleaner.Proofs.Client.Cache
import Gleaner.Proofs.Fetch.Redirect
import Gleaner.Proofs.Page.Scope
import Gleaner.Proofs.Json.Chain
import Gleaner.Proofs.Debug.Moment
import Gleaner.Proofs.Markup.Order
import Gleaner.Proofs.Selector.Chain
import Gleaner.Proofs.Selector.Reading
import Gleaner.Proofs.Json.Text
import Gleaner.Proofs.Json.Written
import Gleaner.Proofs.Fetch.Failure
import Gleaner.Proofs.Client.Resolution
import Gleaner.Proofs.Debug.Legible
import Gleaner.Proofs.Page.Refusal
import Gleaner.Proofs.Fetch.Retry
import Gleaner.Proofs.Url.Redirect
import Gleaner.Proofs.Page.Account
import Gleaner.Proofs.Client.Address
import Gleaner.Proofs.Book.Recency
import Gleaner.Proofs.Book.Inclusion
import Gleaner.Proofs.Text.Utf8
import Gleaner.Proofs.Url.Percent
import Gleaner.Proofs.Url.Filling
import Gleaner.Proofs.Url.Search
import Gleaner.Proofs.Rule.Segments
import Gleaner.Proofs.Rule.Key
import Gleaner.Proofs.Source.Listing
import Gleaner.Proofs.Source.Usable
import Gleaner.Proofs.Json.Bytes
import Gleaner.Proofs.Page.Rendered
import Gleaner.Proofs.Json.Extent
import Gleaner.Proofs.Json.LongNumber
import Gleaner.Proofs.Page.Outcome
import Gleaner.Proofs.Source.Embedded
import Gleaner.Proofs.Page.Sniff
import Gleaner.Proofs.Fetch.Headers
import Gleaner.Proofs.Json.Paragraphs
import Gleaner.Proofs.Source.Labels
import Gleaner.Proofs.Source.Lenient
import Gleaner.Proofs.Command.Explore
