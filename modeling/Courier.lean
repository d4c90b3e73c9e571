import Courier.Authentication
import Courier.Bytes.Base64
import Courier.Bytes.Hex
import Courier.Bytes.Md5
import Courier.Capture
import Courier.Console
import Courier.Cookie.Date
import Courier.Cookie.Jar
import Courier.Decimal.Shortest
import Courier.Digest.Challenge
import Courier.Digest.Params
import Courier.Error
import Courier.Executor
import Courier.Failure
import Courier.Files
import Courier.Form
import Courier.Header
import Courier.Job
import Courier.Job.Document
import Courier.Json.Basic
import Courier.Json.Mismatch
import Courier.Json.Reading
import Courier.Json.Shape
import Courier.Json.Writer
import Courier.Media
import Courier.Mock.Account
import Courier.Mock.Basic
import Courier.Mock.Page
import Courier.Mock.Server
import Courier.Proofs.Bytes
import Courier.Proofs.Capture.Once
import Courier.Proofs.Capture.Payload
import Courier.Proofs.Capture.Reading
import Courier.Proofs.Digest.Answer
import Courier.Proofs.Digest.Fields
import Courier.Proofs.Digest.Scanning
import Courier.Proofs.Digest.Spelling
import Courier.Proofs.Executor.Acceptance
import Courier.Proofs.Executor.Choice
import Courier.Proofs.Executor.Content
import Courier.Proofs.Executor.Deferral
import Courier.Proofs.Executor.Hindrance
import Courier.Proofs.Executor.Isolation
import Courier.Proofs.Executor.LateBlame
import Courier.Proofs.Executor.Limit
import Courier.Proofs.Executor.Precedence
import Courier.Proofs.Executor.Reads
import Courier.Proofs.Executor.Saving
import Courier.Proofs.Executor.Secret
import Courier.Proofs.Executor.Target
import Courier.Proofs.Executor.Transcript
import Courier.Proofs.Executor.Verdict
import Courier.Proofs.Form
import Courier.Proofs.Header
import Courier.Proofs.Job.Document
import Courier.Proofs.Json.Document
import Courier.Proofs.Json.Text
import Courier.Proofs.Mock.Account
import Courier.Proofs.Mock.Handling
import Courier.Proofs.Mock.Sessions
import Courier.Proofs.Mock.Token
import Courier.Proofs.Outcome
import Courier.Proofs.Registry.Adding
import Courier.Proofs.Registry.Document
import Courier.Proofs.Registry.Keys
import Courier.Proofs.Registry.Table
import Courier.Proofs.Request
import Courier.Proofs.Request.Headers
import Courier.Proofs.Request.Parameters
import Courier.Proofs.Session.Challenge
import Courier.Proofs.Session.Illegal
import Courier.Proofs.Session.Login
import Courier.Proofs.Session.Origins
import Courier.Proofs.Session.Refusal
import Courier.Proofs.Session.Run
import Courier.Proofs.Session.Scope
import Courier.Proofs.Session.Transmission
import Courier.Proofs.Status.Grammar
import Courier.Proofs.Status.Printing
import Courier.Proofs.Text
import Courier.Proofs.Text.Malformed
import Courier.Proofs.Text.Number
import Courier.Proofs.Text.Parts
import Courier.Proofs.Text.Search
import Courier.Proofs.Text.Utf8
import Courier.Proofs.Transport.Alike
import Courier.Proofs.Transport.Arrivals
import Courier.Proofs.Transport.Origins
import Courier.Proofs.Unicode.Composition
import Courier.Proofs.Unicode.Folding
import Courier.Proofs.Url.Again
import Courier.Proofs.Url.Domain
import Courier.Proofs.Url.Host
import Courier.Proofs.Url.Ideographs
import Courier.Proofs.Url.Ipv4
import Courier.Proofs.Url.Ipv6
import Courier.Proofs.Url.Parts
import Courier.Proofs.Url.Path
import Courier.Proofs.Url.Percent
import Courier.Proofs.Url.Place
import Courier.Proofs.Url.Punycode
import Courier.Proofs.Url.Read
import Courier.Proofs.Url.Rehost
import Courier.Proofs.Url.Strict
import Courier.Proofs.Url.Target
import Courier.Proofs.Validation
import Courier.Registry
import Courier.Registry.Live
import Courier.Request
import Courier.Session
import Courier.Status.Range
import Courier.Text.Ascii
import Courier.Text.Blank
import Courier.Text.Hidden
import Courier.Text.Quoted
import Courier.Text.Split
import Courier.Text.Utf8
import Courier.Transport.Destination
import Courier.Transport.Exchange
import Courier.Transport.Network
import Courier.Unicode.Composition
import Courier.Unicode.CompositionTable
import Courier.Unicode.Direction
import Courier.Unicode.Folding
import Courier.Unicode.FoldingTable
import Courier.Unicode.Joining
import Courier.Unicode.Mark
import Courier.Url.Basic
import Courier.Url.Domain
import Courier.Url.DomainExcluded
import Courier.Url.Ipv4
import Courier.Url.Ipv6
import Courier.Url.Parser
import Courier.Url.Percent
import Courier.Url.Punycode
import Courier.Url.Strict
import Courier.Validation
