import HttpEngine.Fault.Error
import HttpEngine.Fault.Io
import HttpEngine.Fault.Wire
import HttpEngine.Inbound.Endpoint
import HttpEngine.Inbound.ResponseWriter
import HttpEngine.Inbound.Session
import HttpEngine.Inbound.Worker
import HttpEngine.Message.Headers
import HttpEngine.Message.Method
import HttpEngine.Message.Request
import HttpEngine.Message.Response
import HttpEngine.Message.Status
import HttpEngine.Message.Version
import HttpEngine.Net.Address
import HttpEngine.Net.Lookup
import HttpEngine.Net.Network
import HttpEngine.Net.Socket
import HttpEngine.Outbound.Client
import HttpEngine.Outbound.Connection
import HttpEngine.Outbound.Dispatcher
import HttpEngine.Outbound.Exchange
import HttpEngine.Outbound.IoThread
import HttpEngine.Outbound.Pool
import HttpEngine.Outbound.Reaction
import HttpEngine.Outbound.Target
import HttpEngine.Promise.Cell
import HttpEngine.Promise.Combinators
import HttpEngine.Promise.Gather
import HttpEngine.Promise.Heap
import HttpEngine.Promise.Wait
import HttpEngine.Proofs.Wire.Forward
import HttpEngine.Proofs.Wire.HeadForward
import HttpEngine.Roster
import HttpEngine.Scenario.ConnectionScript
import HttpEngine.Scenario.Datum
import HttpEngine.Scenario.EndpointScript
import HttpEngine.Scenario.HandlerScript
import HttpEngine.Scenario.PromiseScript
import HttpEngine.Scenario.RequestScript
import HttpEngine.Scenario.ServiceScript
import HttpEngine.Scenario.SessionScript
import HttpEngine.Text.Ascii
import HttpEngine.Text.Blank
import HttpEngine.Text.Decimal
import HttpEngine.Text.Quoted
import HttpEngine.Text.Unprintable
import HttpEngine.Text.Utf8
import HttpEngine.Time.Duration
import HttpEngine.Time.Instant
import HttpEngine.Wire.Decoding
import HttpEngine.Wire.Encoding
import HttpEngine.Wire.Head
import HttpEngine.Wire.Progress
import HttpEngine.Wire.Scan
import HttpEngine.Wire.Stream
import HttpEngine.Proofs.Inbound.Answer
import HttpEngine.Proofs.Wire.RequestStream
import HttpEngine.Proofs.Inbound.Turn
import HttpEngine.Proofs.Inbound.Service
import HttpEngine.Proofs.Inbound.Segmentation
import HttpEngine.Proofs.Inbound.Transcript
import HttpEngine.Proofs.Roster
import HttpEngine.Proofs.Outbound.Pool
import HttpEngine.Proofs.Outbound.Move
import HttpEngine.Proofs.Outbound.Course
import HttpEngine.Proofs.Outbound.Accounting
import HttpEngine.Proofs.Outbound.Journal
import HttpEngine.Proofs.Outbound.Conservation
import HttpEngine.Proofs.Outbound.Restart
import HttpEngine.Proofs.Outbound.Settlement
import HttpEngine.Proofs.Promise.Delivery
import HttpEngine.Proofs.Promise.Meaning
import HttpEngine.Proofs.Text.Spelling
import HttpEngine.Proofs.Wire.Legal
import HttpEngine.Proofs.Wire.Written
import HttpEngine.Proofs.Wire.ResponseStream
import HttpEngine.Proofs.Wire.RoundTrip
import HttpEngine.Proofs.Inbound.Framing
import HttpEngine.Proofs.Link.Link
import HttpEngine.Proofs.Link.Exchange
import HttpEngine.Proofs.Link.Stage
import HttpEngine.Proofs.Link.Conversation
import HttpEngine.Proofs.Outbound.Answers
import HttpEngine.Proofs.Outbound.Retry
import HttpEngine.Proofs.Outbound.Expiry
import HttpEngine.Proofs.Outbound.Shutdown
import HttpEngine.Proofs.Outbound.Ending
import HttpEngine.Proofs.Wire.RequestSequence
import HttpEngine.Proofs.Promise.Order
import HttpEngine.Proofs.Promise.Bystander
import HttpEngine.Proofs.Promise.FirstEntry
import HttpEngine.Proofs.Promise.LastDeposit
import HttpEngine.Proofs.Outbound.Cause
import HttpEngine.Proofs.Outbound.Interim
import HttpEngine.Proofs.Wire.Growth
import HttpEngine.Proofs.Wire.Sequence
import HttpEngine.Proofs.Wire.Unbroken
import HttpEngine.Proofs.Inbound.Lifecycle
import HttpEngine.Proofs.Inbound.AnswerSequence
import HttpEngine.Proofs.Inbound.HeaderText
import HttpEngine.Proofs.Wire.Accepted
import HttpEngine.Proofs.Wire.ResponseGrowth
import HttpEngine.Proofs.Wire.Image
import HttpEngine.Proofs.Wire.PassOn
import HttpEngine.Proofs.Wire.HeadLimit
import HttpEngine.Proofs.Wire.FirstField
import HttpEngine.Proofs.Inbound.BlankLine
import HttpEngine.Proofs.Inbound.Deadline
import HttpEngine.Proofs.Inbound.WriteOnce
import HttpEngine.Proofs.Inbound.ClosingWord
import HttpEngine.Proofs.Inbound.Leftover
import HttpEngine.Proofs.Outbound.Queue
import HttpEngine.Proofs.Outbound.Waiting
import HttpEngine.Proofs.Outbound.Carried
import HttpEngine.Proofs.Outbound.Target
import HttpEngine.Proofs.Inbound.RefusedServe
import HttpEngine.Proofs.Inbound.Expiry
import HttpEngine.Proofs.Outbound.LongAddress
import HttpEngine.Proofs.Inbound.Rounds
import HttpEngine.Proofs.Outbound.Recursion
import HttpEngine.Proofs.Message.Headers
