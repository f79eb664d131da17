import Outbox.Body
import Outbox.Body.Encoder
import Outbox.Body.Frame
import Outbox.Body.Grammar
import Outbox.Body.Receiver
import Outbox.Bytes
import Outbox.Charset
import Outbox.Charset.CodePage
import Outbox.Charset.Decode
import Outbox.Charset.Grid
import Outbox.Charset.Grid.Big5
import Outbox.Charset.Grid.Gbk
import Outbox.Charset.Grid.Hangul
import Outbox.Charset.Grid.Jis0208
import Outbox.Charset.Japanese
import Outbox.Charset.Japanese.Scanner
import Outbox.Charset.Label
import Outbox.Charset.SimplifiedChinese
import Outbox.Charset.TwoByte
import Outbox.Charset.Window
import Outbox.Config
import Outbox.Config.Json
import Outbox.Config.Layout
import Outbox.Delivery
import Outbox.Error
import Outbox.Extensions
import Outbox.Json.Fault
import Outbox.Json.Grammar
import Outbox.Json.Number
import Outbox.Json.Text
import Outbox.Json.Value
import Outbox.Message
import Outbox.Proofs.Body
import Outbox.Proofs.Body.Acceptance
import Outbox.Proofs.Charset
import Outbox.Proofs.Charset.Reading
import Outbox.Proofs.Charset.Scanning
import Outbox.Proofs.Charset.Window
import Outbox.Proofs.Config.Layout
import Outbox.Proofs.Delivery
import Outbox.Proofs.Extensions
import Outbox.Proofs.Framing
import Outbox.Proofs.Json.Number
import Outbox.Proofs.Json.Text
import Outbox.Proofs.Json.Value
import Outbox.Proofs.Queue.Calls
import Outbox.Proofs.Queue.Calm
import Outbox.Proofs.Queue.Ended
import Outbox.Proofs.Queue.Fifo
import Outbox.Proofs.Queue.Interrupted
import Outbox.Proofs.Queue.Last
import Outbox.Proofs.Queue.Monitor
import Outbox.Proofs.Queue.Records
import Outbox.Proofs.Queue.Settings
import Outbox.Proofs.Queue.Turn
import Outbox.Proofs.Queue.Waking
import Outbox.Proofs.Sender.Calls
import Outbox.Proofs.Sender.Closing
import Outbox.Proofs.Sender.Concluding
import Outbox.Proofs.Sender.Draining
import Outbox.Proofs.Sender.Ending
import Outbox.Proofs.Sender.Exchange
import Outbox.Proofs.Sender.Failing
import Outbox.Proofs.Sender.Flags
import Outbox.Proofs.Sender.Following
import Outbox.Proofs.Sender.Interrupted
import Outbox.Proofs.Sender.Interval
import Outbox.Proofs.Sender.Iterating
import Outbox.Proofs.Sender.Monitor
import Outbox.Proofs.Sender.Moves
import Outbox.Proofs.Sender.Recasting
import Outbox.Proofs.Sender.Solo
import Outbox.Proofs.Sender.Submitting
import Outbox.Proofs.Sender.TextMessages
import Outbox.Proofs.Sender.Timeless
import Outbox.Proofs.Sender.View
import Outbox.Proofs.Sender.WireReady
import Outbox.Proofs.Submission
import Outbox.Proofs.Text.Units
import Outbox.Proofs.Transfer.Calls
import Outbox.Proofs.Transfer.Counting
import Outbox.Proofs.Transfer.Ending
import Outbox.Proofs.Transfer.Task
import Outbox.Proofs.Transfer.Truncation
import Outbox.Proofs.Transport
import Outbox.Proofs.Writer.Handover
import Outbox.Proofs.Writer.Settling
import Outbox.Queue
import Outbox.Queue.Monitor
import Outbox.Queue.Session
import Outbox.Queue.Turn
import Outbox.Sender
import Outbox.Sender.Exchange
import Outbox.Sender.Monitor
import Outbox.Sender.Timed
import Outbox.Session
import Outbox.Steps
import Outbox.Submission
import Outbox.Text.Caseless
import Outbox.Text.Quoted
import Outbox.Text.Units
import Outbox.Transfer
import Outbox.Transfer.Task
import Outbox.Transport
import Outbox.Transport.Poll
import Outbox.Workload
import Outbox.Writer
