import Wsd.Bytes.Word
import Wsd.Bytes.Memory
import Wsd.Outcome
import Wsd.Types
import Wsd.Common.Skb
import Wsd.Common.Mask
import Wsd.Common.Timeout
import Wsd.Common.Io
import Wsd.Ws.Frame
import Wsd.Ws.PayloadLen
import Wsd.Ws.Control
import Wsd.Ws.Encode
import Wsd.Pp2.Encode
import Wsd.Ws.Decode
import Wsd.Pp2.Decode
import Wsd.Common.Sk
import Wsd.Ws.LenCodec
import Wsd.Pp2.RoundTrip
import Wsd.Pp2.Backpressure
import Wsd.Ws.Backpressure
import Wsd.Http.Token
import Wsd.Http.Request
import Wsd.Http.Handshake
import Wsd.Http.Recv
import Wsd.Wschild.Events
import Wsd.Wschild.Recv
import Wsd.Transition.Run
import Wsd.Wschild.Loop
import Wsd.Ws.Effect
import Wsd.Ws.Returns
import Wsd.Wschild.Wf
import Wsd.Wschild.Inversion
import Wsd.Pp2.Effect
import Wsd.Wschild.Step
import Wsd.Wschild.Socket
import Wsd.Wschild.Invariant
import Wsd.Wschild.Interest
import Wsd.Wschild.Writable
import Wsd.Common.Fault
import Wsd.Http.Fault
import Wsd.Wschild.Fault
import Wsd.Wschild.Unread
import Wsd.Wscat.Decode
import Wsd.Wschild.Registry
import Wsd.Bytes.Framing
import Wsd.Wscat.Recv
import Wsd.Wscat.Segment
import Wsd.Wscat.Stdin
import Wsd.Loops.Resume
import Wsd.Loops.Sync
import Wsd.Wschild.Table
import Wsd.Http.Line
import Wsd.Http.Accept
import Wsd.Http.Sound
import Wsd.Transition.History
import Wsd.Wschild.Room
import Wsd.Ws.Sent
import Wsd.Wschild.Closing
import Wsd.Wschild.Containers
import Wsd.Wscat.Encode
import Wsd.Wscat.RoundTrip
import Wsd.Pp2.Isolation
import Wsd.Transition.Path
import Wsd.RoundRobin
import Wsd.Wschild.Host
import Wsd.Wschild.Failover
import Wsd.Pp2.Item
import Wsd.Wschild.Complete
import Wsd.Wscat.World
import Wsd.Wscat.Loop
import Wsd.Wscat.Close
import Wsd.Wscat.Input
import Wsd.Wscat.Talk
import Wsd.Wscat.Websocket
import Wsd.Wscat.Conserve
import Wsd.Ws.Status
import Wsd.Pp2.Format
import Wsd.Capacity
import Wsd.Http.Name
import Wsd.Http.Key
import Wsd.Http.Trim
import Wsd.Http.Element
import Wsd.Loops.Progress
import Wsd.TwoRuns
import Wsd.Wschild.Stale
import Wsd.Http.Progress
import Wsd.Http.Lookup
import Wsd.Http.Soundness
import Wsd.Http.Response
import Wsd.Http.Ending
import Wsd.Wschild.Ending
import Wsd.Uri.Compose
import Wsd.Uri.Authority
import Wsd.Http.Fresh
import Wsd.Http.Reads
import Wsd.Http.StartLine
import Wsd.Http.Drain
import Wsd.Http.Rest
import Wsd.Wscat.Object
import Wsd.Wscat.Repeat
import Wsd.Loops.Pings
import Wsd.Wschild.Due
import Wsd.Wschild.Identity
import Wsd.Wschild.Forward
import Wsd.Wschild.Segment
import Wsd.Wschild.Multiplex
import Wsd.Wschild.Abort
import Wsd.Wschild.Flush
import Wsd.Uri.Host
import Wsd.Wscat.Request
import Wsd.Http.Walk
import Wsd.Http.Accepted
import Wsd.Loops.Handshake
import Wsd.Loops.Completes
import Wsd.Wscat.Repetition
import Wsd.Wscat.Sound
import Wsd.Wscat.Outgoing
import Wsd.Wschild.Relay
import Wsd.Wschild.Traversal
import Wsd.Wschild.Live
import Wsd.Wschild.Handlers
import Wsd.Wscat.TlsStream
import Wsd.Wscat.TlsProgress
import Wsd.Wscat.Incoming
import Wsd.Loops.Conversation
