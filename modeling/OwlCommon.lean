import OwlCommon.NetBuffer.Wire
import OwlCommon.NetBuffer.Push
import OwlCommon.NetBuffer.BuffReader
import OwlCommon.NetBuffer.Cursor
import OwlCommon.NetBuffer.Reads
import OwlCommon.NetBuffer.Parses
import OwlCommon.NetBuffer.Free
import OwlCommon.NetBuffer.Host
import OwlCommon.SampleData
import OwlCommon.GrailTypes
import OwlCommon.WorldModel.Frame
import OwlCommon.WorldModel.Client
import OwlCommon.WorldModel.ClientCodec
import OwlCommon.WorldModel.OriginPreference
import OwlCommon.WorldModel.Solver
import OwlCommon.WorldModel.SolverCodec
import OwlCommon.Aggregator.Protocol
import OwlCommon.Aggregator.Codec
import OwlCommon.Messages
import OwlCommon.Socket.Poll
import OwlCommon.Receiver.MessageReceiver
import OwlCommon.Receiver.Framing
import OwlCommon.Receiver.Delivery
import OwlCommon.Socket.Send
import OwlCommon.Transport
import OwlCommon.Socket.Ownership
import OwlCommon.Text
import OwlCommon.Socket.Lifecycle
import OwlCommon.Receiver.Threads
