import Ugpibd.Backend.AgilentData
import Ugpibd.Backend.AgilentFirmware
import Ugpibd.Backend.AgilentOperations
import Ugpibd.Backend.AgilentRegisters
import Ugpibd.Backend.AgilentSteps
import Ugpibd.Backend.Chips
import Ugpibd.Backend.ControllerAddress
import Ugpibd.Backend.ErrorText
import Ugpibd.Backend.FirmwareTexts
import Ugpibd.Backend.FirmwareUpload
import Ugpibd.Backend.GpibBackend
import Ugpibd.Backend.Modes
import Ugpibd.Backend.NiAddressing
import Ugpibd.Backend.NiBulkIn
import Ugpibd.Backend.NiData
import Ugpibd.Backend.NiOperations
import Ugpibd.Backend.NiOutstanding
import Ugpibd.Backend.NiPackets
import Ugpibd.Backend.NiReadReplies
import Ugpibd.Backend.NiRegisterReplies
import Ugpibd.Backend.NiStaleReplies
import Ugpibd.Backend.NiSteps
import Ugpibd.Backend.NiTimeouts
import Ugpibd.Backend.NiTransact
import Ugpibd.Backend.Operations
import Ugpibd.Backend.SerialPolls
import Ugpibd.Backend.TransferWaits
import Ugpibd.Backend.UsbtmcAborts
import Ugpibd.Backend.UsbtmcData
import Ugpibd.Backend.UsbtmcMessages
import Ugpibd.Backend.UsbtmcOperations
import Ugpibd.Backend.UsbtmcPolls
import Ugpibd.Backend.UsbtmcReads
import Ugpibd.Backend.UsbtmcSteps
import Ugpibd.Backend.WriteReports
import Ugpibd.Daemon.Addresses
import Ugpibd.Daemon.BusOperations
import Ugpibd.Daemon.BusTraffic
import Ugpibd.Daemon.Capture
import Ugpibd.Daemon.LockExclusion
import Ugpibd.Daemon.LockGate
import Ugpibd.Daemon.Names
import Ugpibd.Daemon.Tasks
import Ugpibd.Daemon.Wakeups
import Ugpibd.Frontend.HolderIds
import Ugpibd.Frontend.Lock
import Ugpibd.Frontend.LockCounting
import Ugpibd.Frontend.LockHistory
import Ugpibd.Frontend.LockInvariant
import Ugpibd.Frontend.LockNesting
import Ugpibd.Frontend.LockSingle
import Ugpibd.Frontend.LockSpec
import Ugpibd.Frontend.LockTableSpec
import Ugpibd.Frontend.Takers
import Ugpibd.Hislip.ChannelLoop
import Ugpibd.Hislip.Conversation
import Ugpibd.Hislip.ConversationAnswers
import Ugpibd.Hislip.ConversationOrder
import Ugpibd.Hislip.ConversationStatus
import Ugpibd.Hislip.CutStream
import Ugpibd.Hislip.DeviceClear
import Ugpibd.Hislip.Execution
import Ugpibd.Hislip.FatalMirror
import Ugpibd.Hislip.ForwarderPoll
import Ugpibd.Hislip.Handshake
import Ugpibd.Hislip.MessageIds
import Ugpibd.Hislip.ParkedSession
import Ugpibd.Hislip.PolledRequests
import Ugpibd.Hislip.QueryHint
import Ugpibd.Hislip.QueryReplies
import Ugpibd.Hislip.Replies
import Ugpibd.Hislip.ServiceRequests
import Ugpibd.Hislip.SessionCapacity
import Ugpibd.Hislip.SessionLocks
import Ugpibd.Hislip.SessionTable
import Ugpibd.Hislip.SessionTasks
import Ugpibd.Hislip.Sessions
import Ugpibd.Hislip.SyncChannel
import Ugpibd.Hislip.Wire
import Ugpibd.Hislip.WriterHeld
import Ugpibd.Library.BigEndian
import Ugpibd.Library.Chunks
import Ugpibd.Library.Codec
import Ugpibd.Library.Hex
import Ugpibd.Library.History
import Ugpibd.Library.Interruptible
import Ugpibd.Library.Literals
import Ugpibd.Library.Notify
import Ugpibd.Library.Panics
import Ugpibd.Library.Runs
import Ugpibd.Library.Template
import Ugpibd.Library.Text
import Ugpibd.Library.Token
import Ugpibd.Library.Utf8
import Ugpibd.Prologix.Lines
import Ugpibd.Prologix.Settings
import Ugpibd.Vxi11.AbortDelivery
import Ugpibd.Vxi11.AbortTiming
import Ugpibd.Vxi11.AbortWindow
import Ugpibd.Vxi11.AdapterTimeouts
import Ugpibd.Vxi11.AdapterWaits
import Ugpibd.Vxi11.BusSettings
import Ugpibd.Vxi11.Calls
import Ugpibd.Vxi11.CoreChannel
import Ugpibd.Vxi11.DataCalls
import Ugpibd.Vxi11.DeviceNames
import Ugpibd.Vxi11.DeviceRead
import Ugpibd.Vxi11.Docmd
import Ugpibd.Vxi11.DocmdOrders
import Ugpibd.Vxi11.LinkCreation
import Ugpibd.Vxi11.LinkLocks
import Ugpibd.Vxi11.LinkSteps
import Ugpibd.Vxi11.Links
import Ugpibd.Vxi11.LockDepth
import Ugpibd.Vxi11.Messages
import Ugpibd.Vxi11.Portmap
import Ugpibd.Vxi11.PortmapService
import Ugpibd.Vxi11.ReadReplies
import Ugpibd.Vxi11.ReadTraffic
import Ugpibd.Vxi11.RecordBytes
import Ugpibd.Vxi11.Records
import Ugpibd.Vxi11.ReplyCodec
import Ugpibd.Vxi11.Rpc
import Ugpibd.Vxi11.SrqForwarder
import Ugpibd.Vxi11.SrqPass
import Ugpibd.Vxi11.StrictDecoding
import Ugpibd.Vxi11.Teardown
import Ugpibd.Vxi11.TimeoutReports
import Ugpibd.Vxi11.TransferLog
import Ugpibd.Vxi11.WriteTraffic
import Ugpibd.Vxi11.Xdr
