import BerPiNbiot.Transition.Core
import BerPiNbiot.Transition.Streak
import BerPiNbiot.Transition.Balance
import BerPiNbiot.Resumption.Core
import BerPiNbiot.Resumption.Section
import BerPiNbiot.Resumption.Typestate
import BerPiNbiot.Resumption.Observer
import BerPiNbiot.Resumption.Handler
import BerPiNbiot.Text.Search
import BerPiNbiot.Text.Token
import BerPiNbiot.Text.Decimal
import BerPiNbiot.Text.Scan
import BerPiNbiot.Text.Json
import BerPiNbiot.Text.Memory
import BerPiNbiot.Text.Buffer
import BerPiNbiot.Text.Word
import BerPiNbiot.Tiling.Core
import BerPiNbiot.Ring.Core
import BerPiNbiot.Waiting.Core
import BerPiNbiot.Linked.Core
import BerPiNbiot.Calendar.Core
import BerPiNbiot.Kernel.Bytes
import BerPiNbiot.Kernel.Heap
import BerPiNbiot.Kernel.HeapLayout
import BerPiNbiot.Kernel.HeapBlocks
import BerPiNbiot.Kernel.Allocation
import BerPiNbiot.Kernel.HeapClients
import BerPiNbiot.Kernel.Scheduler
import BerPiNbiot.Kernel.ReadyQueue
import BerPiNbiot.Kernel.Scheduling
import BerPiNbiot.Kernel.Preemption
import BerPiNbiot.Kernel.Timer
import BerPiNbiot.Kernel.TimerList
import BerPiNbiot.Kernel.Punctual
import BerPiNbiot.Kernel.Restart
import BerPiNbiot.Kernel.Event
import BerPiNbiot.Kernel.Mailbox
import BerPiNbiot.Kernel.MailboxRing
import BerPiNbiot.Kernel.MessageQueue
import BerPiNbiot.Kernel.MessageCalls
import BerPiNbiot.Kernel.Serial
import BerPiNbiot.Kernel.Mutex
import BerPiNbiot.Kernel.Semaphore
import BerPiNbiot.Modem.Device
import BerPiNbiot.Modem.Urc
import BerPiNbiot.Modem.MqttEvent
import BerPiNbiot.Modem.Malformed
import BerPiNbiot.Modem.Dispatch
import BerPiNbiot.Modem.NonInterference
import BerPiNbiot.Modem.Input
import BerPiNbiot.Modem.Parser
import BerPiNbiot.Modem.Delivery
import BerPiNbiot.Modem.Calls
import BerPiNbiot.Modem.Transaction
import BerPiNbiot.Modem.Connect
import BerPiNbiot.Modem.Clock
import BerPiNbiot.Modem.Reboot
import BerPiNbiot.Modem.Psm
import BerPiNbiot.Modem.Callers
import BerPiNbiot.Modem.Acknowledge
import BerPiNbiot.Modem.Unsolicited
import BerPiNbiot.Modem.Fresh
import BerPiNbiot.Modem.Mqtt
import BerPiNbiot.Modem.Hex
import BerPiNbiot.Modem.HexBuffer
import BerPiNbiot.Modem.Connection
import BerPiNbiot.Modem.Query
import BerPiNbiot.Modem.Registration
import BerPiNbiot.Modem.Attach
import BerPiNbiot.Modem.LastAttempt
import BerPiNbiot.Modem.Waiters
import BerPiNbiot.Modem.Publish
import BerPiNbiot.Modem.Flags
import BerPiNbiot.Modem.Requests
import BerPiNbiot.Modem.Answered
import BerPiNbiot.Cloud.Control
import BerPiNbiot.Cloud.Callback
import BerPiNbiot.Cloud.Outputs
import BerPiNbiot.Cloud.Hysteresis
import BerPiNbiot.Cloud.Screen
import BerPiNbiot.Cloud.Labels
import BerPiNbiot.App.Net
import BerPiNbiot.App.Outline
import BerPiNbiot.App.Startup
import BerPiNbiot.App.Topics
import BerPiNbiot.App.Notices
import BerPiNbiot.App.Wake
import BerPiNbiot.App.Subscription
import BerPiNbiot.App.Response
import BerPiNbiot.App.Recovery
import BerPiNbiot.App.NetPosition
import BerPiNbiot.App.Suspension
import BerPiNbiot.App.Exchange
import BerPiNbiot.App.Completion
import BerPiNbiot.App.Forged
import BerPiNbiot.App.Uplink
import BerPiNbiot.App.Sensors
import BerPiNbiot.App.Telemetry
import BerPiNbiot.App.Capacity
import BerPiNbiot.App.DisplayLink
import BerPiNbiot.App.Gas
import BerPiNbiot.App.Keys
import BerPiNbiot.App.Settings
import BerPiNbiot.App.Coherence
import BerPiNbiot.App.Menu
import BerPiNbiot.App.Thresholds
