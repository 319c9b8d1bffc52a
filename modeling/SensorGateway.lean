import SensorGateway.Queue.RoundQueueSequential
import SensorGateway.Queue.RoundQueueOverwrite
import SensorGateway.Queue.RoundQueueFifo
import SensorGateway.Queue.ConcurrentLen
import SensorGateway.Buffer.Fifo
import SensorGateway.Buffer.Wakeup
import SensorGateway.Buffer.LateTimeout
import SensorGateway.Buffer.Stats
import SensorGateway.SensorSim.Lifecycle
import SensorGateway.Polling.GovernorBacklog
import SensorGateway.Polling.GovernorClamp
import SensorGateway.Polling.GovernorEconomy
import SensorGateway.Polling.GovernorSafety
import SensorGateway.Polling.GovernorResponse
import SensorGateway.Polling.Feedback
import SensorGateway.Polling.GovernorModes
import SensorGateway.Polling.ControlAgreement
import SensorGateway.Polling.Escalation
import SensorGateway.Reader.Drain
import SensorGateway.Reader.Draining
import SensorGateway.Statistics.Reduction
import SensorGateway.Statistics.DetectionLimit
import SensorGateway.Engine.FrameHealth
import SensorGateway.Engine.ReportOrder
import SensorGateway.Engine.Shutdown
import SensorGateway.Engine.Drain
import SensorGateway.Gateway.Dispatch
import SensorGateway.Gateway.Wedge
import SensorGateway.Gateway.WebQueries
import SensorGateway.Storage.FailedPersist
import SensorGateway.Storage.Publication
import SensorGateway.Storage.Acknowledged
import SensorGateway.Storage.HourlyAppend
import SensorGateway.Storage.Durability
import SensorGateway.Storage.NewestWindow
import SensorGateway.Gateway.Pages
import SensorGateway.Dashboard.Latest
import SensorGateway.Dashboard.OpenRange
import SensorGateway.Dashboard.Realtime
import SensorGateway.Ablation.Accounting
import SensorGateway.Reader.Peak
import SensorGateway.Engine.OverBuffer
import SensorGateway.Bench.Lines
import SensorGateway.Bench.Row
