import CanDriver.AxisIdentity.Records
import CanDriver.AxisIdentity.Run
import CanDriver.ControlCoalescing
import CanDriver.Coordinator.FaultRace
import CanDriver.Coordinator.Lifecycle
import CanDriver.Cycle.Alignment
import CanDriver.Cycle.AutoFault
import CanDriver.Cycle.Bounds
import CanDriver.Cycle.Latch
import CanDriver.Cycle.Recovery
import CanDriver.Cycle.Enabled
import CanDriver.Cycle.FaultStop
import CanDriver.Feedback.Frames
import CanDriver.Feedback.Readiness
import CanDriver.Joints.Isolation
import CanDriver.Joints.Lookup
import CanDriver.Joints.MotorIds
import CanDriver.Joints.Nodes
import CanDriver.Joints.ZeroOffsets
import CanDriver.Lifecycle.Initialize
import CanDriver.Lifecycle.Questions
import CanDriver.Lifecycle.Recovery
import CanDriver.Lifecycle.Rollback
import CanDriver.Lifecycle.Targets
import CanDriver.Refresh.MtPolling
import CanDriver.Refresh.PpPolling
import CanDriver.Dispatch.Order
import CanDriver.Manager.LinkLatch
import CanDriver.Reads.Timeouts
import CanDriver.Reads.Pairing
import CanDriver.Reads.Waiting
import CanDriver.Device.Handlers
import CanDriver.Device.Keepalive
import CanDriver.Device.KeepaliveCalls
import CanDriver.Device.VelocityPreload
import CanDriver.Feedback.RegisterAcks
import CanDriver.Feedback.Switching
import CanDriver.Feedback.Velocity
import CanDriver.Maintenance.LimitWindow
import CanDriver.Maintenance.Limits
import CanDriver.Maintenance.ModeAgreement
import CanDriver.Maintenance.Restore
import CanDriver.Maintenance.SetZeroLimit
import CanDriver.Maintenance.ZeroOffset
import CanDriver.Refresh.PpPressure
import CanDriver.Refresh.Worker
import CanDriver.Startup.Alignment
import CanDriver.Transport.DeviceSpec
import CanDriver.Transport.Frames
import CanDriver.Ecb.Run
import CanDriver.Coordinator.Gateway
import CanDriver.ControlLoop
import CanDriver.Cycle.Arbitration
import CanDriver.Cycle.Hold
