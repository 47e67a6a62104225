import CanDriver.Basic

/-!
# CanDriver.Manager.Transports

What a transport comes to: the result of a send, and what a SocketCAN one counts.

The system call and the clock are inputs.  A SocketCAN transport keeps its own statistics and
the time of its last lost link and of its last frame; a UDP transport keeps nothing but
whether it is initialised.
-/

namespace CanDriver

/-- The error numbers that a transport tells apart. -/
inductive Errno where
  | EAGAIN | EWOULDBLOCK | EINTR | ENOBUFS | ENETDOWN | ENODEV | ENXIO | ENETUNREACH
  | other (code : Nat)
deriving DecidableEq, Repr

/-- What a system call returned, and `errno` as it stands then. -/
structure SysResult where
  returned : Int
  errno : Errno := .other 0
deriving DecidableEq, Repr

/-! ## SocketCAN -/

/-- `SocketCanController::Stats`. -/
structure SocketCanStats where
  txOk : Nat := 0
  txBackpressure : Nat := 0
  txLinkUnavailable : Nat := 0
  txError : Nat := 0
  txPartial : Nat := 0
  rxOk : Nat := 0
  rxError : Nat := 0
  rxShortRead : Nat := 0
  lastTxLinkUnavailableSteadyNs : Time := 0
  lastRxSteadyNs : Time := 0
deriving DecidableEq, Repr

/-- `SocketCanController`: whether it is initialised, and its statistics. -/
structure SocketCanController where
  initialized : Bool := false
  stats : SocketCanStats := {}
deriving DecidableEq, Repr

namespace SocketCanController

/-- `sizeof(can_frame)`. -/
def frameBytes : Int := 16

/-- `isBackpressureSendError`. -/
def isBackpressureSendError : Errno → Bool
  | .EAGAIN | .EWOULDBLOCK | .ENOBUFS => true
  | _ => false

/-- `isLinkUnavailableSendError`. -/
def isLinkUnavailableSendError : Errno → Bool
  | .ENETDOWN | .ENODEV | Errno.ENXIO => true
  | _ => false

/-- `initialize`: whatever was there is shut down first. -/
def initializeSocket (opened : Bool) : SocketCanController := { initialized := opened }

/-- `shutdown`: the statistics start again. -/
def shutdown : SocketCanController := {}

/-- `send`: a socket that is not open, and a frame that was written in part, are errors that
`txErrorCount_` does not count. -/
def send (written : SysResult) (now : Time) (t : SocketCanController) :
    SendResult × SocketCanController :=
  if t.initialized = false then (.error, t)
  else if written.returned < 0 then
    if isBackpressureSendError written.errno then
      (.backpressure,
        { t with stats := { t.stats with txBackpressure := t.stats.txBackpressure + 1 } })
    else if isLinkUnavailableSendError written.errno then
      (.linkDown,
        { t with
          stats :=
            { t.stats with
              txLinkUnavailable := t.stats.txLinkUnavailable + 1
              lastTxLinkUnavailableSteadyNs := now } })
    else
      (.error, { t with stats := { t.stats with txError := t.stats.txError + 1 } })
  else if written.returned ≠ frameBytes then
    (.error, { t with stats := { t.stats with txPartial := t.stats.txPartial + 1 } })
  else (.ok, { t with stats := { t.stats with txOk := t.stats.txOk + 1 } })

/-- One `read` of `receiveLoop`: whether a frame is dispatched. -/
def receive (read : SysResult) (now : Time) (t : SocketCanController) :
    Bool × SocketCanController :=
  if t.initialized = false then (false, t)
  else if read.returned = frameBytes then
    (true, { t with stats := { t.stats with rxOk := t.stats.rxOk + 1, lastRxSteadyNs := now } })
  else if read.returned < 0 then
    if read.errno = .EAGAIN ∨ read.errno = .EWOULDBLOCK ∨ read.errno = .EINTR then (false, t)
    else (false, { t with stats := { t.stats with rxError := t.stats.rxError + 1 } })
  else (false, { t with stats := { t.stats with rxShortRead := t.stats.rxShortRead + 1 } })

/-- The link has come back: no send found it lost, or a frame has come since. -/
def linkRecovered (t : SocketCanController) : Bool :=
  decide (t.stats.lastTxLinkUnavailableSteadyNs = 0) ||
    decide (t.stats.lastTxLinkUnavailableSteadyNs < t.stats.lastRxSteadyNs)

end SocketCanController

/-! ## UDP -/

/-- `UdpCanTransport`: whether it is initialised. -/
structure UdpCanTransport where
  initialized : Bool := false
deriving DecidableEq, Repr

namespace UdpCanTransport

/-- The bytes of a packet. -/
def packetBytes : Int := 13

/-- `initialize`: whatever was there is shut down first. -/
def initializeSocket (opened : Bool) : UdpCanTransport := { initialized := opened }

/-- `shutdown`. -/
def shutdown : UdpCanTransport := {}

/-- `send`: a packet that was not sent whole leaves the decision to `errno`. -/
def send (sent : SysResult) (t : UdpCanTransport) : SendResult :=
  if t.initialized = false then .linkDown
  else if sent.returned = packetBytes then .ok
  else if sent.errno = .EAGAIN ∨ sent.errno = .EWOULDBLOCK ∨ sent.errno = .ENOBUFS then
    .backpressure
  else if sent.errno = .ENETDOWN ∨ sent.errno = .ENODEV ∨ sent.errno = .ENETUNREACH then
    .linkDown
  else .error

/-- One `recvfrom` of `receiveLoop`: whether the bytes are a frame of the remote end, which
is then dispatched. -/
def receive (packet : List UInt8) (fromRemote : Bool) (t : UdpCanTransport) : Bool :=
  t.initialized && decide (5 ≤ packet.length) && fromRemote &&
    decide (packet.headI ≤ 8) && decide (5 + packet.headI.toNat ≤ packet.length)

end UdpCanTransport

end CanDriver
