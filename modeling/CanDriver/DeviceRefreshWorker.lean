/-!
# CanDriver.DeviceRefreshWorker

The thread that refreshes a device, and the calls that start, wake and stop it.

The calls come from `DeviceManager`, which makes them one at a time under its own mutex; between
any two operations of a call the worker may run.  `running` is atomic, `notified` is guarded by
the mutex of the notification, and a sleep on the condition variable may end at any time.
-/

namespace CanDriver

/-! ## the worker and its owner -/

/-- Where `workerLoop` is. -/
inductive WorkerPc where
  | top
  | ticking
  | check
  | locking
  | predRunning
  | predNotified
  | asleep
  | awake (timedOut : Bool)
  | clearing
  | unlocking
  | finished
deriving DecidableEq, Repr

/-- What a call does after its notification: it returns, or it goes on with `stop`. -/
inductive AfterNotify where
  | back
  | join (wasRunning : Bool)
deriving DecidableEq, Repr

/-- Where the owner is: outside, in `start` with the thread still to be made, in `notify`, or at
the end of `stop`. -/
inductive OwnerPc where
  | idle
  | create
  | locking (k : AfterNotify)
  | setting (k : AfterNotify)
  | unlocking (k : AfterNotify)
  | waking (k : AfterNotify)
  | joining (wasRunning : Bool)
deriving DecidableEq, Repr

/-- Who holds `notifyMutex_`. -/
inductive NotifyParty where
  | owner
  | worker
deriving DecidableEq, Repr

/-- `DeviceRefreshWorker`; `thread` is `none` while `workerThread_` is not joinable.  `terminated`
tells that a thread was assigned over a joinable one, and `due` that there was a notification
since the last tick began. -/
structure DeviceRefreshWorker where
  running : Bool := false
  notified : Bool := false
  mutex : Option NotifyParty := none
  thread : Option WorkerPc := none
  owner : OwnerPc := .idle
  terminated : Bool := false
  due : Bool := false
deriving DecidableEq, Repr

/-- Who acts next: the owner begins a call or goes on with it, the worker goes on, or its sleep
ends by itself. -/
inductive WorkerAct where
  | start
  | stop
  | notify
  | own
  | work
  | wake (timedOut : Bool)
deriving DecidableEq, Repr

namespace AfterNotify

/-- Where the owner goes on. -/
def next : AfterNotify → OwnerPc
  | back => .idle
  | join wasRunning => .joining wasRunning

/-- Whether that is the rest of `stop`. -/
def stops : AfterNotify → Bool
  | back => false
  | join _ => true

end AfterNotify

namespace WorkerPc

/-- What `notify_all` makes of a thread. -/
def woken : WorkerPc → WorkerPc
  | asleep => awake false
  | pc => pc

/-- Whether the worker is inside the mutex. -/
def holds : WorkerPc → Bool
  | predRunning => true
  | predNotified => true
  | clearing => true
  | unlocking => true
  | _ => false

end WorkerPc

namespace OwnerPc

/-- Whether the owner is inside the mutex. -/
def holds : OwnerPc → Bool
  | setting _ => true
  | unlocking _ => true
  | _ => false

/-- Whether the owner is in `stop`. -/
def stopping : OwnerPc → Bool
  | locking k => k.stops
  | setting k => k.stops
  | unlocking k => k.stops
  | waking k => k.stops
  | joining _ => true
  | _ => false

end OwnerPc

namespace DeviceRefreshWorker

/-! ## what they do -/

/-- The owner goes on with its call. -/
def ownerStep (s : DeviceRefreshWorker) : Option DeviceRefreshWorker :=
  match s.owner with
  | .idle => none
  | .create =>
      -- assigning over a joinable thread ends the program
      if s.thread.isSome then some { s with terminated := true, owner := .idle }
      else some { s with thread := some .top, owner := .idle }
  | .locking k =>
      if s.mutex = none then some { s with mutex := some .owner, owner := .setting k } else none
  | .setting k => some { s with notified := true, due := true, owner := .unlocking k }
  | .unlocking k => some { s with mutex := none, owner := .waking k }
  | .waking k => some { s with thread := s.thread.map WorkerPc.woken, owner := k.next }
  | .joining wasRunning =>
      if !wasRunning && s.thread.isNone then some { s with owner := .idle }
      else
        match s.thread with
        | none => some { s with owner := .idle }
        | some pc =>
            if pc = .finished then some { s with thread := none, owner := .idle } else none

/-- The worker goes on with `workerLoop`. -/
def workerStep (s : DeviceRefreshWorker) : Option DeviceRefreshWorker :=
  match s.thread with
  | none => none
  | some .top =>
      if s.running then some { s with thread := some .ticking, due := false }
      else some { s with thread := some .finished }
  | some .ticking => some { s with thread := some .check }
  | some .check => some { s with thread := some (if s.running then .locking else .finished) }
  | some .locking =>
      if s.mutex = none then some { s with mutex := some .worker, thread := some .predRunning }
      else none
  | some .predRunning =>
      some { s with thread := some (if s.running then .predNotified else .clearing) }
  | some .predNotified =>
      if s.notified then some { s with thread := some .clearing }
      else some { s with mutex := none, thread := some .asleep }
  | some .asleep => none
  | some (.awake timedOut) =>
      -- after a timeout the predicate no longer matters
      if s.mutex = none then
        some
          { s with
            mutex := some .worker
            thread := some (if timedOut then .clearing else .predRunning) }
      else none
  | some .clearing => some { s with notified := false, thread := some .unlocking }
  | some .unlocking => some { s with mutex := none, thread := some .top }
  | some .finished => none

/-- One act; `none` if it is not possible. -/
def step (s : DeviceRefreshWorker) : WorkerAct → Option DeviceRefreshWorker
  | .start =>
      if s.owner = .idle then
        if s.running then some { s with owner := .locking .back }
        else some { s with running := true, owner := .create }
      else none
  | .stop =>
      if s.owner = .idle then some { s with running := false, owner := .locking (.join s.running) }
      else none
  | .notify => if s.owner = .idle then some { s with owner := .locking .back } else none
  | .own => s.ownerStep
  | .work => s.workerStep
  | .wake timedOut =>
      if s.thread = some .asleep then some { s with thread := some (.awake timedOut) } else none

/-- Acts one after another. -/
def play (s : DeviceRefreshWorker) : List WorkerAct → Option DeviceRefreshWorker
  | [] => some s
  | a :: acts => (s.step a).bind fun s' => s'.play acts

end DeviceRefreshWorker

end CanDriver
