import CanDriver.Basic

/-!
# CanDriver.SocketCanController

The receive handlers of a transport.

`SocketCanController` and `UdpCanTransport` keep them in the same way: in a map from small
ids, which are counted from 1 and start again when the transport is shut down.  The ids are
natural numbers here, since no session sees 2^64 registrations.
-/

namespace CanDriver

/-- `handlers_` and `nextHandlerId_`. -/
structure ReceiveHandlers (α : Type) where
  handlers : List (Nat × α) := []
  nextHandlerId : Nat := 1
deriving DecidableEq

namespace ReceiveHandlers

variable {α : Type}

/-- `unordered_map::emplace`: a key that is there keeps its value. -/
def emplace (id : Nat) (handler : α) (handlers : List (Nat × α)) : List (Nat × α) :=
  if handlers.any fun entry => entry.1 = id then handlers else handlers ++ [(id, handler)]

/-- `addReceiveHandler`: an empty handler is not registered. -/
def addReceiveHandler (handler : Option α) (t : ReceiveHandlers α) : Nat × ReceiveHandlers α :=
  match handler with
  | none => (0, t)
  | some handler =>
      (t.nextHandlerId,
        { handlers := emplace t.nextHandlerId handler t.handlers
          nextHandlerId := t.nextHandlerId + 1 })

/-- `removeReceiveHandler`. -/
def removeReceiveHandler (handlerId : Nat) (t : ReceiveHandlers α) : ReceiveHandlers α :=
  if handlerId = 0 then t
  else { t with handlers := t.handlers.filter fun entry => entry.1 ≠ handlerId }

/-- `shutdown`, and `initialize`, which begins with it: the ids start at 1 again. -/
def shutdown (_ : ReceiveHandlers α) : ReceiveHandlers α := {}

/-- `dispatchReceive`: the handlers that are called with a frame. -/
def dispatchReceive (t : ReceiveHandlers α) : List α := t.handlers.map Prod.snd

/-- An id that is not in use is registered. -/
theorem mem_addReceiveHandler {t : ReceiveHandlers α} {handler : α} {entry : Nat × α}
    (h : ∀ x ∈ t.handlers, x.1 ≠ t.nextHandlerId) :
    entry ∈ (t.addReceiveHandler (some handler)).2.handlers ↔
      entry ∈ t.handlers ∨ entry = (t.nextHandlerId, handler) := by
  have hnew : (t.handlers.any fun x => x.1 = t.nextHandlerId) = false := by
    simpa using fun id y hmem => h (id, y) hmem
  simp [addReceiveHandler, emplace, hnew]

/-- What is removed has the id. -/
theorem mem_removeReceiveHandler {t : ReceiveHandlers α} {id : Nat} {entry : Nat × α}
    (h : id ≠ 0) :
    entry ∈ (t.removeReceiveHandler id).handlers ↔ entry ∈ t.handlers ∧ entry.1 ≠ id := by
  simp [removeReceiveHandler, h]

@[simp] theorem removeReceiveHandler_nextHandlerId (t : ReceiveHandlers α) (id : Nat) :
    (t.removeReceiveHandler id).nextHandlerId = t.nextHandlerId := by
  rw [removeReceiveHandler]
  split <;> rfl

end ReceiveHandlers

end CanDriver
