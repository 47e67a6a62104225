import CanDriver.CallParts
import CanDriver.Dispatch.Order
import CanDriver.Lib.Ticket

/-!
# CanDriver.Reads.Tracking

How the reads of a device are tracked.

A read is marked as queued before its query is submitted, and the completion of the query
clears the mark.  So does the answer to the read, whichever query it answers, and so does
`ResetFault` for the error register.  As long as that happens only to reads that are not marked,
each marked read has one query, and the mark and the query queue agree.
-/

namespace CanDriver

open Interact Prog

/-! ## marks -/

namespace EyouCan

/-- Whether a read is marked as queued. -/
def marked (s : EyouCan) (key : UInt8 × UInt8) : Bool :=
  (s.pendingReadRequests key).any fun request => request.queued

/-- What an answer makes of the entry of its read. -/
def answerRead (motorId subCommand : UInt8) (t : Time) (s : EyouCan) : EyouCan :=
  match s.pendingReadRequests (motorId, subCommand) with
  | none => s
  | some request =>
      let answered := { request with lastResponse := t, queued := false, inFlight := false }
      { s with pendingReadRequests := put s.pendingReadRequests (motorId, subCommand) answered }

theorem markReadResponseReceived_eq (motorId subCommand : UInt8) :
    markReadResponseReceived motorId subCommand =
      (Proto.now >>= fun t => Proto.modify (answerRead motorId subCommand t)) := rfl

variable {s : EyouCan} {node command : UInt8} {key : UInt8 × UInt8}

theorem marked_put (request : EyouPendingRead) :
    marked { s with pendingReadRequests := put s.pendingReadRequests key request } key' =
      if key' = key then request.queued else s.marked key' := by
  by_cases h : key' = key
  · subst h
    simp [marked]
  · simp [marked, h, put_of_ne _ _ h]

theorem marked_answerRead (t : Time) :
    (answerRead node command t s).marked key =
      if key = (node, command) then false else s.marked key := by
  unfold answerRead
  split
  · next hnone =>
    split
    · next hkey =>
      rw [hkey, marked, hnone]
      rfl
    · rfl
  · exact marked_put _

/-- A completion changes nothing, or the entry of its read. -/
theorem onReadDispatchResult_cases (node command : UInt8) (sent : Bool) (result : SendResult)
    (t : Time) (s : EyouCan) : onReadDispatchResult node command sent result t s = s ∨
      ∃ request, s.pendingReadRequests (node, command) = some request ∧
        onReadDispatchResult node command sent result t s =
          { s with
            pendingReadRequests := put s.pendingReadRequests (node, command)
              { request with
                queued := false
                inFlight := sent && result = .ok
                lastSent := if sent && result = .ok then t else request.lastSent } } := by
  unfold onReadDispatchResult
  split
  · exact .inl rfl
  · split
    · exact .inl rfl
    · next request hentry =>
      refine .inr ⟨request, hentry, ?_⟩
      cases hsent : (sent && decide (result = .ok)) <;> rfl

theorem marked_onReadDispatchResult (h : key ≠ (node, command)) (sent : Bool)
    (result : SendResult) (t : Time) :
    (onReadDispatchResult node command sent result t s).marked key = s.marked key := by
  rcases onReadDispatchResult_cases node command sent result t s with hsame | ⟨request, -, hput⟩
  · rw [hsame]
  · rw [hput, marked_put, if_neg h]

theorem marked_claimRead : (claimRead node command s).2.marked key =
    if key = (node, command) then true else s.marked key :=
  marked_put _

end EyouCan

namespace MtCan

/-- Whether a read is marked as queued. -/
def marked (s : MtCan) (key : UInt8 × UInt8) : Bool :=
  (s.pendingReadRequests key).any fun request => request.queued

variable {s : MtCan} {node command : UInt8} {key : UInt8 × UInt8}

theorem marked_put (request : MtPendingRead) :
    marked { s with pendingReadRequests := put s.pendingReadRequests key request } key' =
      if key' = key then request.queued else s.marked key' := by
  by_cases h : key' = key
  · subst h
    simp [marked]
  · simp [marked, h, put_of_ne _ _ h]

theorem marked_answerRead : (answerRead node command s).marked key =
    if key = (node, command) then false else s.marked key := by
  unfold answerRead
  split
  · next hnone =>
    split
    · next hkey =>
      rw [hkey, marked, hnone]
      rfl
    · rfl
  · exact marked_put _

/-- A completion changes nothing, or the entry of its read. -/
theorem onReadDispatchResult_cases (node command : UInt8) (sent : Bool) (result : SendResult)
    (t : Time) (s : MtCan) : onReadDispatchResult node command sent result t s = s ∨
      ∃ request, s.pendingReadRequests (node, command) = some request ∧
        onReadDispatchResult node command sent result t s =
          { s with
            pendingReadRequests := put s.pendingReadRequests (node, command)
              { request with
                queued := false
                inFlight := sent && result = .ok
                lastSent := if sent && result = .ok then t else request.lastSent } } := by
  unfold onReadDispatchResult
  split
  · exact .inl rfl
  · split
    · exact .inl rfl
    · next request hentry =>
      refine .inr ⟨request, hentry, ?_⟩
      cases hsent : (sent && decide (result = .ok)) <;> rfl

theorem marked_onReadDispatchResult (h : key ≠ (node, command)) (sent : Bool)
    (result : SendResult) (t : Time) :
    (onReadDispatchResult node command sent result t s).marked key = s.marked key := by
  rcases onReadDispatchResult_cases node command sent result t s with hsame | ⟨request, -, hput⟩
  · rw [hsame]
  · rw [hput, marked_put, if_neg h]

/-- The entry of a read, a fresh one if there is none yet. -/
def pendingRead (s : MtCan) (key : UInt8 × UInt8) : MtPendingRead :=
  (s.pendingReadRequests key).getD {}

/-- What a claim makes of the entry of a read. -/
inductive Claimed (timeout now : Time) (old : MtPendingRead) :
    MtPendingRead → ReadDecision → Prop
  | refused : Claimed timeout now old old .refused
  | delayed (timeouts : Nat) (hqueued : old.queued = false) (hflight : old.inFlight = true)
      (htimeouts : timeouts = min (old.consecutiveTimeouts + 1) 8) :
      Claimed timeout now old
        { old with
          inFlight := false
          consecutiveTimeouts := timeouts
          nextEligibleSend := now + computeTimeoutBackoff timeouts timeout } (.delayed timeouts)
  | issued (hqueued : old.queued = false) (hflight : old.inFlight = false) :
      Claimed timeout now old { old with queued := true, nextEligibleSend := 0 } .issued

theorem claimRead_claimed (s : MtCan) (node command : UInt8) (t timeout : Time) :
    ∃ new, (claimRead node command t timeout s).2 =
        { s with pendingReadRequests := put s.pendingReadRequests (node, command) new } ∧
      Claimed timeout t (s.pendingRead (node, command)) new
        (claimRead node command t timeout s).1 := by
  unfold claimRead
  dsimp only
  split_ifs with hback hqueued hfresh hflight
  · exact ⟨_, rfl, .refused⟩
  · exact ⟨_, rfl, .refused⟩
  · exact ⟨_, rfl, .refused⟩
  · exact ⟨_, rfl, .delayed _ (Bool.eq_false_of_not_eq_true hqueued) hflight rfl⟩
  · exact ⟨_, rfl, .issued (Bool.eq_false_of_not_eq_true hqueued) (Bool.eq_false_of_not_eq_true hflight)⟩

theorem marked_eq (s : MtCan) (key : UInt8 × UInt8) : s.marked key = (s.pendingRead key).queued := by
  rw [marked, pendingRead]
  cases s.pendingReadRequests key with
  | none => rfl
  | some request => rfl

/-- A claim clears no mark. -/
theorem marked_claimRead_of_marked (t timeout : Time) (h : s.marked key = true) :
    (claimRead node command t timeout s).2.marked key = true := by
  obtain ⟨new, heq, hclaimed⟩ := claimRead_claimed s node command t timeout
  rw [heq, marked_put]
  split
  · next hkey =>
    rw [hkey, marked_eq] at h
    generalize (claimRead node command t timeout s).1 = decision at hclaimed
    cases hclaimed with
    | refused => exact h
    | delayed timeouts hqueued => exact h
    | issued => rfl
  · exact h

/-- A claim that succeeds sets the mark. -/
theorem marked_of_issued {t timeout : Time}
    (h : (claimRead node command t timeout s).1 = .issued) : s.marked (node, command) = false ∧
      (claimRead node command t timeout s).2.marked (node, command) = true := by
  obtain ⟨new, heq, hclaimed⟩ := claimRead_claimed s node command t timeout
  rw [heq, marked_put, if_pos rfl, marked_eq]
  rw [h] at hclaimed
  cases hclaimed with
  | issued hqueued => exact ⟨hqueued, rfl⟩

end MtCan

namespace Completion

/-- The mark of the read on the device. -/
def marked (b : Bus) : Completion → Bool
  | .eyouRead motorId subCommand => b.eyou.marked (motorId, subCommand)
  | .mtRead motorId command => b.mt.marked (motorId, command)

end Completion

namespace BusOp

/-- The operation takes the read for answered. -/
def Answers : BusOp → Completion → Prop
  | .eyou f, .eyouRead motorId subCommand => ∃ t, f = EyouCan.answerRead motorId subCommand t
  | .mt f, .mtRead motorId command => f = MtCan.answerRead motorId command
  | _, _ => False

/-- The operation forgets every read of the protocol the read belongs to. -/
def Forgets : BusOp → Completion → Prop
  | .eyou f, .eyouRead _ _ => ∀ s key, (f s).pendingReadRequests key = none
  | .mt f, .mtRead _ _ => ∀ s key, (f s).pendingReadRequests key = none
  | _, _ => False

/-- The operation may clear the mark of the read. -/
def Clears : BusOp → Completion → Prop
  | .eyou f, .eyouRead motorId subCommand =>
      ∃ s : EyouCan, s.marked (motorId, subCommand) = true ∧
        (f s).marked (motorId, subCommand) = false
  | .mt f, .mtRead motorId command =>
      ∃ s : MtCan, s.marked (motorId, command) = true ∧ (f s).marked (motorId, command) = false
  | _, _ => False

/-- The reads a thread becomes responsible for: those it marks, and that of a query it takes. -/
def claims : (op : BusOp) → op.Ans → Set Completion
  | .eyou f, s => {read | ∃ motorId subCommand, read = .eyouRead motorId subCommand ∧
      s.marked (motorId, subCommand) = false ∧ (f s).marked (motorId, subCommand) = true}
  | .mt f, s => {read | ∃ motorId command, read = .mtRead motorId command ∧
      s.marked (motorId, command) = false ∧ (f s).marked (motorId, command) = true}
  | .pop, next => {read | next.bind Request.completion = some read}
  | _, _ => ∅

/-- The reads a thread is done with: those it may have cleared, and that of an accepted query. -/
def releases : (op : BusOp) → op.Ans → Set Completion
  | .enqueue q, accepted => {read | accepted = true ∧ q.completion = some read}
  | op, _ => {read | op.Clears read}

end BusOp

/-- The discipline of the threads of a device: who clears the mark of a read is responsible for
it, or has its answer, or forgets all reads; and only who is responsible submits its query. -/
def tracking : Protocol busSig (Set Completion) where
  allow mine op := (∀ read, op.Clears read → read ∈ mine ∨ op.Answers read ∨ op.Forgets read) ∧
    ∀ q, op = .enqueue q → ∀ read, q.completion = some read →
      read ∈ mine ∧ q.category = .query
  accepts _ _ _ := True
  next mine op r := (mine \ op.releases r) ∪ op.claims r

/-! ## the parts -/

/-- An operation that clears no mark and submits no read is always in order. -/
theorem tracking_allow {op : BusOp} {mine : Set Completion} (hclears : ∀ read, ¬op.Clears read)
    (hread : ∀ q, op = .enqueue q → q.completion = none) : tracking.allow mine op := by
  refine ⟨fun read h => absurd h (hclears read), fun q hq read hread' => ?_⟩
  rw [hread q hq] at hread'
  exact absurd hread' (by simp)

theorem tracking_of_plain {op : BusOp} (h : op.Plain) (mine : Set Completion) :
    tracking.allow mine op := by
  refine tracking_allow (fun read hclears => ?_) fun q hq => ?_
  · cases op with
    | eyou f =>
        cases read with
        | eyouRead node subCommand =>
            obtain ⟨s, hold, hnew⟩ := hclears
            rw [EyouCan.marked, h s] at hnew
            exact absurd (hold.symm.trans hnew) (by decide)
        | mtRead => exact hclears
    | mt f =>
        cases read with
        | eyouRead => exact hclears
        | mtRead node command =>
            obtain ⟨s, hold, hnew⟩ := hclears
            rw [MtCan.marked, h s] at hnew
            exact absurd (hold.symm.trans hnew) (by decide)
    | _ => exact hclears
  · subst hq
    exact h.1

/-- The completion of a read is in order for who is responsible for it. -/
theorem completion_tracking {c : Completion} {mine : Set Completion} (hc : c ∈ mine)
    (sent : Bool) (result : SendResult) (t : Time) :
    (c.run sent result t).wp tracking (fun _ _ => True) mine := by
  cases c with
  | eyouRead node subCommand =>
      refine ⟨⟨fun read hclears => .inl ?_, fun q hq => by cases hq⟩, fun _ _ => trivial⟩
      cases read with
      | eyouRead node' subCommand' =>
          obtain ⟨s, hold, hnew⟩ := hclears
          by_cases hkey : (node', subCommand') = (node, subCommand)
          · obtain ⟨rfl, rfl⟩ := Prod.mk.inj hkey
            exact hc
          · rw [EyouCan.marked_onReadDispatchResult hkey, hold] at hnew
            exact absurd hnew (by decide)
      | mtRead => exact hclears.elim
  | mtRead node command =>
      refine ⟨⟨fun read hclears => .inl ?_, fun q hq => by cases hq⟩, fun _ _ => trivial⟩
      cases read with
      | eyouRead => exact hclears.elim
      | mtRead node' command' =>
          obtain ⟨s, hold, hnew⟩ := hclears
          by_cases hkey : (node', command') = (node, command)
          · obtain ⟨rfl, rfl⟩ := Prod.mk.inj hkey
            exact hc
          · rw [MtCan.marked_onReadDispatchResult hkey, hold] at hnew
            exact absurd hnew (by decide)

/-- Who is responsible for a read may submit its query. -/
theorem submit_tracking {r : Request} {c : Completion} {mine : Set Completion}
    (hr : r.completion = some c) (hcategory : r.category = .query) (hc : c ∈ mine) :
    (DeviceRuntime.submit r).wp tracking (fun _ _ => True) mine := by
  have hallow : tracking.allow mine (.enqueue r) := by
    refine ⟨fun read h => h.elim, fun q hq read hread => ?_⟩
    cases hq
    rw [hr, Option.some.injEq] at hread
    exact ⟨hread ▸ hc, hcategory⟩
  refine ⟨hallow, fun accepted _ => ?_⟩
  cases accepted with
  | true => trivial
  | false =>
      have hstill : c ∈ tracking.next mine (.enqueue r) false := .inl ⟨hc, fun h => by simp [BusOp.releases] at h⟩
      simp only [DeviceRuntime.completeDropped, hr]
      refine ⟨tracking_allow (fun _ h => h) (by simp), fun t _ => ?_⟩
      exact completion_tracking (.inl ⟨hstill, fun h => h⟩) _ _ _

theorem tracking_mt_id (mine : Set Completion) : tracking.allow mine (.mt id) := by
  have h : BusOp.Plain (.mt id) := fun _ => rfl
  exact tracking_of_plain h mine

theorem tracking_eyou_id (mine : Set Completion) : tracking.allow mine (.eyou id) := by
  have h : BusOp.Plain (.eyou id) := fun _ => rfl
  exact tracking_of_plain h mine

theorem tracking_clock (mine : Set Completion) : tracking.allow mine .clock :=
  tracking_allow (fun _ h => h) (by simp)

theorem noteSharedTimeout_tracking (node : UInt8) (timeouts : Nat) :
    (Proto.onBus (MtCan.noteSharedTimeout node timeouts)).Upholds tracking := by
  intro mine
  simp only [MtCan.noteSharedTimeout, MtCan.publish, Proto.onBus_bind, MtCan.onBus_gets, vis_bind,
    ret_bind, wp_vis, Proto.onBus_ite, wp_ite]
  refine ⟨tracking_mt_id _, fun s _ => ?_⟩
  split
  · exact ⟨tracking_allow (fun _ h => h) (by simp), fun _ _ => trivial⟩
  · trivial

/-- A thread that has issued a read is responsible for it. -/
theorem mtTryIssueReadCommand_tracking (node command : UInt8) (mine : Set Completion) :
    (Proto.onBus (MtCan.tryIssueReadCommand node command)).wp tracking
      (fun claimed mine' => claimed = true → .mtRead node command ∈ mine') mine := by
  simp only [MtCan.tryIssueReadCommand, Proto.onBus_bind, Proto.onBus_ite, MtCan.onBus_gets,
    MtCan.onBus_now, MtCan.onBus_access, vis_bind, ret_bind, wp_vis, wp_ite, pure_eq,
    Proto.onBus_ret, wp_ret]
  refine ⟨tracking_mt_id _, fun s _ => ?_⟩
  split
  · exact fun h => absurd h (by decide)
  · refine ⟨tracking_clock _, fun t _ => ⟨tracking_mt_id _, fun s' _ => ?_⟩⟩
    generalize tracking.next _ (.mt id) s' = mine
    generalize MtCan.computeReadRequestTimeout s' = timeout
    refine ⟨⟨fun read hclears => ?_, fun q hq => by cases hq⟩, fun s _ => ?_⟩
    · -- a claim never clears a mark
      cases read with
      | eyouRead => exact hclears.elim
      | mtRead node' command' =>
          obtain ⟨s, hold, hnew⟩ := hclears
          rw [MtCan.marked_claimRead_of_marked t timeout hold] at hnew
          exact absurd hnew (by decide)
    · cases hdecision : (MtCan.claimRead node command t timeout s).1 with
      | refused => exact fun h => absurd h (by decide)
      | delayed timeouts =>
          dsimp only
          rw [Proto.onBus_bind, wp_bind]
          refine wp_mono (noteSharedTimeout_tracking node timeouts _) fun _ _ _ h => ?_
          exact absurd h (by decide)
      | issued =>
          obtain ⟨hold, hnew⟩ := MtCan.marked_of_issued hdecision
          exact fun _ => .inr ⟨node, command, rfl, hold, hnew⟩

theorem requestRead_tracking (node : UInt8) (command : MtRmd.Command) (source : TxSource) :
    (Proto.onBus (MtCan.requestRead node command source)).Upholds tracking := by
  intro mine
  simp only [MtCan.requestRead, Proto.onBus_bind, Proto.onBus_ite, MtCan.onBus_gets,
    MtCan.onBus_now, MtCan.onBus_modify, MtCan.onBus_submit, vis_bind, ret_bind, wp_vis, wp_ite,
    wp_bind, pure_eq, Proto.onBus_ret, wp_ret]
  refine ⟨tracking_mt_id _, fun s _ => ?_⟩
  split
  · refine wp_mono (mtTryIssueReadCommand_tracking node command.byte _) fun claimed mine' hmine => ?_
    split
    · next hclaimed =>
      split
      · exact submit_tracking rfl rfl (hmine hclaimed)
      · refine ⟨tracking_clock _, fun t _ => ?_⟩
        exact completion_tracking (c := .mtRead node command.byte) (.inl ⟨hmine hclaimed, id⟩) _ _ _
    · trivial
  · trivial

/-- A thread that reads a PP register is responsible for the read until it is submitted. -/
theorem eyouTryIssueReadCommand_tracking (node subCommand : UInt8) :
    (Proto.onBus (EyouCan.tryIssueReadCommand node subCommand)).Upholds tracking := by
  intro mine
  simp only [EyouCan.tryIssueReadCommand, EyouCan.sendReadCommand, Proto.onBus_bind,
    Proto.onBus_ite, EyouCan.onBus_gets, EyouCan.onBus_now, EyouCan.onBus_access,
    EyouCan.onBus_modify, EyouCan.onBus_submit, vis_bind, ret_bind, wp_vis, wp_ite, wp_bind,
    pure_eq, Proto.onBus_ret, wp_ret]
  refine ⟨tracking_eyou_id _, fun s _ => ?_⟩
  split
  · trivial
  · generalize tracking.next _ (.eyou id) s = mine
    refine ⟨⟨fun read hclears => ?_, fun q hq => by cases hq⟩, fun s _ => ?_⟩
    · -- a claim never clears a mark
      cases read with
      | eyouRead node' subCommand' =>
          obtain ⟨s, hold, hnew⟩ := hclears
          rw [EyouCan.marked_claimRead, hold, ite_self] at hnew
          exact absurd hnew (by decide)
      | mtRead => exact hclears.elim
    · split
      · next hclaimed =>
        have hold : s.marked (node, subCommand) = false := by
          rw [EyouCan.marked]
          cases hs : s.pendingReadRequests (node, subCommand) with
          | none => rfl
          | some request => simpa [EyouCan.claimRead, hs] using hclaimed
        have hnew : (EyouCan.claimRead node subCommand s).2.marked (node, subCommand) = true := by
          rw [EyouCan.marked_claimRead, if_pos rfl]
        -- looking at the object again does not end the responsibility
        refine ⟨tracking_eyou_id _, fun s' _ => ?_⟩
        have hmine : Completion.eyouRead node subCommand ∈
            tracking.next (tracking.next mine (.eyou fun s =>
              (EyouCan.claimRead node subCommand s).2) s) (.eyou id) s' := by
          refine .inl ⟨.inr ⟨node, subCommand, rfl, hold, hnew⟩, fun h => ?_⟩
          obtain ⟨s, hold, hnew⟩ := h
          exact absurd (hold.symm.trans hnew) (by decide)
        split
        · split
          · exact submit_tracking rfl rfl hmine
          · refine ⟨tracking_clock _, fun t _ => ?_⟩
            exact completion_tracking (c := .eyouRead node subCommand) (.inl ⟨hmine, id⟩) _ _ _
        · trivial
      · trivial

/-- Taking a read for answered is in order. -/
theorem mtAnswer_tracking (node command : UInt8) :
    (Proto.onBus (MtCan.markReadResponseReceived node command)).Upholds tracking := by
  refine fun mine => ⟨⟨fun read hclears => ?_, fun q hq => by cases hq⟩, fun _ _ => trivial⟩
  cases read with
  | eyouRead => exact hclears.elim
  | mtRead node' command' =>
      obtain ⟨s, hold, hnew⟩ := hclears
      rw [MtCan.marked_answerRead] at hnew
      by_cases hkey : (node', command') = (node, command)
      · obtain ⟨rfl, rfl⟩ := Prod.mk.inj hkey
        exact .inr (.inl rfl)
      · rw [if_neg hkey, hold] at hnew
        exact absurd hnew (by decide)

theorem eyouAnswer_tracking (node subCommand : UInt8) :
    (Proto.onBus (EyouCan.markReadResponseReceived node subCommand)).Upholds tracking := by
  rw [EyouCan.markReadResponseReceived_eq]
  refine fun mine => ⟨tracking_clock mine, fun t _ => ⟨⟨fun read hclears => ?_, fun q hq => by
    cases hq⟩, fun _ _ => trivial⟩⟩
  cases read with
  | eyouRead node' subCommand' =>
      obtain ⟨s, hold, hnew⟩ := hclears
      rw [EyouCan.marked_answerRead] at hnew
      by_cases hkey : (node', subCommand') = (node, subCommand)
      · obtain ⟨rfl, rfl⟩ := Prod.mk.inj hkey
        exact .inr (.inl ⟨t, rfl⟩)
      · rw [if_neg hkey, hold] at hnew
        exact absurd hnew (by decide)
  | mtRead => exact hclears.elim

/-- Forgetting all reads is in order. -/
theorem forget_tracking {op : BusOp} (hop : ∀ read, op.Clears read → op.Forgets read)
    (hq : ∀ q, op ≠ .enqueue q) (mine : Set Completion) : tracking.allow mine op :=
  ⟨fun read h => .inr (.inr (hop read h)), fun q h => absurd h (hq q)⟩

theorem workerStep_tracking (deviceName : String) :
    (DeviceRuntime.workerStep deviceName).Upholds tracking := by
  intro mine
  refine ⟨tracking_allow (fun _ h => h) (by simp), fun next _ => ?_⟩
  cases next with
  | none => trivial
  | some r =>
      refine ⟨tracking_clock _, fun t _ => ⟨tracking_allow (fun _ h => h) (by simp),
        fun result _ => ?_⟩⟩
      have hrest : (DeviceRuntime.noteSharedSendResult deviceName result >>= fun _ =>
          Device.account result).Upholds tracking := by
        have hshared : (DeviceRuntime.noteSharedSendResult deviceName result).Stays BusOp.Plain :=
          .ite trivial (.vis trivial fun _ => .vis (benign_mutateDeviceHealth _ _) fun _ => trivial)
        refine .bind (fun mine => (hshared.mono fun op => tracking_of_plain).wp) fun _ => ?_
        exact .vis (fun mine => tracking_allow (fun _ h => h) (by simp)) fun _ _ => trivial
      cases hc : r.completion with
      | none => exact hrest _
      | some c =>
          have hmine : c ∈ tracking.next mine .pop (some r) := by
            refine .inr ?_
            simpa [BusOp.claims] using hc
          have hstill : c ∈ tracking.next (tracking.next (tracking.next mine .pop (some r)) .clock t)
              (.transmit r.frame) result := .inl ⟨.inl ⟨hmine, fun h => h⟩, fun h => h⟩
          have hdone : (c.run true result t >>= fun _ =>
              DeviceRuntime.noteSharedSendResult deviceName result >>= fun _ =>
                Device.account result).wp tracking (fun _ _ => True) (tracking.next
                  (tracking.next (tracking.next mine .pop (some r)) .clock t)
                  (.transmit r.frame) result) := by
            rw [wp_bind]
            exact wp_mono (completion_tracking hstill true result t) fun _ mine' _ => hrest mine'
          exact hdone

/-- Every call of a device is in order. -/
theorem tracking_parts : CallParts fun _ p => p.Upholds tracking where
  plain hp mine := (hp.mono fun op => tracking_of_plain).wp
  bind hp hf := hp.bind hf
  mtRead := requestRead_tracking
  mtAnswer := mtAnswer_tracking
  mtForget mine := by
    refine ⟨forget_tracking (fun read h => ?_) (by simp) mine, fun _ _ => trivial⟩
    cases read with
    | eyouRead => exact h.elim
    | mtRead => exact fun _ _ => rfl
  mtNew deviceName mine := by
    refine ⟨forget_tracking (fun read h => ?_) (by simp) mine, fun _ _ => trivial⟩
    cases read with
    | eyouRead => exact h.elim
    | mtRead => exact fun _ _ => rfl
  eyouRead := eyouTryIssueReadCommand_tracking
  eyouAnswer := eyouAnswer_tracking
  eyouForget mine := by
    refine ⟨forget_tracking (fun read h => ?_) (by simp) mine, fun _ _ => trivial⟩
    cases read with
    | eyouRead => exact fun _ _ => rfl
    | mtRead => exact h.elim
  eyouNew deviceName mine := by
    refine ⟨forget_tracking (fun read h => ?_) (by simp) mine, fun _ _ => trivial⟩
    cases read with
    | eyouRead => exact fun _ _ => rfl
    | mtRead => exact h.elim
  keepalive motorId query mine := by
    refine ((DamiaoCan.issueRefreshQuery_untracked query).mono fun op hop mine => ?_).wp
    rcases hop with hplain | ⟨q, rfl, hq⟩
    · exact tracking_of_plain hplain mine
    · exact tracking_allow (fun _ h => h) fun q' hq' => by cases hq'; exact hq
  work := workerStep_tracking

end CanDriver
