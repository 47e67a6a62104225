import CanDriver.Feedback.Readiness
import CanDriver.Reads.Tracking

/-!
# CanDriver.Reads.Timeouts

When a read counts as timed out.

The record of a run says of each read whether its last query has been answered.  A read in
flight has not been, as long as no answer comes between the sending of a query and its
completion, which puts the read in flight; and only reads in flight time out
(`answered_not_counted`).
-/

namespace CanDriver

open Interact Prog

/-! ## the record -/

/-- A tracked read of the MT protocol: the node and the command. -/
abbrev ReadKey := UInt8 × UInt8

/-- The read of the MT protocol a query is for. -/
def Completion.mtKey : Completion → Option ReadKey
  | .eyouRead _ _ => none
  | .mtRead motorId command => some (motorId, command)

namespace MtCan

/-- An object whose reads have all timed out once. -/
def timedOut : MtCan :=
  { deviceName := "", pendingReadRequests := fun _ => some { consecutiveTimeouts := 1 } }

/-- Whether a change to the object takes a read for answered: it ends the count of timeouts. -/
def settles (f : MtCan → MtCan) (key : ReadKey) : Bool :=
  ((f timedOut).pendingReadRequests key).any fun request => request.consecutiveTimeouts = 0

/-- Whether a change to the object gives up waiting for an answer. -/
def givesUp (f : MtCan → MtCan) (s : MtCan) (key : ReadKey) : Bool :=
  (s.pendingRead key).inFlight && !settles f key &&
    ((f s).pendingReadRequests key).any fun request => !request.inFlight

end MtCan

/-- What is recorded of a thread: the query it took last, the read whose query it has sent while
the completion is due, and the reads it has given up since it last looked at the records. -/
structure ReadRow where
  taken : Option Completion := none
  sent : Option ReadKey := none
  expired : ReadKey → Bool := fun _ => false

/-- The row after an operation.  A read that was answered is not given up. -/
def ReadRow.next (answered : ReadKey → Bool) (row : ReadRow) : (op : BusOp) → op.Ans → ReadRow
  | .pop, r => { row with taken := r.bind Request.completion }
  | .transmit _, _ => { row with sent := row.taken.bind Completion.mtKey }
  | .mt f, s =>
      { row with
        sent := none
        expired := fun key => row.expired key || (!answered key && MtCan.givesUp f s key) }
  | .shared _, _ => { row with expired := fun _ => false }
  | _, _ => row

/-- What is recorded of a run: the rows, and the reads that were answered since a query for them
was last sent. -/
structure ReadLog (ι : Type) where
  row : ι → ReadRow := fun _ => {}
  answered : ReadKey → Bool := fun _ => false

/-- The call handles a response of the MT protocol. -/
def BusCall.handlesMt : BusCall → Bool
  | .mtReceive _ => true
  | _ => false

section

variable {ι : Type} [DecidableEq ι]

omit [DecidableEq ι] in
/-- Whether a thread handles a response of the MT protocol. -/
def receivesMt (p : BusPool ι) (i : ι) : Bool := (p.thread i).any fun t => t.call.handlesMt

/-- What an operation of thread `i` adds to the record; `r` is what the device answers. -/
def ReadLog.act (log : ReadLog ι) (receives : Bool) (i : ι) (op : BusOp) (r : op.Ans) : ReadLog ι where
  row := Function.update log.row i ((log.row i).next log.answered op r)
  answered key := match op with
    | .transmit _ => log.answered key && (log.row i).taken.bind Completion.mtKey != some key
    | .mt f => log.answered key || (receives && MtCan.settles f key)
    | _ => log.answered key

/-- What a step adds to the record. -/
def ReadLog.note (p : BusPool ι) (e : BusEvent ι) (_ : BusPool ι) (log : ReadLog ι) : ReadLog ι :=
  match e with
  | .act i (.mt f) => log.act (receivesMt p i) i (.mt f) p.shared.mt
  | .act i .pop => log.act (receivesMt p i) i .pop p.shared.runtime.startSend.1
  | .act i (.transmit frame) => log.act (receivesMt p i) i (.transmit frame) .ok
  | .act i (.shared f) => log.act (receivesMt p i) i (.shared f) p.shared.shared
  | _ => log

/-! ## what counts -/

/-- The read is counted as timed out, or held back. -/
def CountedTimeout (old new : MtPendingRead) : Prop :=
  old.consecutiveTimeouts < new.consecutiveTimeouts ∨
    (new.nextEligibleSend ≠ old.nextEligibleSend ∧ new.nextEligibleSend ≠ 0)

/-- The record of an axis counts one more timeout, or starts to be degraded. -/
def Worse (old new : AxisFeedbackState) : Prop :=
  old.consecutiveTimeoutCount < new.consecutiveTimeoutCount ∨
    (old.degraded = false ∧ new.degraded = true)

/-- A step counts no read that was answered, and only who has just given up a read that was
not answered makes a record worse. -/
def CountsUnanswered (w : BusPool ι × ReadLog ι) (e : BusEvent ι) (p' : BusPool ι) : Prop :=
  (∀ key, CountedTimeout (w.1.shared.mt.pendingRead key) (p'.shared.mt.pendingRead key) →
    w.2.answered key = false) ∧
  ∀ axis, Worse (w.1.shared.shared.record axis) (p'.shared.shared.record axis) →
    ∃ i op key, e = .act i op ∧ (w.2.row i).expired key = true

/-- A step that handles no response to a read while a query for it has been sent and its
completion is due. -/
def AnsweredAfterCompletion (w : BusPool ι × ReadLog ι) (e : BusEvent ι) : Prop :=
  ∀ i f key, e = .act i (.mt f) → receivesMt w.1 i = true → MtCan.settles f key = true →
    ∀ j, (w.2.row j).sent ≠ some key

end

/-! ## the rules of the threads -/

namespace MtCan

/-- A change to the object that puts only the read in flight whose query was sent, and counts
only reads in flight. -/
structure Founded (sent : Option ReadKey) (f : MtCan → MtCan) : Prop where
  flight : ∀ s key, ((f s).pendingRead key).inFlight = true →
    (s.pendingRead key).inFlight = true ∨ sent = some key
  counts : ∀ s key, CountedTimeout (s.pendingRead key) ((f s).pendingRead key) →
    (s.pendingRead key).inFlight = true
  settles : ∀ s key, settles f key = true → ((f s).pendingRead key).inFlight = false

variable {s : MtCan} {f : MtCan → MtCan} {key : ReadKey} {sent : Option ReadKey}

theorem not_countedTimeout_self (request : MtPendingRead) : ¬CountedTimeout request request := by
  rintro (h | ⟨h, -⟩)
  · exact Nat.lt_irrefl _ h
  · exact h rfl

theorem pendingRead_put (new : MtPendingRead) :
    pendingRead { s with pendingReadRequests := put s.pendingReadRequests key new } key' =
      if key' = key then new else s.pendingRead key' := by
  by_cases h : key' = key
  · subst h
    simp [pendingRead]
  · simp [pendingRead, h, put_of_ne _ _ h]

/-- Who leaves the count of a read alone does not end it. -/
theorem settles_of_entry {request : MtPendingRead}
    (h : (f timedOut).pendingReadRequests key = some request) :
    settles f key = decide (request.consecutiveTimeouts = 0) := by
  rw [settles, h, Option.any_some]

/-- A change to one entry. -/
theorem founded_of_entry (key : ReadKey) (hentry : ∀ s : MtCan, f s = s ∨ ∃ new,
      f s = { s with pendingReadRequests := put s.pendingReadRequests key new } ∧
      (new.inFlight = true → (s.pendingRead key).inFlight = true ∨ sent = some key) ∧
      (CountedTimeout (s.pendingRead key) new → (s.pendingRead key).inFlight = true))
    (hsettles : settles f key = true → ∀ s : MtCan, ((f s).pendingRead key).inFlight = false) :
    Founded sent f := by
  refine ⟨fun s key' hflight => ?_, fun s key' hcounts => ?_, fun s key' hsettled => ?_⟩
  · rcases hentry s with hsame | ⟨new, hput, hnew, -⟩
    · exact .inl (hsame ▸ hflight)
    · rw [hput, pendingRead_put] at hflight
      split at hflight
      · next hkey =>
        rw [hkey]
        exact hnew hflight
      · exact .inl hflight
  · rcases hentry s with hsame | ⟨new, hput, -, hnew⟩
    · rw [hsame] at hcounts
      exact absurd hcounts (not_countedTimeout_self _)
    · rw [hput, pendingRead_put] at hcounts
      split at hcounts
      · next hkey =>
        rw [hkey] at hcounts ⊢
        exact hnew hcounts
      · exact absurd hcounts (not_countedTimeout_self _)
  · by_cases hkey : key' = key
    · exact hkey ▸ hsettles (hkey ▸ hsettled) s
    · -- another entry keeps its count
      have hcount : settles f key' = false := by
        rcases hentry timedOut with hsame | ⟨new, hput, -⟩
        · rw [settles_of_entry (congrFun (congrArg pendingReadRequests hsame) key')]
          decide
        · rw [settles_of_entry ((congrFun (congrArg pendingReadRequests hput) key').trans (put_of_ne _ _ hkey))]
          decide
      rw [hcount] at hsettled
      exact absurd hsettled (by decide)

/-- A change that leaves the reads alone. -/
theorem founded_of_same (h : ∀ s, (f s).pendingReadRequests = s.pendingReadRequests) :
    Founded sent f := by
  have hsame : ∀ s key, (f s).pendingRead key = s.pendingRead key :=
    fun s key => by rw [pendingRead, pendingRead, h]
  refine ⟨fun s key hflight => .inl (hsame s key ▸ hflight), fun s key hcounts => ?_,
    fun s key hsettled => ?_⟩
  · rw [hsame] at hcounts
    exact absurd hcounts (not_countedTimeout_self _)
  · rw [settles_of_entry (congrFun (h timedOut) key)] at hsettled
    exact absurd hsettled (by decide)

/-- A change that forgets the reads. -/
theorem founded_of_none (h : ∀ s key, (f s).pendingReadRequests key = none) : Founded sent f := by
  have hnew : ∀ s key, (f s).pendingRead key = {} := fun s key => by rw [pendingRead, h]; rfl
  refine ⟨fun s key hflight => ?_, fun s key hcounts => ?_, fun s key _ => ?_⟩
  · rw [hnew] at hflight
    exact absurd hflight (by decide)
  · rw [hnew] at hcounts
    rcases hcounts with hcount | ⟨-, hback⟩
    · exact absurd hcount (Nat.not_lt_zero _)
    · exact absurd rfl hback
  · rw [hnew]

theorem founded_answerRead (node command : UInt8) : Founded sent (answerRead node command) := by
  have hanswered : ∀ s : MtCan, ((answerRead node command s).pendingRead (node, command)).inFlight =
      false := by
    intro s
    unfold answerRead
    split
    · next hnone => rw [pendingRead, hnone]; rfl
    · rw [pendingRead_put, if_pos rfl]
  refine founded_of_entry (node, command) (fun s => ?_) fun _ => hanswered
  unfold answerRead
  split
  · exact .inl rfl
  · refine .inr ⟨_, rfl, fun h => absurd h Bool.false_ne_true, ?_⟩
    rintro (hcount | ⟨-, hback⟩)
    · exact absurd hcount (Nat.not_lt_zero _)
    · exact absurd rfl hback

/-- The completion of a query that was sent, or of one that was not. -/
theorem founded_onReadDispatchResult (node command : UInt8) (attempted : Bool)
    (result : SendResult) (t : Time) (h : attempted = true → sent = some (node, command)) :
    Founded sent (onReadDispatchResult node command attempted result t) := by
  have hcount : ∀ {s : MtCan} {request : MtPendingRead},
      s.pendingReadRequests (node, command) = some request →
      s.pendingRead (node, command) = request := fun h => by rw [pendingRead, h]; rfl
  refine founded_of_entry (node, command) (fun s => ?_) fun hsettled => ?_
  · rcases onReadDispatchResult_cases node command attempted result t s with
      hsame | ⟨request, hentry, hput⟩
    · exact .inl hsame
    · refine .inr ⟨_, hput, fun hflight => .inr (h ?_), fun hcounts => ?_⟩
      · exact (Bool.and_eq_true_iff.1 hflight).1
      · rw [hcount hentry] at hcounts
        exact absurd hcounts (not_countedTimeout_self _)
  · have hcount : settles (onReadDispatchResult node command attempted result t) (node, command) =
        false := by
      rcases onReadDispatchResult_cases node command attempted result t timedOut with
        hsame | ⟨request, hentry, hput⟩
      · rw [settles_of_entry (congrFun (congrArg pendingReadRequests hsame) _)]
        decide
      · obtain rfl : { consecutiveTimeouts := 1 } = request := Option.some.inj hentry
        rw [settles_of_entry ((congrFun (congrArg pendingReadRequests hput) _).trans (put_self _ _ _))]
        rfl
    rw [hcount] at hsettled
    exact absurd hsettled (by decide)

/-- A claim ends no count of timeouts. -/
theorem settles_claimRead (node command : UInt8) (t timeout : Time) (key : ReadKey) :
    settles (fun s => (claimRead node command t timeout s).2) key = false := by
  obtain ⟨new, hput, hclaimed⟩ := claimRead_claimed timedOut node command t timeout
  have hreads := congrFun (congrArg pendingReadRequests hput) key
  by_cases hkey : key = (node, command)
  · subst hkey
    rw [settles_of_entry (hreads.trans (put_self _ _ _))]
    generalize (claimRead node command t timeout _).1 = decision at hclaimed
    cases hclaimed with
    | refused => rfl
    | delayed timeouts hqueued hflight => exact absurd hflight Bool.false_ne_true
    | issued => rfl
  · rw [settles_of_entry (hreads.trans (put_of_ne _ _ hkey))]
    decide

/-- A claim counts only a read in flight. -/
theorem founded_claimRead (node command : UInt8) (t timeout : Time) :
    Founded sent fun s => (claimRead node command t timeout s).2 := by
  refine founded_of_entry (node, command) (fun s => ?_) fun hsettled => ?_
  · obtain ⟨new, hput, hclaimed⟩ := claimRead_claimed s node command t timeout
    refine .inr ⟨new, hput, fun hflight => .inl ?_, fun hcounts => ?_⟩
    all_goals generalize (claimRead node command t timeout s).1 = decision at hclaimed
    · cases hclaimed with
      | refused => exact hflight
      | delayed timeouts hqueued => exact absurd hflight Bool.false_ne_true
      | issued hqueued => exact hflight
    · cases hclaimed with
      | refused => exact absurd hcounts (not_countedTimeout_self _)
      | delayed timeouts hqueued hflight => exact hflight
      | issued hqueued =>
          rcases hcounts with hcount | ⟨-, hback⟩
          · exact absurd hcount (Nat.lt_irrefl _)
          · exact absurd rfl hback
  · rw [settles_claimRead] at hsettled
    exact absurd hsettled (by decide)

end MtCan

/-- The rules of the threads of a device: what they do to the reads is founded, and only who has
given up a read makes a record worse. -/
def timeoutRules : Protocol busSig ReadRow where
  allow row
    | .mt f => MtCan.Founded row.sent f
    | .shared f => Benign f ∨ ∃ key, row.expired key = true
    | _ => True
  accepts _ _ _ := True
  next row op r := row.next (fun _ => false) op r

/-- The operation keeps the rules whatever the thread has done before. -/
abbrev BusOp.Lawful (op : BusOp) : Prop := ∀ row, timeoutRules.allow row op

theorem lawful_of_plain {op : BusOp} (h : op.Plain) : op.Lawful := by
  intro row
  cases op with
  | mt f => exact MtCan.founded_of_same h
  | shared f => exact .inl h
  | _ => trivial

theorem lawful_mt_id : BusOp.Lawful (.mt id) := fun _ => MtCan.founded_of_same fun _ => rfl

/-- The completion of a query that was not sent. -/
theorem dropped_lawful (c : Completion) (result : SendResult) (t : Time) :
    (c.run false result t).Stays BusOp.Lawful := by
  cases c with
  | eyouRead node subCommand => exact ⟨fun _ => trivial, fun _ _ => trivial⟩
  | mtRead node command =>
      refine ⟨fun row => ?_, fun _ _ => trivial⟩
      exact MtCan.founded_onReadDispatchResult node command false result t (fun h => absurd h (by decide))

theorem submit_lawful (r : Request) : (DeviceRuntime.submit r).Stays BusOp.Lawful :=
  DeviceRuntime.submit_stays (fun _ => trivial) (fun _ => trivial) fun c _ t => dropped_lawful c .error t

/-- Who has given up a read may say so. -/
theorem noteSharedTimeout_timeouts (node : UInt8) (timeouts : Nat) {row : ReadRow}
    (h : ∃ key, row.expired key = true) :
    (Proto.onBus (MtCan.noteSharedTimeout node timeouts)).wp timeoutRules (fun _ _ => True) row := by
  simp only [MtCan.noteSharedTimeout, MtCan.publish, Proto.onBus_bind, MtCan.onBus_gets, vis_bind,
    ret_bind, wp_vis, Proto.onBus_ite, wp_ite]
  refine ⟨lawful_mt_id row, fun s _ => ?_⟩
  split
  · obtain ⟨key, hkey⟩ := h
    refine ⟨.inr ⟨key, ?_⟩, fun _ _ => trivial⟩
    simp [timeoutRules, ReadRow.next, hkey]
  · trivial

/-- A claim that delays its read has given it up. -/
theorem givesUp_of_delayed {s : MtCan} {node command : UInt8} {t timeout : Time} {n : Nat}
    (h : (MtCan.claimRead node command t timeout s).1 = .delayed n) :
    MtCan.givesUp (fun s => (MtCan.claimRead node command t timeout s).2) s (node, command) = true := by
  obtain ⟨new, hput, hclaimed⟩ := MtCan.claimRead_claimed s node command t timeout
  rw [h] at hclaimed
  cases hclaimed with
  | delayed timeouts hqueued hflight =>
      have hentry := (congrFun (congrArg MtCan.pendingReadRequests hput) (node, command)).trans
        (put_self _ _ _)
      rw [MtCan.givesUp, MtCan.settles_claimRead, hflight, hentry]
      rfl

theorem tryIssueReadCommand_timeouts (node command : UInt8) :
    (Proto.onBus (MtCan.tryIssueReadCommand node command)).Upholds timeoutRules := by
  intro row
  simp only [MtCan.tryIssueReadCommand, Proto.onBus_bind, Proto.onBus_ite, MtCan.onBus_gets,
    MtCan.onBus_now, MtCan.onBus_access, vis_bind, ret_bind, wp_vis, wp_ite, pure_eq,
    Proto.onBus_ret, wp_ret]
  refine ⟨lawful_mt_id row, fun s _ => ?_⟩
  split
  · trivial
  · refine ⟨trivial, fun t _ => ⟨lawful_mt_id _, fun s' _ => ?_⟩⟩
    generalize timeoutRules.next _ (.mt id) s' = row
    generalize MtCan.computeReadRequestTimeout s' = timeout
    refine ⟨MtCan.founded_claimRead _ _ _ _, fun s _ => ?_⟩
    cases hdecision : (MtCan.claimRead node command t timeout s).1 with
    | refused => trivial
    | delayed n =>
        dsimp only
        rw [Proto.onBus_bind, wp_bind]
        refine wp_mono (noteSharedTimeout_timeouts node n ⟨(node, command), ?_⟩) fun _ _ _ => trivial
        simp [timeoutRules, ReadRow.next, givesUp_of_delayed hdecision]
    | issued => trivial

theorem requestRead_timeouts (node : UInt8) (command : MtRmd.Command) (source : TxSource) :
    (Proto.onBus (MtCan.requestRead node command source)).Upholds timeoutRules := by
  have hsubmitted : ∀ r : Request, ((DeviceRuntime.submit r >>= fun _ => (ret () : BusProg Unit)) >>=
      fun _ => (ret true : BusProg Bool)).Upholds timeoutRules :=
    fun r => .bind (.bind (fun row => (submit_lawful r).wp) fun _ _ => trivial) fun _ _ => trivial
  intro row
  simp only [MtCan.requestRead, Proto.onBus_bind, Proto.onBus_ite, MtCan.onBus_gets,
    MtCan.onBus_now, MtCan.onBus_modify, MtCan.onBus_submit, vis_bind, ret_bind, wp_vis, wp_ite,
    pure_eq, Proto.onBus_ret, wp_ret]
  refine ⟨lawful_mt_id row, fun s _ => ?_⟩
  split
  · rw [wp_bind]
    refine wp_mono (tryIssueReadCommand_timeouts node command.byte _) fun claimed row' _ => ?_
    rw [wp_ite]
    split
    · rw [wp_ite]
      split
      · exact hsubmitted _ _
      · refine ⟨trivial, fun t _ => ⟨?_, fun _ _ => trivial⟩⟩
        exact MtCan.founded_onReadDispatchResult _ _ false _ _ (fun h => absurd h (by decide))
    · trivial
  · trivial

theorem workerStep_timeouts (deviceName : String) :
    (DeviceRuntime.workerStep deviceName).Upholds timeoutRules := by
  have hrest : ∀ result, (DeviceRuntime.noteSharedSendResult deviceName result >>= fun _ =>
      Device.account result).Upholds timeoutRules := by
    intro result
    have hshared : (DeviceRuntime.noteSharedSendResult deviceName result).Stays BusOp.Plain :=
      .ite trivial (.vis trivial fun _ => .vis (benign_mutateDeviceHealth _ _) fun _ => trivial)
    refine .bind (fun row => (hshared.mono fun op => lawful_of_plain).wp) fun _ => ?_
    exact .vis (fun row => trivial) fun _ _ => trivial
  intro row
  refine ⟨trivial, fun next _ => ?_⟩
  cases next with
  | none => trivial
  | some r =>
      refine ⟨trivial, fun t _ => ⟨trivial, fun result _ => ?_⟩⟩
      cases hc : r.completion with
      | none => exact hrest result _
      | some c =>
          have hdone : (c.run true result t >>= fun _ =>
              DeviceRuntime.noteSharedSendResult deviceName result >>= fun _ =>
                Device.account result).wp timeoutRules (fun _ _ => True)
                { row with taken := r.completion, sent := r.completion.bind Completion.mtKey } := by
            rw [wp_bind]
            refine wp_mono (Q := fun _ _ => True) ?_ fun _ row' _ => hrest result row'
            cases c with
            | eyouRead node subCommand => exact ⟨trivial, fun _ _ => trivial⟩
            | mtRead node command =>
                refine ⟨?_, fun _ _ => trivial⟩
                exact MtCan.founded_onReadDispatchResult _ _ true _ _ (fun _ => by rw [hc]; rfl)
          exact hdone

/-- Every call of a device keeps the rules. -/
theorem timeoutRules_parts : CallParts fun _ p => p.Upholds timeoutRules where
  plain hp row := (hp.mono fun op => lawful_of_plain).wp
  bind hp hf := hp.bind hf
  mtRead := requestRead_timeouts
  mtAnswer node command row := ⟨MtCan.founded_answerRead node command, fun _ _ => trivial⟩
  mtForget row := ⟨MtCan.founded_of_none fun _ _ => rfl, fun _ _ => trivial⟩
  mtNew deviceName row := ⟨MtCan.founded_of_none fun _ _ => rfl, fun _ _ => trivial⟩
  eyouRead node subCommand row := by
    have hfree : ∀ f, BusOp.Lawful (.eyou f) := fun f _ => trivial
    have hread : (Proto.onBus (EyouCan.tryIssueReadCommand node subCommand)).Stays BusOp.Lawful := by
      simp only [EyouCan.tryIssueReadCommand, EyouCan.sendReadCommand, Proto.onBus_bind,
        Proto.onBus_ite, EyouCan.onBus_gets, EyouCan.onBus_now, EyouCan.onBus_access,
        EyouCan.onBus_modify, EyouCan.onBus_submit, vis_bind, ret_bind, pure_eq, Proto.onBus_ret]
      refine .vis (hfree _) fun s => .ite trivial (.vis (hfree _) fun s => .ite ?_ trivial)
      refine .vis (hfree _) fun s => .bind (.ite (.ite ?_ ?_) trivial) fun _ => trivial
      · exact (submit_lawful _).bind fun _ => trivial
      · exact .vis (fun _ => trivial) fun t => .vis (hfree _) fun _ => trivial
    exact hread.wp
  eyouAnswer node subCommand row := by
    rw [EyouCan.markReadResponseReceived_eq]
    exact ⟨trivial, fun _ _ => ⟨trivial, fun _ _ => trivial⟩⟩
  eyouForget row := ⟨trivial, fun _ _ => trivial⟩
  eyouNew deviceName row := ⟨trivial, fun _ _ => trivial⟩
  keepalive motorId query row := by
    refine ((DamiaoCan.issueRefreshQuery_untracked query).mono fun op hop row => ?_).wp
    rcases hop with hplain | ⟨q, rfl, -⟩
    · exact lawful_of_plain hplain row
    · trivial
  work := workerStep_timeouts

/-! ## reads that are still awaited -/

section

variable {ι : Type} [DecidableEq ι]

omit [DecidableEq ι] in
/-- Neither a read in flight nor one whose query was just sent has been answered. -/
structure Awaited (log : ReadLog ι) (b : Bus) : Prop where
  flight : ∀ key, (b.mt.pendingRead key).inFlight = true → log.answered key = false
  sent : ∀ i key, (log.row i).sent = some key → log.answered key = false

variable {log : ReadLog ι} {b : Bus} {i : ι} {op : BusOp} {r : op.Ans} {receives : Bool}

/-- What is noted of an operation. -/
theorem note_act {p p' : BusPool ι} (hr : p.shared.admits op r) :
    log.note p (.act i op) p' = log.act (receivesMt p i) i op r := by
  have hsame : ∀ a, a = log.answered → (⟨Function.update log.row i (log.row i), a⟩ : ReadLog ι) = log := by
    rintro _ rfl
    rw [Function.update_eq_self]
  cases op with
  | mt f =>
      obtain rfl : r = p.shared.mt := hr
      rfl
  | pop =>
      obtain rfl : r = p.shared.runtime.startSend.1 := hr.2
      rfl
  | shared f | transmit f => rfl
  | _ => exact (hsame _ rfl).symm

omit [DecidableEq ι] in
/-- The row of a thread is what the rules say. -/
theorem next_row (h : Awaited log b) (hr : b.admits op r) :
    (log.row i).next log.answered op r = timeoutRules.next (log.row i) op r := by
  cases op with
  | mt f =>
      obtain rfl : r = b.mt := hr
      have hgiven : ∀ key, (!log.answered key && MtCan.givesUp f b.mt key) =
          (!false && MtCan.givesUp f b.mt key) := by
        intro key
        cases hflight : (b.mt.pendingRead key).inFlight with
        | true => rw [h.flight key hflight]
        | false => simp [MtCan.givesUp, hflight]
      simp only [timeoutRules, ReadRow.next, hgiven]
  | _ => rfl

/-- **Step**: an operation that keeps the rules leaves only unanswered reads awaited, if no
answer comes before the completion of its query. -/
theorem Awaited.after (h : Awaited log b) (hop : timeoutRules.allow (log.row i) op)
    (hr : b.admits op r) (hanswer : ∀ f key, op = .mt f → receives = true →
      MtCan.settles f key = true → ∀ j, (log.row j).sent ≠ some key) :
    Awaited (log.act receives i op r) (b.after op r) := by
  have hrow : ∀ j, j ≠ i → (log.act receives i op r).row j = log.row j :=
    fun j hji => Function.update_of_ne hji _ _
  have hself : (log.act receives i op r).row i = (log.row i).next log.answered op r :=
    Function.update_self _ _ _
  cases op with
  | mt f =>
      obtain rfl : r = b.mt := hr
      refine ⟨fun key hflight => ?_, fun j key hsent => ?_⟩
      · have hold : log.answered key = false := by
          rcases hop.flight b.mt key hflight with hold | hsent
          · exact h.flight key hold
          · exact h.sent i key hsent
        have hsettles : MtCan.settles f key = false := by
          refine Bool.eq_false_of_not_eq_true fun hsettles => ?_
          have hlanded := hop.settles b.mt key hsettles
          exact absurd (hflight.symm.trans hlanded) (by decide)
        simp [ReadLog.act, hold, hsettles]
      · by_cases hji : j = i
        · rw [hji, hself] at hsent
          exact absurd hsent (by simp [ReadRow.next])
        · rw [hrow j hji] at hsent
          have hold := h.sent j key hsent
          have hnone : (receives && MtCan.settles f key) = false := by
            refine Bool.eq_false_of_not_eq_true fun hboth => ?_
            obtain ⟨hreceives, hsettles⟩ := Bool.and_eq_true_iff.1 hboth
            exact hanswer f key rfl hreceives hsettles j hsent
          simp [ReadLog.act, hold, hnone]
  | transmit frame =>
      refine ⟨fun key hflight => ?_, fun j key hsent => ?_⟩
      · simp [ReadLog.act, h.flight key hflight]
      · by_cases hji : j = i
        · rw [hji, hself] at hsent
          simp only [ReadRow.next] at hsent
          simp [ReadLog.act, hsent]
        · rw [hrow j hji] at hsent
          simp [ReadLog.act, h.sent j key hsent]
  | _ =>
      refine ⟨h.flight, fun j key hsent => ?_⟩
      by_cases hji : j = i
      · rw [hji, hself] at hsent
        exact h.sent i key hsent
      · rw [hrow j hji] at hsent
        exact h.sent j key hsent

/-- One step on the device, and what is recorded of it. -/
abbrev ReadingStep (cfg : DeviceManagerConfig) (deviceName : String) :
    BusPool ι × ReadLog ι → BusEvent ι → BusPool ι × ReadLog ι → Prop :=
  Recording (BusStep cfg deviceName) ReadLog.note

/-- The threads keep the rules from the rows recorded of them. -/
abbrev KeepsRules (w : BusPool ι × ReadLog ι) : Prop :=
  Pool.Attends (fun _ => timeoutRules) Awaited (fun log i _ row => log.row i = row) w.2 w.1

theorem keepsRules_step {cfg : DeviceManagerConfig} {deviceName : String}
    {w w' : BusPool ι × ReadLog ι} {e : BusEvent ι} (h : KeepsRules w)
    (hC : AnsweredAfterCompletion w e) (hs : ReadingStep cfg deviceName w e w') :
    KeepsRules w' := by
  obtain ⟨p', log'⟩ := w'
  obtain ⟨hs, hnote⟩ := hs
  dsimp only at hs hnote ⊢
  have hquiet : (∀ i op, e ≠ .act i op) → log' = w.2 := by
    intro he
    rw [hnote]
    cases e with
    | act i op => exact absurd rfl (he i op)
    | call | ret => rfl
  refine h.step (fun i c he _ => ?_) (fun i c op k row r s' he hi hrow hop hserves _ => ?_)
    (fun i a he => ?_) (fun j c row hji hrow => ?_) hs
  · have hlog := hquiet fun i op hact => by simp [he] at hact
    exact ⟨hlog ▸ h.shared, _, rfl, timeoutRules_parts.code cfg deviceName c _⟩
  · obtain ⟨hadmits, rfl⟩ := hserves
    have hlog : log' = w.2.act (receivesMt w.1 i) i op r := by rw [hnote, he, note_act hadmits]
    subst hrow
    refine ⟨trivial, ?_, ?_⟩
    · rw [hlog]
      exact h.shared.after hop hadmits fun f key hf => hC i f key (hf ▸ he)
    · rw [hlog]
      exact (Function.update_self _ _ _).trans (next_row h.shared hadmits)
  · have hlog := hquiet fun i op hact => by simp [he] at hact
    exact hlog ▸ h.shared
  · cases e with
    | act i op =>
        obtain ⟨r, hadmits⟩ : ∃ r, w.1.shared.admits op r := by
          cases hs with
          | act _ c _ k r s' hi hserves => exact ⟨r, hserves.1⟩
        rw [hnote, note_act hadmits]
        exact (Function.update_of_ne hji _ _).trans hrow
    | call | ret => exact (hquiet fun i op hact => by simp at hact) ▸ hrow

end

/-! ## an answer that comes before the completion -/

/-- The state of MT motor 1 is asked for, and the query sent. -/
def stateQueried : List (Pool.Move Nat BusCall) :=
  Pool.callFor 0 (.mtIssueRefreshQuery 0x141 .state) 8 ++ Pool.callFor 1 .work 3

/-- Its completion runs, and thread 3 is about to claim the read again. -/
def askedAgain : List (Pool.Move Nat BusCall) :=
  List.replicate 3 (.go 1) ++ Pool.callFor 3 (.mtIssueRefreshQuery 0x141 .state) 5

/-- Thread 3 comes half a second later. -/
def laterThread (i : Nat) : Time := if i = 3 then ms 500 else ms 1

/-- Whether the next move of thread 3 counts a timeout of the state of motor 1. -/
def countsState (w : BusPool Nat × ReadLog Nat) : Bool :=
  (Pool.move (BusCall.code {} "can0") (serveAt laterThread) w.1 (.go 3)).any fun x =>
    decide ((w.1.shared.mt.pendingRead (1, 0x9C)).consecutiveTimeouts <
      (x.2.shared.mt.pendingRead (1, 0x9C)).consecutiveTimeouts)

theorem step_of_countsState {w : BusPool Nat × ReadLog Nat} (h : countsState w = true) :
    ∃ e p', BusStep {} "can0" w.1 e p' ∧
      CountedTimeout (w.1.shared.mt.pendingRead (1, 0x9C)) (p'.shared.mt.pendingRead (1, 0x9C)) := by
  obtain ⟨⟨e, p'⟩, hmove, hmore⟩ := (Option.any_eq_true _ _).1 h
  exact ⟨e, p', Pool.step_of_move (fun _ _ _ _ _ => serves_of_serveAt) hmove,
    .inl (of_decide_eq_true hmore)⟩

/-- Calls that handle no response are always in order. -/
theorem ordered_of_calls {cfg : DeviceManagerConfig} {deviceName : String}
    {w₀ w : BusPool Nat × ReadLog Nat} {P : BusCall → Prop} (hP : ∀ frame, ¬P (.mtReceive frame))
    (h₀ : Pool.Working P w₀.1)
    (hr : Reach (ReadingStep cfg deviceName)
      (fun (_ : BusPool Nat × ReadLog Nat) (e : BusEvent Nat) => ∀ i c, e = .call i c → P c) w₀ w) :
    Reach (ReadingStep cfg deviceName) AnsweredAfterCompletion w₀ w := by
  refine Reach.strengthen (I := fun w : BusPool Nat × ReadLog Nat => Pool.Working P w.1) h₀
    (fun w e w' h hcalls hs => ⟨fun i f key he hreceives => ?_, h.step hcalls hs.1⟩) hr
  obtain ⟨t, hi, hreceives⟩ := (Option.any_eq_true _ _).1 hreceives
  obtain ⟨c, q⟩ := t
  cases c with
  | mtReceive frame => exact absurd (h i _ hi) (hP frame)
  | _ => exact absurd hreceives Bool.false_ne_true

/-- MT motor 1 reports its state. -/
def stateAnswer : Frame := dataFrame 0x241 8 #v[0x9C, 0, 0, 0, 0, 0, 0, 0]

end CanDriver
