import CanDriver.Reads.Tracking

/-!
# CanDriver.Reads.Waiting

How many queries of a read wait in the dispatcher.

Every query has a ticket: the mark of its read, which passes from the thread that issues it
through the query queue to the worker and its completion.  While marks are cleared by
completions only, at most one query of a read waits (`one_query_waits`).
-/

namespace CanDriver

open Interact Prog

/-! ## the query queue -/

namespace DeviceRuntime

variable {rt rt' : DeviceRuntime} {r : Request} {read : Completion}

/-- The queries of a read that wait in the dispatcher. -/
def waitingFor (rt : DeviceRuntime) (read : Completion) : List Request :=
  rt.queryQueue.filter fun r => r.completion = some read

/-- Every queue holds requests of its own category, and only queries have a completion. -/
structure Filed (rt : DeviceRuntime) : Prop where
  sorted : rt.Sorted
  tracked : ∀ r ∈ rt.queued, r.completion ≠ none → r.category = .query

/-- It depends on the queues only. -/
theorem Filed.of_queues (h : rt.Filed) (hcontrol : rt'.controlQueue = rt.controlQueue)
    (hrecover : rt'.recoverQueue = rt.recoverQueue) (hconfig : rt'.configQueue = rt.configQueue)
    (hquery : rt'.queryQueue = rt.queryQueue) : rt'.Filed := by
  refine ⟨⟨?_, ?_, ?_, ?_, ?_⟩, ?_⟩
  · exact hcontrol ▸ h.sorted.control
  · exact hrecover ▸ h.sorted.recover
  · exact hconfig ▸ h.sorted.config
  · exact hquery ▸ h.sorted.query
  · rw [ControlIdsDistinct, hcontrol]
    exact h.sorted.distinct
  · rw [queued, hcontrol, hrecover, hconfig, hquery]
    exact h.tracked

/-- What the worker finds. -/
theorem startSend_cases (rt : DeviceRuntime) : rt.startSend = (none, rt) ∨
    ∃ r rt', rt.Popped r rt' ∧ rt.startSend = (some r, { rt' with sending := some r }) := by
  cases hempty : rt.allQueuesEmpty with
  | true =>
      simp only [allQueuesEmpty, Bool.and_eq_true, List.isEmpty_iff] at hempty
      obtain ⟨⟨⟨hc, hr⟩, hf⟩, hq⟩ := hempty
      exact .inl (by simp [startSend, popNext, hc, hr, hf, hq])
  | false =>
      obtain ⟨r, rt', hpopped, hsend⟩ := startSend_popped hempty
      refine .inr ⟨r, rt', hpopped, Prod.ext ?_ hsend⟩
      cases hpopped with
      | control q h => simp [startSend, popNext, h]
      | recover q hc h => simp [startSend, popNext, hc, h]
      | config q hc hr h => simp [startSend, popNext, hc, hr, h]
      | query q hc hr hf h => simp [startSend, popNext, hc, hr, hf, h]

/-- Taking a request takes its query, if it is one. -/
theorem Popped.waitingFor (h : rt.Popped r rt') (hrt : rt.Filed) : rt.waitingFor read =
    (if r.completion = some read then [r] else []) ++ rt'.waitingFor read := by
  have hnot : r.category ≠ .query → r.completion ≠ some read := by
    intro hcategory hc
    refine hcategory (hrt.tracked r ?_ (by simp [hc]))
    rw [h.queued_eq]
    exact List.mem_cons_self
  cases h with
  | control q h =>
      have hcategory := hrt.sorted.control r (h ▸ List.mem_cons_self)
      rw [if_neg (hnot (by simp [hcategory])), List.nil_append]
      rfl
  | recover q hc h =>
      have hcategory := hrt.sorted.recover r (h ▸ List.mem_cons_self)
      rw [if_neg (hnot (by simp [hcategory])), List.nil_append]
      rfl
  | config q hc hr h =>
      have hcategory := hrt.sorted.config r (h ▸ List.mem_cons_self)
      rw [if_neg (hnot (by simp [hcategory])), List.nil_append]
      rfl
  | query q hc hr hf h =>
      rw [DeviceRuntime.waitingFor, DeviceRuntime.waitingFor, h, List.filter_cons]
      by_cases hread : r.completion = some read <;> simp [hread]

theorem Popped.filed (h : rt.Popped r rt') (hrt : rt.Filed) : rt'.Filed where
  sorted := h.sorted hrt.sorted
  tracked x hx := hrt.tracked x (h.queued_eq ▸ List.mem_cons_of_mem r hx)

/-- An accepted request adds its query, if it is one. -/
theorem Enqueued.waitingFor (h : rt.Enqueued r (true, rt'))
    (hr : r.completion ≠ none → r.category = .query) : rt'.waitingFor read =
      rt.waitingFor read ++ (if r.completion = some read then [r] else []) := by
  have hnot : r.category ≠ .query → r.completion ≠ some read :=
    fun hcategory hc => hcategory (hr (by simp [hc]))
  cases h with
  | control hcontrol hstop =>
      have hsame := (rt.enqueueControl_taken r).same.2.2.2.1
      rw [if_neg (hnot (by simp [hcontrol])), List.append_nil]
      exact congrArg (List.filter _) hsame
  | queued hcategory hstop hroom =>
      cases hc : r.category with
      | control => exact absurd hc hcategory
      | recover | config =>
          rw [if_neg (hnot (by simp [hc])), List.append_nil]
          rfl
      | query =>
          have hqueue : ((rt.setQueue .query (rt.queueFor .query ++ [r])).noteSubmitted).queryQueue =
              rt.queryQueue ++ [r] := rfl
          rw [DeviceRuntime.waitingFor, hqueue, List.filter_append]
          by_cases hread : r.completion = some read <;> simp [hread, DeviceRuntime.waitingFor]

theorem Enqueued.filed {result : Bool × DeviceRuntime} (h : rt.Enqueued r result)
    (hr : r.completion ≠ none → r.category = .query) (hrt : rt.Filed) : result.2.Filed := by
  refine ⟨h.sorted hrt.sorted, ?_⟩
  obtain ⟨accepted, rt'⟩ := result
  cases accepted with
  | false =>
      cases h with
      | rejected =>
          intro x hx
          refine hrt.tracked x ?_
          revert hx
          cases r.category <;> exact id
  | true =>
      intro x hx hc
      have hmem := (h.perm.subset (List.mem_append_left _ hx))
      rcases List.mem_append.1 hmem with hx | hx
      · exact hrt.tracked x hx hc
      · rw [List.mem_singleton.1 hx] at hc ⊢
        exact hr hc

end DeviceRuntime

/-! ## tickets -/

section

variable {ι : Type} [DecidableEq ι]

/-- The queries are where their tickets are. -/
structure Ticketed (hold : ι → Set Completion) (b : Bus) : Prop where
  filed : b.runtime.Filed
  ticket : ∀ read : Completion, Ticket (read.marked b = true) (b.runtime.waitingFor read).length
    fun i => read ∈ hold i

/-- The operation takes no read for answered, and forgets none, that is marked. -/
def Timely (b : Bus) (op : BusOp) : Prop :=
  ∀ read : Completion, op.Answers read ∨ op.Forgets read → read.marked b = false

variable {hold : ι → Set Completion} {i : ι} {b : Bus} {op : BusOp} {r : op.Ans}
  {read : Completion}

/-- What the threads hold after an operation of thread `i`. -/
abbrev holdAfter (hold : ι → Set Completion) (i : ι) (op : BusOp) (r : op.Ans) :
    ι → Set Completion :=
  Function.update hold i (tracking.next (hold i) op r)

/-- Only the acting thread may hold more than before. -/
theorem mem_of_holdAfter (j : ι) (h : read ∈ holdAfter hold i op r j) : read ∈ hold j ∨ j = i := by
  by_cases hji : j = i
  · exact .inr hji
  · rw [holdAfter, Function.update_of_ne hji] at h
    exact .inl h

/-- And only what it claims. -/
theorem mem_of_not_claims (hclaims : read ∉ op.claims r) (j : ι)
    (h : read ∈ holdAfter hold i op r j) : read ∈ hold j := by
  by_cases hji : j = i
  · subst hji
    rw [holdAfter, Function.update_self] at h
    exact (h.resolve_right hclaims).1
  · rw [holdAfter, Function.update_of_ne hji] at h
    exact h

/-- It no longer holds what it releases. -/
theorem mem_of_releases (hclaims : read ∉ op.claims r) (hreleases : read ∈ op.releases r) (j : ι)
    (h : read ∈ holdAfter hold i op r j) : read ∈ hold j ∧ j ≠ i := by
  refine ⟨mem_of_not_claims hclaims j h, ?_⟩
  rintro rfl
  rw [holdAfter, Function.update_self] at h
  exact (h.resolve_right hclaims).2 hreleases

/-- A change of the marks that leaves the queues alone. -/
theorem ticket_of_marks {waiting : Nat} {old new : Bool}
    (h : Ticket (old = true) waiting fun j => read ∈ hold j)
    (hclaims : read ∈ op.claims r ↔ old = false ∧ new = true)
    (hreleases : old = true → new = false → read ∈ hold i ∧ read ∈ op.releases r) :
    Ticket (new = true) waiting fun j => read ∈ holdAfter hold i op r j := by
  cases hold' : old with
  | false =>
      cases hnew : new with
      | false => exact (hold' ▸ h).mono (fun h => h) (mem_of_not_claims (by simp [hclaims, hnew]))
      | true => exact h.claim (by simp [hold']) rfl mem_of_holdAfter
  | true =>
      have hnone : read ∉ op.claims r := by simp [hclaims, hold']
      cases hnew : new with
      | false =>
          obtain ⟨hmine, hgone⟩ := hreleases hold' hnew
          exact h.settle hmine (mem_of_releases hnone hgone)
      | true => exact (hold' ▸ h).mono (fun h => h) (mem_of_not_claims hnone)

/-- An operation that marks nothing and leaves the queues alone. -/
theorem Ticketed.same {b' : Bus} (h : Ticketed hold b) (hfiled : b'.runtime.Filed)
    (hqueue : b'.runtime.queryQueue = b.runtime.queryQueue)
    (hmarks : ∀ read : Completion, read.marked b' = read.marked b)
    (hclaims : ∀ read, read ∉ op.claims r) : Ticketed (holdAfter hold i op r) b' := by
  refine ⟨hfiled, fun read => ?_⟩
  rw [hmarks, DeviceRuntime.waitingFor, hqueue]
  exact (h.ticket read).mono (fun h => h) (mem_of_not_claims (hclaims read))

/-- A submission puts the ticket of its read into the queue, or leaves it with the thread. -/
theorem Ticketed.enqueue {q : Request} {accepted : Bool} (h : Ticketed hold b)
    (hop : ∀ read, q.completion = some read → read ∈ hold i ∧ q.category = .query)
    (haccepted : accepted = (b.runtime.enqueue q).1) :
    Ticketed (holdAfter hold i (.enqueue q) accepted)
      { b with runtime := (b.runtime.enqueue q).2 } := by
  have hcategory : q.completion ≠ none → q.category = .query := by
    intro hq
    obtain ⟨read, hread⟩ := Option.ne_none_iff_exists'.1 hq
    exact (hop read hread).2
  have henqueued := b.runtime.enqueue_enqueued q
  refine ⟨henqueued.filed hcategory h.filed, fun read => ?_⟩
  have hclaims : read ∉ (BusOp.enqueue q).claims accepted := fun h => h
  have hmarked : read.marked { b with runtime := (b.runtime.enqueue q).2 } = read.marked b := by
    cases read <;> rfl
  rw [hmarked]
  generalize b.runtime.enqueue q = result at henqueued haccepted
  obtain ⟨taken, rt'⟩ := result
  obtain rfl : accepted = taken := haccepted
  cases accepted with
  | false =>
      have hsame : rt'.waitingFor read = b.runtime.waitingFor read := by
        cases henqueued with
        | rejected => cases q.category <;> rfl
      rw [hsame]
      exact (h.ticket read).mono (fun h => h) (mem_of_not_claims hclaims)
  | true =>
      rw [henqueued.waitingFor hcategory, List.length_append]
      split
      · next hread =>
        exact (h.ticket read).submit (hop read hread).1 (mem_of_releases hclaims ⟨rfl, hread⟩)
      · exact (h.ticket read).mono (fun h => h) (mem_of_not_claims hclaims)

/-- Taking a query takes its ticket. -/
theorem Ticketed.pop {next : Option Request} (h : Ticketed hold b)
    (hnext : next = b.runtime.startSend.1) :
    Ticketed (holdAfter hold i .pop next) { b with runtime := b.runtime.startSend.2 } := by
  have hmarked : ∀ read : Completion,
      read.marked { b with runtime := b.runtime.startSend.2 } = read.marked b := by
    intro read
    cases read <;> rfl
  rcases b.runtime.startSend_cases with hnone | ⟨r, rt', hpopped, hsend⟩
  · rw [hnone] at hnext ⊢
    obtain rfl : next = none := hnext
    exact h.same h.filed rfl (fun read => rfl) fun read hread => by simp [BusOp.claims] at hread
  · rw [hsend] at hnext hmarked ⊢
    obtain rfl : next = some r := hnext
    refine ⟨(hpopped.filed h.filed).of_queues rfl rfl rfl rfl, fun read => ?_⟩
    rw [hmarked]
    have hticket := h.ticket read
    rw [hpopped.waitingFor h.filed, List.length_append] at hticket
    split at hticket
    · next hread =>
      rw [List.length_singleton, Nat.add_comm] at hticket
      exact hticket.take mem_of_holdAfter
    · next hread =>
      rw [List.length_nil, Nat.zero_add] at hticket
      refine hticket.mono (fun h => h) (mem_of_not_claims fun hclaim => hread ?_)
      simpa [BusOp.claims] using hclaim

/-- **Step**: an operation that is in order and timely keeps the tickets. -/
theorem Ticketed.after (h : Ticketed hold b) (hop : tracking.allow (hold i) op)
    (hr : b.admits op r) (htimely : Timely b op) :
    Ticketed (holdAfter hold i op r) (b.after op r) := by
  have hcleared : ∀ read : Completion, op.Clears read → read.marked b = true → read ∈ hold i := by
    intro read hclears hmarked
    refine (hop.1 read hclears).resolve_right fun hanswers => ?_
    rw [htimely read hanswers] at hmarked
    exact absurd hmarked (by decide)
  cases op with
  | eyou f =>
      obtain rfl : r = b.eyou := hr
      refine ⟨h.filed, fun read => ?_⟩
      cases read with
      | eyouRead node subCommand =>
          refine ticket_of_marks (h.ticket (.eyouRead node subCommand)) ?_ fun hold hnew => ?_
          · simp [BusOp.claims, Completion.marked, Bus.after]
          · have hclears : (BusOp.eyou f).Clears (.eyouRead node subCommand) := ⟨b.eyou, hold, hnew⟩
            exact ⟨hcleared _ hclears hold, hclears⟩
      | mtRead node command =>
          refine (h.ticket (.mtRead node command)).mono (fun h => h) (mem_of_not_claims ?_)
          simp [BusOp.claims]
  | mt f =>
      obtain rfl : r = b.mt := hr
      refine ⟨h.filed, fun read => ?_⟩
      cases read with
      | eyouRead node subCommand =>
          refine (h.ticket (.eyouRead node subCommand)).mono (fun h => h) (mem_of_not_claims ?_)
          simp [BusOp.claims]
      | mtRead node command =>
          refine ticket_of_marks (h.ticket (.mtRead node command)) ?_ fun hold hnew => ?_
          · simp [BusOp.claims, Completion.marked, Bus.after]
          · have hclears : (BusOp.mt f).Clears (.mtRead node command) := ⟨b.mt, hold, hnew⟩
            exact ⟨hcleared _ hclears hold, hclears⟩
  | enqueue q => exact h.enqueue (fun read hread => hop.2 q rfl read hread) hr
  | pop => exact h.pop hr.2
  | restart =>
      have hqueues := hr
      simp only [Bus.admits, DeviceRuntime.idle, Bool.and_eq_true, List.isEmpty_iff] at hqueues
      obtain ⟨⟨⟨⟨hcontrol, hrecover⟩, hconfig⟩, hquery⟩, -⟩ := hqueues
      refine h.same (h.filed.of_queues ?_ ?_ ?_ ?_) ?_ (fun read => ?_) fun read h => h
      · exact hcontrol.symm
      · exact hrecover.symm
      · exact hconfig.symm
      · exact hquery.symm
      · exact hquery.symm
      · cases read <;> rfl
  | _ =>
      refine h.same (h.filed.of_queues rfl rfl rfl rfl) rfl (fun read => ?_) fun read h => h
      cases read <;> rfl

/-! ## runs -/

/-- A step that takes no read for answered, and forgets none, while its query is on its way. -/
def TimelyStep (p : BusPool ι) (e : BusEvent ι) : Prop :=
  ∀ i op, e = .act i op → Timely p.shared op

omit [DecidableEq ι] in
theorem ticketed_powerOn (deviceName : String) (shared : SharedDriverState)
    (options : RuntimeOptions) (t₀ : Time) :
    Ticketed (fun _ : ι => ∅) (Bus.powerOn deviceName shared options t₀) := by
  refine ⟨⟨⟨?_, ?_, ?_, ?_, List.nodup_nil⟩, ?_⟩, fun read => .none⟩
  all_goals simp [Bus.powerOn, DeviceRuntime.queued]

/-- **Run**: while marks are cleared by completions only, at most one query of a read waits. -/
theorem one_query_waits (cfg : DeviceManagerConfig) (deviceName : String)
    (shared : SharedDriverState) (options : RuntimeOptions) (t₀ : Time) {p : BusPool ι}
    (hr : Reach (BusStep cfg deviceName) TimelyStep
      (Pool.idle (Bus.powerOn deviceName shared options t₀)) p) (read : Completion) :
    (p.shared.runtime.waitingFor read).length ≤ 1 := by
  have h : ∃ hold, Pool.Holding tracking Ticketed hold p := by
    refine Reach.invariant (I := fun p => ∃ hold, Pool.Holding tracking Ticketed hold p)
      ⟨fun _ => ∅, .idle (ticketed_powerOn _ _ _ _)⟩ (fun p e p' h htimely hs => ?_) hr
    obtain ⟨hold, h⟩ := h
    refine h.step (tracking_parts.code cfg deviceName) (fun i op r b' he hop hserves => ?_) hs
    obtain ⟨hr, rfl⟩ := hserves
    exact ⟨trivial, h.shared.after hop hr (htimely i op he)⟩
  obtain ⟨hold, h⟩ := h
  exact (h.shared.ticket read).one

end

/-! ## calls that answer nothing -/

/-- The operation neither takes a read for answered nor forgets one. -/
def BusOp.Silent (op : BusOp) : Prop := ∀ read : Completion, ¬op.Answers read ∧ ¬op.Forgets read

/-- An answer is dated, and forgetting leaves no entry. -/
theorem silent_eyou {f : EyouCan → EyouCan}
    (h : ∀ s key request, s.pendingReadRequests key = some request → ∃ request',
      (f s).pendingReadRequests key = some request' ∧
        request'.lastResponse = request.lastResponse) : BusOp.Silent (.eyou f) := by
  intro read
  cases read with
  | mtRead => exact ⟨fun h => h, fun h => h⟩
  | eyouRead node subCommand =>
      constructor
      · rintro ⟨t, rfl⟩
        obtain ⟨request', hentry, hlast⟩ := h
          { deviceName := "", pendingReadRequests := fun _ => some { lastResponse := t + 1 } }
          (node, subCommand) _ rfl
        simp only [EyouCan.answerRead, put_self, Option.some.injEq] at hentry
        rw [← hentry] at hlast
        exact absurd hlast (by simp)
      · intro hforgets
        obtain ⟨request', hentry, -⟩ := h
          { deviceName := "", pendingReadRequests := fun _ => some {} } (node, subCommand) _ rfl
        rw [hforgets] at hentry
        exact absurd hentry (by simp)

/-- An answer clears the count of timeouts. -/
theorem silent_mt {f : MtCan → MtCan}
    (h : ∀ s key request, s.pendingReadRequests key = some request → ∃ request',
      (f s).pendingReadRequests key = some request' ∧
        request.consecutiveTimeouts ≤ request'.consecutiveTimeouts) : BusOp.Silent (.mt f) := by
  intro read
  cases read with
  | eyouRead => exact ⟨fun h => h, fun h => h⟩
  | mtRead node command =>
      constructor
      · rintro rfl
        obtain ⟨request', hentry, hcount⟩ := h
          { deviceName := "", pendingReadRequests := fun _ => some { consecutiveTimeouts := 1 } }
          (node, command) _ rfl
        simp only [MtCan.answerRead, put_self, Option.some.injEq] at hentry
        rw [← hentry] at hcount
        exact absurd hcount (by decide)
      · intro hforgets
        obtain ⟨request', hentry, -⟩ := h
          { deviceName := "", pendingReadRequests := fun _ => some {} } (node, command) _ rfl
        rw [hforgets] at hentry
        exact absurd hentry (by simp)

theorem silent_of_plain {op : BusOp} (h : op.Plain) : op.Silent := by
  cases op with
  | eyou f => exact silent_eyou fun s key request hentry => ⟨request, (h s).symm ▸ hentry, rfl⟩
  | mt f => exact silent_mt fun s key request hentry => ⟨request, (h s).symm ▸ hentry, Nat.le_refl _⟩
  | _ => exact fun read => ⟨fun h => h, fun h => h⟩

/-- The completion of a query is no answer to it. -/
theorem completion_silent (c : Completion) (sent : Bool) (result : SendResult) (t : Time) :
    (c.run sent result t).Stays BusOp.Silent := by
  cases c with
  | eyouRead node command =>
      refine ⟨silent_eyou fun s key request hentry => ?_, fun _ _ => trivial⟩
      rcases EyouCan.onReadDispatchResult_cases node command sent result t s with
        hsame | ⟨found, hfound, hput⟩
      · rw [hsame]
        exact ⟨request, hentry, rfl⟩
      · rw [hput]
        by_cases hkey : key = (node, command)
        · obtain rfl : found = request := by rw [hkey, hfound] at hentry; exact Option.some.inj hentry
          rw [hkey]
          exact ⟨_, put_self _ _ _, rfl⟩
        · exact ⟨request, (put_of_ne _ _ hkey).trans hentry, rfl⟩
  | mtRead node command =>
      refine ⟨silent_mt fun s key request hentry => ?_, fun _ _ => trivial⟩
      rcases MtCan.onReadDispatchResult_cases node command sent result t s with
        hsame | ⟨found, hfound, hput⟩
      · rw [hsame]
        exact ⟨request, hentry, Nat.le_refl _⟩
      · rw [hput]
        by_cases hkey : key = (node, command)
        · obtain rfl : found = request := by rw [hkey, hfound] at hentry; exact Option.some.inj hentry
          rw [hkey]
          exact ⟨_, put_self _ _ _, Nat.le_refl _⟩
        · exact ⟨request, (put_of_ne _ _ hkey).trans hentry, Nat.le_refl _⟩

theorem submit_silent (r : Request) : (DeviceRuntime.submit r).Stays BusOp.Silent :=
  DeviceRuntime.submit_stays (fun _ => ⟨id, id⟩) (fun _ => ⟨id, id⟩)
    fun c _ t => completion_silent c false .error t

theorem workerStep_silent (deviceName : String) :
    (DeviceRuntime.workerStep deviceName).Stays BusOp.Silent := by
  have hquiet : ∀ op : BusOp, (∀ read, ¬op.Answers read ∧ ¬op.Forgets read) → op.Silent := fun _ h => h
  refine .vis (hquiet _ fun _ => ⟨id, id⟩) fun next => ?_
  cases next with
  | none => trivial
  | some r =>
      refine .vis (hquiet _ fun _ => ⟨id, id⟩) fun t =>
        .vis (hquiet _ fun _ => ⟨id, id⟩) fun result => ?_
      have hrest : (DeviceRuntime.noteSharedSendResult deviceName result >>= fun _ =>
          Device.account result).Stays BusOp.Silent := by
        refine .bind (.ite trivial ?_) fun _ => .vis (hquiet _ fun _ => ⟨id, id⟩) fun _ => trivial
        exact .vis (hquiet _ fun _ => ⟨id, id⟩) fun _ =>
          .vis (hquiet _ fun _ => ⟨id, id⟩) fun _ => trivial
      cases hc : r.completion with
      | none => exact hrest
      | some c =>
          have hdone : (c.run true result t >>= fun _ =>
              DeviceRuntime.noteSharedSendResult deviceName result >>= fun _ =>
                Device.account result).Stays BusOp.Silent :=
            (completion_silent c true result t).bind fun _ => hrest
          exact hdone

theorem eyouIssueRefreshQuery_silent (id : MotorID) (query : PpRefreshQuery) :
    (Proto.onBus (discard (EyouCan.issueRefreshQuery id query))).Stays BusOp.Silent := by
  have hplain : ∀ {α : Type} {p : Proto EyouCan α}, p.Stays PortOp.Plain →
      p.onBus.Stays BusOp.Silent := fun hp => (eyou_plain hp).mono fun op => silent_of_plain
  have hread : ∀ node subCommand : UInt8,
      (Proto.onBus (EyouCan.tryIssueReadCommand node subCommand)).Stays BusOp.Silent := by
    intro node subCommand
    simp only [EyouCan.tryIssueReadCommand, EyouCan.sendReadCommand, Proto.onBus_bind,
      Proto.onBus_ite, EyouCan.onBus_access, EyouCan.onBus_modify, EyouCan.onBus_submit, vis_bind,
      ret_bind, pure_eq, Proto.onBus_ret]
    refine (hplain (EyouCan.plain_gets _)).bind fun s => .ite trivial (.vis ?_ fun s => .ite ?_ trivial)
    · refine silent_eyou fun s key request hentry => ?_
      by_cases hkey : key = (node, subCommand)
      · subst hkey
        exact ⟨_, put_self _ _ _, by simp [hentry]⟩
      · exact ⟨request, (put_of_ne _ _ hkey).trans hentry, rfl⟩
    · refine .bind ((hplain (EyouCan.plain_gets _)).bind fun s => .ite (.ite ?_ ?_) trivial)
        fun _ => trivial
      · exact (submit_silent _).bind fun _ => trivial
      exact (hplain EyouCan.plain_now).bind fun t =>
        completion_silent (.eyouRead node subCommand) false .error t
  have hissue : ∀ p : Proto EyouCan Bool, p.onBus.Stays BusOp.Silent →
      (Proto.onBus ((EyouCan.registerManagedMotorId id >>= fun _ => p) >>= fun _ => .ret ())).Stays
        BusOp.Silent := by
    intro p hp
    rw [Proto.onBus_bind, Proto.onBus_bind]
    refine .bind ((hplain EyouCan.plain_registerManagedMotorId).bind fun _ => hp) fun _ => trivial
  cases query
  all_goals exact hissue _ (hread _ _)

/-- Calls whose operations are all silent are always in order. -/
theorem timely_of_silent {cfg : DeviceManagerConfig} {deviceName : String} {b : Bus}
    {p : BusPool Nat} {P : BusCall → Prop}
    (hcode : ∀ c, P c → (c.code cfg deviceName).Stays BusOp.Silent)
    (hr : Reach (BusStep cfg deviceName)
      (fun (_ : BusPool Nat) (e : BusEvent Nat) => ∀ i c, e = .call i c → P c) (Pool.idle b) p) :
    Reach (BusStep cfg deviceName) TimelyStep (Pool.idle b) p := by
  refine Reach.strengthen (I := Pool.Disciplined (fun _ => only BusOp.Silent) fun _ => True)
    (.idle trivial) (fun p e p' h hcalls hs => ⟨?_, ?_⟩) hr
  · rintro i op rfl read hread
    have hsilent : op.Silent := by
      cases hs with
      | act i c op k r s' hi hop => exact (h.thread i _ hi).1
    exact absurd hread (not_or.2 (hsilent read))
  · refine h.step (fun s i c op r s' _ _ _ => ⟨trivial, trivial⟩) (fun i c he => ?_) hs
    exact hcode c (hcalls i c he)

/-- The position is asked for and the query sent; then it is asked for again. -/
def askedTwice : List (Pool.Move Nat BusCall) :=
  Pool.callFor 0 (.eyouIssueRefreshQuery 1 .position) 8 ++ Pool.callFor 1 .work 6 ++
    Pool.callFor 0 (.eyouIssueRefreshQuery 1 .position) 8

theorem askedTwice_waits_once : ∃ p : BusPool Nat,
    Reach (BusStep {} "can0") TimelyStep (Pool.idle (Bus.powerOn "can0" {} {} 0)) p ∧
      (p.shared.runtime.waitingFor (.eyouRead 1 0x07)).length = 1 := by
  have hrun : (Pool.follow (BusCall.code {} "can0") (fun b _ => b.serve)
      (Pool.idle (Bus.powerOn "can0" {} {} 0)) askedTwice).any (fun p =>
        decide (0 < (p.shared.runtime.waitingFor (.eyouRead 1 0x07)).length)) = true := by
    decide +kernel
  obtain ⟨p, hp, hsome⟩ := (Option.any_eq_true _ _).1 hrun
  have hcalls : ∀ m ∈ askedTwice, ∀ (p : BusPool Nat) e p',
      Pool.move (BusCall.code {} "can0") (fun b _ => b.serve) p m = some (e, p') →
        ∀ i c, e = .call i c → c = .work ∨ c = .eyouIssueRefreshQuery 1 .position := by
    rintro m hm p e p' hmove i c rfl
    obtain rfl := Pool.call_of_move hmove
    simp [askedTwice, Pool.callFor] at hm
    tauto
  have hreach := Pool.reach_of_follow (h := fun b _ => b.serves)
    (C := fun (_ : BusPool Nat) (e : BusEvent Nat) =>
      ∀ i c, e = .call i c → c = .work ∨ c = .eyouIssueRefreshQuery 1 .position)
    (fun b i op r b' => serves_of_serve) hcalls .refl hp
  have htimely := timely_of_silent (fun c hc => by
    rcases hc with rfl | rfl
    · exact workerStep_silent _
    · exact eyouIssueRefreshQuery_silent _ _) hreach
  exact ⟨p, htimely, le_antisymm (one_query_waits {} "can0" {} {} 0 htimely _) (of_decide_eq_true hsome)⟩

/-! ## an answer that comes late -/

/-- Whether an operation forgets what is tracked of some read. -/
def BusOp.forgets : BusOp → Bool
  | .eyou f => ((f { deviceName := "", pendingReadRequests := fun _ => some {} }).pendingReadRequests
      (0, 0)).isNone
  | .mt f => ((f { deviceName := "", pendingReadRequests := fun _ => some {} }).pendingReadRequests
      (0, 0)).isNone
  | _ => false

theorem BusOp.Forgets.forgets {op : BusOp} {read : Completion} (h : op.Forgets read) :
    op.forgets = true := by
  cases op with
  | eyou f =>
      cases read with
      | eyouRead => exact Option.isNone_iff_eq_none.2 (h _ _)
      | mtRead => exact h.elim
  | mt f =>
      cases read with
      | eyouRead => exact h.elim
      | mtRead => exact Option.isNone_iff_eq_none.2 (h _ _)
  | _ => exact h.elim

/-- Serve the device, but forget no reads. -/
def serveKeeping (b : Bus) (_ : Nat) (op : BusOp) : Option (op.Ans × Bus) :=
  if op.forgets then none else b.serve op

/-- PP motor 1 reports its position. -/
def positionAnswer : Frame := dataFrame 1 6 #v[0x04, 0x07, 0, 0, 0, 12, 0, 0]

/-- The position is asked for and the query sent; it is asked for again; then the answer to the
first query comes, and it is asked for once more. -/
def askedThrice : List (Pool.Move Nat BusCall) :=
  Pool.callFor 0 (.eyouIssueRefreshQuery 1 .position) 8 ++ Pool.callFor 1 .work 6 ++
    Pool.callFor 0 (.eyouIssueRefreshQuery 1 .position) 8 ++
    Pool.callFor 2 (.eyouReceive positionAnswer) 9 ++
    Pool.callFor 0 (.eyouIssueRefreshQuery 1 .position) 8

/-- A late answer clears the mark of the next query, and two queries wait. -/
theorem late_answer_doubles : ¬ ∀ p : BusPool Nat,
    Reach (BusStep {} "can0") (fun _ e => ∀ i (op : BusOp), e = .act i op → ∀ read, ¬op.Forgets read)
      (Pool.idle (Bus.powerOn "can0" {} {} 0)) p →
    ∀ read, (p.shared.runtime.waitingFor read).length ≤ 1 := by
  intro hclaim
  have hrun : (Pool.follow (BusCall.code {} "can0") serveKeeping
      (Pool.idle (Bus.powerOn "can0" {} {} 0)) askedThrice).any (fun p =>
        decide ((p.shared.runtime.waitingFor (.eyouRead 1 0x07)).length = 2)) = true := by
    decide +kernel
  obtain ⟨p, hp, htwo⟩ := (Option.any_eq_true _ _).1 hrun
  have hserved : ∀ b i (op : BusOp) r b', serveKeeping b i op = some (r, b') →
      op.forgets = false ∧ b.serves op r b' := by
    intro b i op r b' h
    obtain ⟨hforgets, hserve⟩ := Option.ite_none_left_eq_some.1 h
    exact ⟨Bool.eq_false_of_not_eq_true hforgets, serves_of_serve hserve⟩
  have hreach := Pool.reach_of_follow (h := fun b _ => b.serves)
    (C := fun (_ : BusPool Nat) (e : BusEvent Nat) =>
      ∀ i (op : BusOp), e = .act i op → ∀ read, ¬op.Forgets read)
    (fun b i op r b' h => (hserved b i op r b' h).2) (fun m hm p e p' hmove i op he read h => by
      subst he
      obtain ⟨r, b', hserve⟩ := Pool.served_of_move hmove
      have hkept := (hserved _ _ _ _ _ hserve).1
      rw [h.forgets] at hkept
      exact absurd hkept (by decide)) .refl hp
  have hone := hclaim p hreach (.eyouRead 1 0x07)
  rw [of_decide_eq_true htwo] at hone
  exact absurd hone (by decide)

end CanDriver
