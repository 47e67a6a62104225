import CanDriver.BusCall
import CanDriver.Lib.Record

/-!
# CanDriver.Dispatch.Submissions

Whose frame is on the wire.

The queues of the dispatcher say what waits, not who submitted it.  `SubmissionLog` keeps,
beside a run on a device, the same queues with the thread and the call of every submission;
`mirrors_run` says that they are the same queues.  A `WiredBus` is a device with the frames
its transport has taken, so that a record can tell a frame that was sent from one that was
refused.
-/

namespace CanDriver

open Interact

/-! ## devices with a wire -/

/-- A device, and the frames its transport has taken. -/
structure WiredBus where
  bus : Bus
  wire : List Frame := []

/-- The wire after an operation. -/
def wireAfter (wire : List Frame) : (op : BusOp) → op.Ans → List Frame
  | .transmit frame, .ok => wire ++ [frame]
  | _, _ => wire

namespace WiredBus

/-- How the device serves an operation. -/
def serves (b : WiredBus) (op : BusOp) (r : op.Ans) (b' : WiredBus) : Prop :=
  b.bus.serves op r b'.bus ∧ b'.wire = wireAfter b.wire op r

/-- Serve an operation with the answer of `answer`. -/
def serveWith (answer : Bus → (op : BusOp) → Option op.Ans) (b : WiredBus) (op : BusOp) :
    Option (op.Ans × WiredBus) :=
  (answer b.bus op).map fun r => (r, ⟨b.bus.after op r, wireAfter b.wire op r⟩)

theorem serves_of_serveWith {answer : Bus → (op : BusOp) → Option op.Ans}
    (hanswer : ∀ b op r, answer b op = some r → b.admits op r) {b b' : WiredBus} {op : BusOp}
    {r : op.Ans} (h : b.serveWith answer op = some (r, b')) : b.serves op r b' := by
  obtain ⟨r', hr, heq⟩ := Option.map_eq_some_iff.1 h
  obtain ⟨rfl, rfl⟩ := Prod.mk.inj heq
  exact ⟨⟨hanswer _ _ _ hr, rfl⟩, rfl⟩

end WiredBus

/-- A device that serves every operation at once. -/
def serveWired {ι : Type} (b : WiredBus) (_ : ι) (op : BusOp) : Option (op.Ans × WiredBus) :=
  b.serveWith Bus.answer op

theorem serves_of_serveWired {ι : Type} {b b' : WiredBus} {i : ι} {op : BusOp} {r : op.Ans}
    (h : serveWired b i op = some (r, b')) : b.serves op r b' :=
  WiredBus.serves_of_serveWith (fun _ _ _ => admits_of_answer) h

/-! ## submissions -/

/-- A request, and who submitted it in which of its calls. -/
structure Submission (ι : Type) where
  thread : ι
  call : Nat
  request : Request
deriving DecidableEq

/-- Queues of submissions. -/
abbrev Submissions (ι : Type) := Category → List (Submission ι)

/-- What is recorded of a run: how many calls a thread has made, the submissions that wait, and
those a worker has taken. -/
structure SubmissionLog (ι : Type) where
  calls : ι → Nat := fun _ => 0
  queue : Submissions ι := fun _ => []
  taken : ι → Option (Submission ι) := fun _ => none

section

variable {ι κ α : Type}

/-- Put a submission in the place of the first queued one with the same CAN id. -/
def replaceSubmission (s : Submission ι) : List (Submission ι) → Option (List (Submission ι))
  | [] => none
  | q :: qs =>
      if q.request.frame.id = s.request.frame.id then some (s :: qs)
      else (replaceSubmission s qs).map fun qs' => q :: qs'

/-- The control queue after a submission. -/
def submitControl (depth : Nat) (queue : List (Submission ι)) (s : Submission ι) :
    List (Submission ι) :=
  match replaceSubmission s queue with
  | some q => q
  | none => if depth ≤ queue.length then queue.tail ++ [s] else queue ++ [s]

/-- The queues after a submission to a dispatcher. -/
def submitTo (rt : DeviceRuntime) (queue : Submissions ι) (s : Submission ι) : Submissions ι :=
  if rt.stopRequested then queue
  else if s.request.category = .control then
    Function.update queue .control
      (submitControl rt.options.maxControlQueueDepth (queue .control) s)
  else if rt.maxDepthFor s.request.category ≤ (queue s.request.category).length then queue
  else Function.update queue s.request.category (queue s.request.category ++ [s])

/-- The first submission of the first of some queues that is not empty, and what is left. -/
def takeFrom (queue : Submissions ι) : List Category → Option (Submission ι × Submissions ι)
  | [] => none
  | c :: cs =>
      match queue c with
      | s :: q => some (s, Function.update queue c q)
      | [] => takeFrom queue cs

/-- The submission a worker takes. -/
def takeNext (queue : Submissions ι) : Option (Submission ι × Submissions ι) :=
  takeFrom queue [.control, .recover, .config, .query]

variable [DecidableEq ι]

/-- What a step adds to the record. -/
def SubmissionLog.note (log : SubmissionLog ι) (p : Pool busSig ι κ α WiredBus) :
    Event busSig ι κ α → SubmissionLog ι
  | .call i _ => { log with calls := Function.update log.calls i (log.calls i + 1) }
  | .act i (.enqueue r) =>
      { log with queue := submitTo p.shared.bus.runtime log.queue ⟨i, log.calls i, r⟩ }
  | .act i .pop =>
      match takeNext log.queue with
      | some (s, queue) => { log with queue, taken := Function.update log.taken i (some s) }
      | none => { log with taken := Function.update log.taken i none }
  | .act _ .restart => { log with queue := fun _ => [] }
  | _ => log

/-! ## the queues are those of the dispatcher -/

omit [DecidableEq ι] in
/-- The queues hold the requests of a dispatcher. -/
def Mirrors (queue : Submissions ι) (rt : DeviceRuntime) : Prop :=
  ∀ c, (queue c).map Submission.request = rt.queueFor c

omit [DecidableEq ι] in
theorem map_replaceSubmission (s : Submission ι) (queue : List (Submission ι)) :
    (replaceSubmission s queue).map (List.map Submission.request) =
      DeviceRuntime.replaceById s.request (queue.map Submission.request) := by
  induction queue with
  | nil => rfl
  | cons q qs ih =>
      rw [replaceSubmission, List.map_cons, DeviceRuntime.replaceById, ← ih]
      by_cases hid : q.request.frame.id = s.request.frame.id
      · rw [if_pos hid, if_pos hid]
        rfl
      · rw [if_neg hid, if_neg hid, Option.map_map, Option.map_map]
        rfl

omit [DecidableEq ι] in
/-- Another control queue, with the requests of a control queue after a submission. -/
theorem map_submitControl (depth : Nat) (queue : List (Submission ι)) (s : Submission ι)
    (rt : DeviceRuntime) (hdepth : rt.options.maxControlQueueDepth = depth)
    (hqueue : queue.map Submission.request = rt.controlQueue) :
    (submitControl depth queue s).map Submission.request =
      (rt.enqueueControl s.request).controlQueue := by
  have hreplaced := map_replaceSubmission s queue
  rw [hqueue] at hreplaced
  rw [submitControl, DeviceRuntime.enqueueControl, ← hreplaced, hdepth, ← hqueue, List.length_map]
  cases replaceSubmission s queue with
  | some q => rfl
  | none =>
      by_cases hfull : depth ≤ queue.length
      · simp [hfull]
      · simp [hfull]

omit [DecidableEq ι] in
theorem queueFor_setQueue_of_ne {rt : DeviceRuntime} {c c' : Category} (h : c' ≠ c)
    (q : List Request) : (rt.setQueue c q).noteSubmitted.queueFor c' = rt.queueFor c' := by
  cases c
  all_goals cases c'
  all_goals first | rfl | exact absurd rfl h

omit [DecidableEq ι] in
theorem Mirrors.submit {queue : Submissions ι} {rt : DeviceRuntime} (h : Mirrors queue rt)
    (s : Submission ι) : Mirrors (submitTo rt queue s) (rt.enqueue s.request).2 := by
  rw [submitTo, DeviceRuntime.enqueue]
  have hcontrol := map_submitControl _ (queue .control) s rt rfl (h .control)
  cases hstop : rt.stopRequested with
  | true =>
      intro c
      rw [if_pos rfl, if_pos rfl, h c]
      cases c <;> rfl
  | false =>
      rw [if_neg Bool.false_ne_true, if_neg Bool.false_ne_true]
      by_cases hcategory : s.request.category = .control
      · rw [if_pos hcategory, if_pos hcategory]
        have hothers : ∀ c, c ≠ .control → ((rt.enqueueControl s.request).noteSubmitted).queueFor c =
            rt.queueFor c := by
          intro c hc
          rw [DeviceRuntime.enqueueControl]
          cases DeviceRuntime.replaceById s.request rt.controlQueue with
          | some q => cases c with
            | control => exact absurd rfl hc
            | query | recover | config => rfl
          | none =>
              dsimp only
              split
              all_goals
                cases c with
                | control => exact absurd rfl hc
                | query | recover | config => rfl
        intro c
        by_cases hc : c = .control
        · subst hc
          rw [Function.update_self]
          exact hcontrol
        · rw [Function.update_of_ne hc, h c, hothers c hc]
      · rw [if_neg hcategory, if_neg hcategory, ← h s.request.category, List.length_map]
        by_cases hfull : rt.maxDepthFor s.request.category ≤ (queue s.request.category).length
        · rw [if_pos hfull, if_pos hfull]
          intro c
          rw [h c]
          cases c <;> rfl
        · rw [if_neg hfull, if_neg hfull]
          intro c
          by_cases hc : c = s.request.category
          · rw [hc, Function.update_self, List.map_append, h]
            cases s.request.category <;> rfl
          · rw [Function.update_of_ne hc, h c, queueFor_setQueue_of_ne hc]

omit [DecidableEq ι] in
theorem Mirrors.update {queue : Submissions ι} {rt rt' : DeviceRuntime} (h : Mirrors queue rt)
    {c : Category} {q : List (Submission ι)} (hself : rt'.queueFor c = q.map Submission.request)
    (hothers : ∀ c', c' ≠ c → rt'.queueFor c' = rt.queueFor c') :
    Mirrors (Function.update queue c q) rt' := by
  intro c'
  by_cases hc : c' = c
  · rw [hc, Function.update_self, hself]
  · rw [Function.update_of_ne hc, h c', hothers c' hc]

omit [DecidableEq ι] in
theorem Mirrors.popped {queue : Submissions ι} {rt : DeviceRuntime} (h : Mirrors queue rt)
    {c : Category} {s : Submission ι} {q : List (Submission ι)}
    (hpop : rt.popNext = some (s.request, rt.setQueue c (q.map Submission.request))) :
    rt.startSend.1 = some s.request ∧ Mirrors (Function.update queue c q) rt.startSend.2 := by
  rw [DeviceRuntime.startSend, hpop]
  refine ⟨rfl, h.update ?_ fun c' hc => ?_⟩
  · cases c <;> rfl
  · have hsame : (rt.setQueue c (q.map Submission.request)).noteSubmitted.queueFor c' =
        rt.queueFor c' := queueFor_setQueue_of_ne hc _
    rw [← hsame]
    cases c' <;> rfl

omit [DecidableEq ι] in
/-- A worker takes the request of the submission that is next. -/
theorem Mirrors.take {queue : Submissions ι} {rt : DeviceRuntime} (h : Mirrors queue rt) :
    takeNext queue = none ∧ rt.startSend = (none, rt) ∨
      ∃ s queue', takeNext queue = some (s, queue') ∧ rt.startSend.1 = some s.request ∧
        Mirrors queue' rt.startSend.2 := by
  have hcontrol : (queue .control).map Submission.request = rt.controlQueue := h .control
  have hrecover : (queue .recover).map Submission.request = rt.recoverQueue := h .recover
  have hconfig : (queue .config).map Submission.request = rt.configQueue := h .config
  have hquery : (queue .query).map Submission.request = rt.queryQueue := h .query
  simp only [takeNext, takeFrom]
  cases hc : queue .control with
  | cons s q =>
      rw [hc] at hcontrol
      exact .inr ⟨s, _, rfl, h.popped (by simp [DeviceRuntime.popNext, ← hcontrol,
        DeviceRuntime.setQueue])⟩
  | nil =>
      rw [hc] at hcontrol
      cases hr : queue .recover with
      | cons s q =>
          rw [hr] at hrecover
          exact .inr ⟨s, _, rfl, h.popped (by simp [DeviceRuntime.popNext, ← hcontrol, ← hrecover,
            DeviceRuntime.setQueue])⟩
      | nil =>
          rw [hr] at hrecover
          cases hf : queue .config with
          | cons s q =>
              rw [hf] at hconfig
              exact .inr ⟨s, _, rfl, h.popped (by simp [DeviceRuntime.popNext, ← hcontrol,
                ← hrecover, ← hconfig, DeviceRuntime.setQueue])⟩
          | nil =>
              rw [hf] at hconfig
              cases hq : queue .query with
              | cons s q =>
                  rw [hq] at hquery
                  exact .inr ⟨s, _, rfl, h.popped (by simp [DeviceRuntime.popNext, ← hcontrol,
                    ← hrecover, ← hconfig, ← hquery, DeviceRuntime.setQueue])⟩
              | nil =>
                  rw [hq] at hquery
                  exact .inl ⟨rfl, by simp [DeviceRuntime.startSend, DeviceRuntime.popNext,
                    ← hcontrol, ← hrecover, ← hconfig, ← hquery]⟩

/-- **Step**: the record follows the dispatcher. -/
theorem mirrors_step {code : κ → BusProg α} {log : SubmissionLog ι}
    {p p' : Pool busSig ι κ α WiredBus} {e : Event busSig ι κ α}
    (h : Mirrors log.queue p.shared.bus.runtime) (hs : Pool.Step code (fun b _ => b.serves) p e p') :
    Mirrors (log.note p e).queue p'.shared.bus.runtime := by
  cases hs with
  | call | ret => exact h
  | act i c op k r s' hi hserves =>
      obtain ⟨⟨hadmits, hbus⟩, -⟩ := hserves
      dsimp only
      rw [hbus]
      cases op with
      | enqueue q => exact h.submit ⟨i, log.calls i, q⟩
      | restart =>
          intro c
          cases c <;> rfl
      | pop =>
          have hrow : (log.note p (.act i .pop)).queue =
              ((takeNext log.queue).map Prod.snd).getD log.queue := by
            rw [SubmissionLog.note]
            cases takeNext log.queue <;> rfl
          rw [hrow]
          rcases h.take with ⟨hnone, hsame⟩ | ⟨s, queue', htake, -, hmirrors⟩
          · rw [hnone, Bus.after, hsame]
            exact h
          · rw [htake]
            exact hmirrors
      | stop | account =>
          intro c
          have hsame := h c
          cases c <;> exact hsame
      | _ => exact h

/-- **Run**: the recorded queues are those of the dispatcher. -/
theorem mirrors_run {code : κ → BusProg α} {ω : Type} {submissions : ω → SubmissionLog ι}
    {note : Pool busSig ι κ α WiredBus → Event busSig ι κ α → Pool busSig ι κ α WiredBus → ω → ω}
    (hnote : ∀ p e p' log, submissions (note p e p' log) = (submissions log).note p e)
    {C : Pool busSig ι κ α WiredBus × ω → Event busSig ι κ α → Prop}
    {w₀ w : Pool busSig ι κ α WiredBus × ω}
    (h₀ : Mirrors (submissions w₀.2).queue w₀.1.shared.bus.runtime)
    (hr : Reach (Recording (Pool.Step code fun b _ => b.serves) note) C w₀ w) :
    Mirrors (submissions w.2).queue w.1.shared.bus.runtime := by
  refine Reach.invariant (I := fun w : Pool busSig ι κ α WiredBus × ω =>
    Mirrors (submissions w.2).queue w.1.shared.bus.runtime) h₀ (fun w e w' h _ hs => ?_) hr
  rw [hs.2, hnote]
  exact mirrors_step h hs.1

end

end CanDriver
