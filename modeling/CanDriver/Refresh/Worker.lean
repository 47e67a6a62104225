import CanDriver.DeviceRefreshWorker
import CanDriver.Lib.Pool

/-!
# CanDriver.Refresh.Worker

The refresh worker and its owner, in any order of their steps.

`Sound` is the invariant: who is inside the mutex, when there is a thread, and that a notification
is seen before the next sleep or is about to end the present one.

* `thread_follows_calls` — no thread is ever replaced, and none is left when `stop` has returned;
* `no_wakeup_lost` — what is asleep has missed neither a notification nor the end;
* `stop_returns` — while `stop` waits, everything that can happen brings it nearer to its end.
-/

namespace CanDriver

open Interact

namespace WorkerPc

/-- Whether the worker still has to look at `notified_` before it ticks again. -/
def looks : WorkerPc → Bool
  | ticking => true
  | check => true
  | locking => true
  | predRunning => true
  | predNotified => true
  | asleep => true
  | awake _ => true
  | _ => false

/-- How many steps a worker that is to stop still takes at most. -/
def rank : WorkerPc → Nat
  | finished => 0
  | top => 1
  | check => 1
  | ticking => 2
  | unlocking => 2
  | clearing => 3
  | predRunning => 4
  | _ => 5

end WorkerPc

namespace OwnerPc

/-- How far the owner is from waking the worker; `none` if it owes it nothing. -/
def toWake : OwnerPc → Option Nat
  | locking k => if k.stops then some 3 else none
  | setting _ => some 2
  | unlocking _ => some 1
  | waking _ => some 0
  | _ => none

end OwnerPc

namespace DeviceRefreshWorker

/-- The states a worker gets into, from a new one on. -/
def Reachable (s : DeviceRefreshWorker) : Prop :=
  Reach (fun s a s' => step s a = some s') (fun _ _ => True) {} s

/-! ## the invariant -/

/-- What holds between any two acts. -/
structure Sound (s : DeviceRefreshWorker) : Prop where
  alive : s.terminated = false
  ownerHolds : s.mutex = some .owner ↔ s.owner.holds = true
  workerHolds : s.mutex = some .worker ↔ s.thread.any WorkerPc.holds = true
  create : s.owner = .create → s.running = true ∧ s.thread.isSome = false
  stopping : s.owner.stopping = true → s.running = false
  started : s.owner.stopping = false → s.owner ≠ .create → s.running = s.thread.isSome
  finished : s.thread = some .finished → s.running = false
  kept : s.thread.any WorkerPc.looks = true → s.due = true → s.notified = true
  deciding : s.thread = some .predNotified → s.running = false → s.owner.toWake = some 3
  asleep : s.thread = some .asleep → (s.due = true ∨ s.running = false) →
    s.owner.toWake.isSome = true

theorem sound_new : Sound {} := by
  constructor <;> simp [OwnerPc.holds, OwnerPc.stopping]

section

variable {s s' : DeviceRefreshWorker}

/-! ### what the next positions are -/

theorem stopping_next (k : AfterNotify) : k.next.stopping = k.stops := by
  cases k <;> rfl

theorem holds_next (k : AfterNotify) : k.next.holds = false := by
  cases k <;> rfl

theorem next_ne_create (k : AfterNotify) : k.next ≠ .create := by
  cases k <;> simp [AfterNotify.next]

@[simp] theorem holds_woken (pc : WorkerPc) : pc.woken.holds = pc.holds := by
  cases pc <;> rfl

@[simp] theorem looks_woken (pc : WorkerPc) : pc.woken.looks = pc.looks := by
  cases pc <;> rfl

theorem woken_ne_asleep (pc : WorkerPc) : pc.woken ≠ .asleep := by
  cases pc <;> simp [WorkerPc.woken]

theorem woken_eq_iff {pc pc' : WorkerPc} (h : pc' ≠ .awake false) (h' : pc' ≠ .asleep) :
    pc.woken = pc' ↔ pc = pc' := by
  cases pc <;> simp [WorkerPc.woken, h.symm, h'.symm]

/-! ### steps -/

/-- They are not both inside the mutex. -/
theorem Sound.exclusive (h : s.Sound) (hworker : s.thread.any WorkerPc.holds = true) :
    s.owner.holds = false := by
  have hmutex := h.workerHolds.2 hworker
  by_contra howner
  have hmutex' := h.ownerHolds.2 (by simpa using howner)
  simp [hmutex] at hmutex'

/-- A mutex that is free is held by nobody. -/
theorem Sound.free (h : s.Sound) (hfree : s.mutex = none) :
    s.owner.holds = false ∧ s.thread.any WorkerPc.holds = false := by
  have howner := h.ownerHolds
  have hworker := h.workerHolds
  rw [hfree] at howner hworker
  simpa using And.intro howner hworker

/-- The owner's steps keep the invariant. -/
theorem Sound.ownerStep (h : s.Sound) (hs : s.ownerStep = some s') : s'.Sound := by
  obtain ⟨running, notified, mutex, thread, owner, terminated, due⟩ := s
  cases owner with
  | idle => exact absurd hs (by simp [DeviceRefreshWorker.ownerStep])
  | create =>
      obtain ⟨hrunning, hnone⟩ := h.create rfl
      have hnone : thread = none := by simpa using hnone
      subst hnone
      obtain rfl := Option.some.inj hs
      exact
        { h with
          create := by simp
          stopping := by simp [OwnerPc.stopping]
          started := fun _ _ => hrunning
          finished := by simp
          kept := by simp [WorkerPc.looks]
          deciding := by simp
          asleep := by simp }
  | locking k =>
      simp only [DeviceRefreshWorker.ownerStep] at hs
      split at hs
      · next hfree =>
        obtain rfl := Option.some.inj hs
        obtain ⟨_, hworker⟩ := h.free hfree
        have hworker : thread.any WorkerPc.holds = false := hworker
        exact
          { h with
            ownerHolds := by simp [OwnerPc.holds]
            workerHolds := by simp [hworker]
            create := by simp
            started := fun hk _ => h.started hk (by simp)
            deciding := by
              rintro rfl
              simp [WorkerPc.holds] at hworker
            asleep := fun _ _ => rfl }
      · cases hs
  | setting k =>
      obtain rfl := Option.some.inj hs
      have hworker : thread.any WorkerPc.holds = false := by
        by_contra hholds
        simpa [OwnerPc.holds] using h.exclusive (by simpa using hholds)
      exact
        { h with
          create := by simp
          started := fun hk _ => h.started hk (by simp)
          kept := fun _ _ => rfl
          deciding := by
            rintro rfl
            simp [WorkerPc.holds] at hworker
          asleep := fun _ _ => rfl }
  | unlocking k =>
      obtain rfl := Option.some.inj hs
      have hworker : thread.any WorkerPc.holds = false := by
        by_contra hholds
        simpa [OwnerPc.holds] using h.exclusive (by simpa using hholds)
      exact
        { h with
          ownerHolds := by simp [OwnerPc.holds]
          workerHolds := by simp [hworker]
          create := by simp
          started := fun hk _ => h.started hk (by simp)
          deciding := by
            rintro rfl
            simp [WorkerPc.holds] at hworker
          asleep := fun _ _ => rfl }
  | waking k =>
      obtain rfl := Option.some.inj hs
      have hthread : ∀ pc, pc ≠ .awake false → pc ≠ .asleep → thread.map WorkerPc.woken = some pc →
          thread = some pc := by
        intro pc hne hne' hpc
        obtain ⟨pc', hpc', hwoken⟩ := Option.map_eq_some_iff.1 hpc
        rw [hpc', (woken_eq_iff hne hne').1 hwoken]
      exact
        { h with
          ownerHolds := by
            rw [holds_next]
            exact h.ownerHolds
          workerHolds := by simpa [Option.any_map, Function.comp_def] using h.workerHolds
          create := fun hcreate => absurd hcreate (next_ne_create k)
          stopping := fun hk => h.stopping ((stopping_next k).symm.trans hk)
          started := fun hk _ => by
            simpa using h.started ((stopping_next k).symm.trans hk) (by simp)
          finished := fun hpc => h.finished (hthread .finished (by simp) (by simp) hpc)
          kept := fun hlooks => h.kept (by simpa [Option.any_map, Function.comp_def] using hlooks)
          deciding := fun hpc hrunning =>
            absurd (h.deciding (hthread .predNotified (by simp) (by simp) hpc) hrunning)
              (by simp [OwnerPc.toWake])
          asleep := fun hpc => by
            obtain ⟨pc', _, hwoken⟩ := Option.map_eq_some_iff.1 hpc
            exact absurd hwoken (woken_ne_asleep pc') }
  | joining wasRunning =>
      have hrunning : running = false := h.stopping rfl
      have hend : (if thread = none ∨ thread = some .finished then some
          (⟨running, notified, mutex, none, .idle, terminated, due⟩ : DeviceRefreshWorker)
          else none) = some s' := by
        rw [← hs]
        cases thread with
        | none => simp [DeviceRefreshWorker.ownerStep]
        | some pc => simp [DeviceRefreshWorker.ownerStep]
      split at hend
      · next hover =>
        obtain rfl := Option.some.inj hend
        have hholds : thread.any WorkerPc.holds = false := by
          obtain rfl | rfl := hover <;> rfl
        exact
          { h with
            workerHolds := by simpa [hholds] using h.workerHolds
            create := by simp
            stopping := by simp [OwnerPc.stopping]
            started := fun _ _ => hrunning
            finished := by simp
            kept := by simp
            deciding := by simp
            asleep := by simp }
      · cases hend

/-- A call begins that first makes a notification. -/
theorem Sound.call (h : s.Sound) (hidle : s.owner = .idle) {k : AfterNotify} {running : Bool}
    (hstops : k.stops = true → running = false) (hback : k.stops = false → running = s.running) :
    Sound { s with running, owner := .locking k } := by
  have hstarted : s.running = s.thread.isSome := by
    refine h.started ?_ ?_ <;> simp [hidle, OwnerPc.stopping]
  have hholds : s.mutex = some .owner ↔ s.owner.holds = true := h.ownerHolds
  rw [hidle] at hholds
  exact
    { h with
      ownerHolds := hholds
      create := by simp
      stopping := hstops
      started := fun hk _ => (hback hk).trans hstarted
      finished := fun hpc => by
        cases hk : k.stops with
        | false => rw [hback hk, h.finished hpc]
        | true => exact hstops hk
      deciding := fun hpc hrunning => by
        cases hk : k.stops with
        | false =>
            have hpc : s.thread = some .predNotified := hpc
            have hrunning : running = false := hrunning
            simp [← hback hk, hrunning, hpc] at hstarted
        | true => simp [OwnerPc.toWake, hk]
      asleep := fun hpc hdue => by
        cases hk : k.stops with
        | false =>
            -- the worker of an owner outside was owed nothing
            have howed := h.asleep hpc (by rwa [← hback hk])
            simp [hidle, OwnerPc.toWake] at howed
        | true => simp [OwnerPc.toWake, hk] }

/-- A thread is asked for where there is none. -/
theorem Sound.launch (h : s.Sound) (hidle : s.owner = .idle) (hrunning : s.running = false) :
    Sound { s with running := true, owner := .create } := by
  have hstarted : s.running = s.thread.isSome := by
    refine h.started ?_ ?_ <;> simp [hidle, OwnerPc.stopping]
  have hnone : s.thread = none := by simpa [hrunning] using hstarted.symm
  have hholds : s.mutex = some .owner ↔ s.owner.holds = true := h.ownerHolds
  rw [hidle] at hholds
  exact
    { h with
      ownerHolds := hholds
      create := fun _ => ⟨rfl, by simp [hnone]⟩
      stopping := by simp [OwnerPc.stopping]
      started := by simp
      finished := by simp [hnone]
      deciding := by simp [hnone]
      asleep := by simp [hnone] }

/-- A sleep ends. -/
theorem Sound.wake (h : s.Sound) (timedOut : Bool) (hasleep : s.thread = some .asleep) :
    Sound { s with thread := some (.awake timedOut) } := by
  obtain ⟨running, notified, mutex, thread, owner, terminated, due⟩ := s
  have hasleep : thread = some .asleep := hasleep
  subst hasleep
  exact
    { h with
      finished := by simp
      deciding := by simp
      asleep := by simp }

/-- So do the worker's. -/
theorem Sound.workerStep (h : s.Sound) (hs : s.workerStep = some s') : s'.Sound := by
  obtain ⟨running, notified, mutex, thread, owner, terminated, due⟩ := s
  cases thread with
  | none => exact absurd hs (by simp [DeviceRefreshWorker.workerStep])
  | some pc =>
      cases pc with
      | top =>
          cases running with
          | true =>
              obtain rfl := Option.some.inj hs
              exact
                { h with
                  finished := by simp
                  kept := by simp
                  deciding := by simp
                  asleep := by simp }
          | false =>
              obtain rfl := Option.some.inj hs
              exact
                { h with
                  finished := fun _ => rfl
                  kept := by simp [WorkerPc.looks]
                  deciding := by simp
                  asleep := by simp }
      | ticking =>
          obtain rfl := Option.some.inj hs
          exact
            { h with
              finished := by simp
              deciding := by simp
              asleep := by simp }
      | check =>
          cases running with
          | true =>
              obtain rfl := Option.some.inj hs
              exact
                { h with
                  finished := by simp
                  deciding := by simp
                  asleep := by simp }
          | false =>
              obtain rfl := Option.some.inj hs
              exact
                { h with
                  finished := fun _ => rfl
                  kept := by simp [WorkerPc.looks]
                  deciding := by simp
                  asleep := by simp }
      | locking =>
          simp only [DeviceRefreshWorker.workerStep] at hs
          split at hs
          · next hfree =>
            obtain rfl := Option.some.inj hs
            have howner : owner.holds = false := (h.free hfree).1
            exact
              { h with
                ownerHolds := by simp [howner]
                workerHolds := by simp [WorkerPc.holds]
                finished := by simp
                deciding := by simp
                asleep := by simp }
          · cases hs
      | predRunning =>
          have howner : owner.holds = false := h.exclusive rfl
          cases running with
          | true =>
              obtain rfl := Option.some.inj hs
              exact
                { h with
                  finished := by simp
                  deciding := by simp
                  asleep := by simp }
          | false =>
              obtain rfl := Option.some.inj hs
              exact
                { h with
                  finished := by simp
                  kept := by simp [WorkerPc.looks]
                  deciding := by simp
                  asleep := by simp }
      | predNotified =>
          cases notified with
          | true =>
              obtain rfl := Option.some.inj hs
              exact
                { h with
                  finished := by simp
                  kept := by simp [WorkerPc.looks]
                  deciding := by simp
                  asleep := by simp }
          | false =>
              obtain rfl := Option.some.inj hs
              have howner : owner.holds = false := h.exclusive rfl
              exact
                { h with
                  ownerHolds := by simp [howner]
                  workerHolds := by simp [WorkerPc.holds]
                  finished := by simp
                  deciding := by simp
                  asleep := fun _ howed => by
                    -- nothing is due, so it is the end that is still to be told
                    obtain hdue | hrunning := howed
                    · exact absurd (h.kept rfl hdue) Bool.false_ne_true
                    · exact Option.isSome_of_eq_some (h.deciding rfl hrunning) }
      | asleep => exact absurd hs (by simp [DeviceRefreshWorker.workerStep])
      | awake timedOut =>
          simp only [DeviceRefreshWorker.workerStep] at hs
          split at hs
          · next hfree =>
            obtain rfl := Option.some.inj hs
            have howner : owner.holds = false := (h.free hfree).1
            cases timedOut with
            | true =>
                exact
                  { h with
                    ownerHolds := by simp [howner]
                    workerHolds := by simp [WorkerPc.holds]
                    finished := by simp
                    kept := by simp [WorkerPc.looks]
                    deciding := by simp
                    asleep := by simp }
            | false =>
                exact
                  { h with
                    ownerHolds := by simp [howner]
                    workerHolds := by simp [WorkerPc.holds]
                    finished := by simp
                    deciding := by simp
                    asleep := by simp }
          · cases hs
      | clearing =>
          obtain rfl := Option.some.inj hs
          exact
            { h with
              finished := by simp
              kept := by simp [WorkerPc.looks]
              deciding := by simp
              asleep := by simp }
      | unlocking =>
          obtain rfl := Option.some.inj hs
          have howner : owner.holds = false := h.exclusive rfl
          exact
            { h with
              ownerHolds := by simp [howner]
              workerHolds := by simp [WorkerPc.holds]
              finished := by simp
              kept := by simp [WorkerPc.looks]
              deciding := by simp
              asleep := by simp }
      | finished => exact absurd hs (by simp [DeviceRefreshWorker.workerStep])

/-- **Step**: every act keeps the invariant. -/
theorem Sound.step {a : WorkerAct} (h : s.Sound) (hs : s.step a = some s') : s'.Sound := by
  cases a with
  | start =>
      simp only [DeviceRefreshWorker.step] at hs
      split at hs
      · next hidle =>
        split at hs
        · obtain rfl := Option.some.inj hs
          exact h.call hidle (by simp [AfterNotify.stops]) fun _ => rfl
        · next hrunning =>
          obtain rfl := Option.some.inj hs
          exact h.launch hidle (by simpa using hrunning)
      · cases hs
  | stop =>
      simp only [DeviceRefreshWorker.step] at hs
      split at hs
      · next hidle =>
        obtain rfl := Option.some.inj hs
        exact h.call hidle (fun _ => rfl) (by simp [AfterNotify.stops])
      · cases hs
  | notify =>
      simp only [DeviceRefreshWorker.step] at hs
      split at hs
      · next hidle =>
        obtain rfl := Option.some.inj hs
        exact h.call hidle (by simp [AfterNotify.stops]) fun _ => rfl
      · cases hs
  | own => exact h.ownerStep hs
  | work => exact h.workerStep hs
  | wake timedOut =>
      simp only [DeviceRefreshWorker.step] at hs
      split at hs
      · next hasleep =>
        obtain rfl := Option.some.inj hs
        exact h.wake timedOut hasleep
      · cases hs

/-- **Run**: and so does every run. -/
theorem Reachable.sound (h : s.Reachable) : s.Sound :=
  Reach.invariant (I := Sound) sound_new (fun _ _ _ hsound _ hs => hsound.step hs) h

theorem Reachable.play {acts : List WorkerAct} (h : s.Reachable) (hp : s.play acts = some s') :
    s'.Reachable := by
  induction acts generalizing s with
  | nil => exact Option.some.inj hp ▸ h
  | cons a acts ih =>
      obtain ⟨s₁, hs₁, hrest⟩ := Option.bind_eq_some_iff.1 hp
      exact ih (Reach.step h (l := a) trivial hs₁) hrest

/-- A state that some acts lead to. -/
theorem exists_of_play (acts : List WorkerAct) {p : DeviceRefreshWorker → Bool}
    (hp : (play {} acts).any p = true) : ∃ s : DeviceRefreshWorker, s.Reachable ∧ p s = true := by
  simp only [Option.any_eq_true] at hp
  obtain ⟨s, hs, hp⟩ := hp
  exact ⟨s, Reachable.play (s := {}) .refl hs, hp⟩

/-! ## what every run keeps -/

/-- A tick begins at the top of the loop only, and only while the worker is running. -/
theorem running_of_tick (hs : s.workerStep = some s') (htick : s'.thread = some .ticking) :
    s.running = true := by
  grind [workerStep]

/-- The worker falls asleep only if it has looked in vain. -/
theorem unnotified_of_sleep (hs : s.workerStep = some s') (hasleep : s'.thread = some .asleep) :
    s.thread = some .predNotified ∧ s.notified = false ∧ s'.due = s.due := by
  grind [workerStep]

/-- A mutex that nobody is inside of is free. -/
theorem Sound.mutex_free (h : s.Sound) (howner : s.owner.holds = false)
    (hworker : s.thread.any WorkerPc.holds = false) : s.mutex = none := by
  cases hmutex : s.mutex with
  | none => rfl
  | some party =>
      cases party with
      | owner => simp [h.ownerHolds.1 hmutex] at howner
      | worker => simp [h.workerHolds.1 hmutex] at hworker

/-- An owner on its way to wake the worker gets nearer, and in the end wakes it. -/
theorem toWake_ownerStep {n : Nat} (hn : s.owner.toWake = some n) (hs : s.ownerStep = some s') :
    s'.thread ≠ some .asleep ∨ ∃ n', s'.owner.toWake = some n' ∧ n' < n := by
  cases howner : s.owner with
  | locking k =>
      simp only [ownerStep, howner] at hs
      split at hs
      · obtain rfl := Option.some.inj hs
        simp only [howner, OwnerPc.toWake] at hn
        split at hn
        · exact .inr ⟨2, rfl, by simp [← Option.some.inj hn]⟩
        · cases hn
      · cases hs
  | setting k =>
      simp only [ownerStep, howner] at hs
      obtain rfl := Option.some.inj hs
      simp only [howner, OwnerPc.toWake] at hn
      exact .inr ⟨1, rfl, by simp [← Option.some.inj hn]⟩
  | unlocking k =>
      simp only [ownerStep, howner] at hs
      obtain rfl := Option.some.inj hs
      simp only [howner, OwnerPc.toWake] at hn
      exact .inr ⟨0, rfl, by simp [← Option.some.inj hn]⟩
  | waking k =>
      simp only [ownerStep, howner] at hs
      obtain rfl := Option.some.inj hs
      refine .inl fun hasleep => ?_
      obtain ⟨pc, _, hwoken⟩ := Option.map_eq_some_iff.1 hasleep
      exact woken_ne_asleep pc hwoken
  | _ => simp [howner, OwnerPc.toWake] at hn

/-- **Threads**: `start` never assigns a thread over one that is still there; outside of the calls
there is a thread exactly while the worker is running, so none is left when `stop` has returned;
and from its first step on, no tick begins in `stop`. -/
theorem thread_follows_calls (h : s.Reachable) :
    s.terminated = false ∧ (s.owner = .idle → s.thread.isSome = s.running) ∧
      (s.owner.stopping = true → ∀ s', s.step .work = some s' → s'.thread ≠ some .ticking) := by
  have hsound := h.sound
  refine ⟨hsound.alive, fun hidle => ?_, fun hstopping s' hs htick => ?_⟩
  · refine (hsound.started ?_ ?_).symm <;> simp [hidle, OwnerPc.stopping]
  · have hrunning := running_of_tick hs htick
    simp [hsound.stopping hstopping] at hrunning

theorem thread_follows_calls_restarted :
    ∃ s : DeviceRefreshWorker, s.Reachable ∧ s.owner = .idle ∧ s.running = true ∧
      s.terminated = false ∧ (s.owner = .idle → s.thread.isSome = s.running) := by
  obtain ⟨s, hreachable, hp⟩ := exists_of_play [.start, .own, .work, .stop, .own, .own,
    .own, .own, .work, .work, .own, .start, .own]
    (p := fun s => decide (s.owner = .idle ∧ s.running = true)) (by decide)
  obtain ⟨hidle, hrunning⟩ := of_decide_eq_true hp
  obtain ⟨halive, hstarted, -⟩ := thread_follows_calls hreachable
  exact ⟨s, hreachable, hidle, hrunning, halive, hstarted⟩

/-- **Wake-ups**: the worker never falls asleep on a notification made since its last tick began;
and if it is asleep when there is one, or when it is to stop, then the call that says so is still
under way, and whatever can happen ends the sleep or brings that call nearer to doing so. -/
theorem no_wakeup_lost (h : s.Reachable) :
    (∀ s', s.step .work = some s' → s'.thread = some .asleep → s'.due = false) ∧
      (s.thread = some .asleep → (s.due = true ∨ s.running = false) →
        ∃ n, s.owner.toWake = some n ∧ (s.step .own).isSome = true ∧
          ∀ a s', s.step a = some s' → s'.thread ≠ some .asleep ∨
            ∃ n', s'.owner.toWake = some n' ∧ n' < n) := by
  have hsound := h.sound
  refine ⟨fun s' hs hasleep => ?_, fun hasleep howed => ?_⟩
  · obtain ⟨hpc, hnotified, hdue⟩ := unnotified_of_sleep hs hasleep
    rw [hdue]
    by_contra hc
    have hkept := hsound.kept (by simp [hpc, WorkerPc.looks]) (by simpa using hc)
    simp [hnotified] at hkept
  · obtain ⟨n, hn⟩ := Option.isSome_iff_exists.1 (hsound.asleep hasleep howed)
    have hfree := hsound.mutex_free
    refine ⟨n, hn, ?_, fun a s' hs => ?_⟩
    · rw [step, ownerStep]
      cases howner : s.owner with
      | locking k =>
          rw [howner, hasleep] at hfree
          simp [hfree rfl rfl]
      | setting k => rfl
      | unlocking k => rfl
      | waking k => rfl
      | _ => simp [howner, OwnerPc.toWake] at hn
    · have hbusy : s.owner ≠ .idle := by
        intro hidle
        simp [hidle, OwnerPc.toWake] at hn
      cases a with
      | own => exact toWake_ownerStep hn hs
      | work => simp [step, workerStep, hasleep] at hs
      | wake timedOut =>
          simp only [step, if_pos hasleep, Option.some.injEq] at hs
          exact .inl (by simp [← hs])
      | _ => simp [step, hbusy] at hs

theorem no_wakeup_lost_notified :
    ∃ s : DeviceRefreshWorker, s.thread = some .asleep ∧ s.due = true ∧
      (s.step .own).isSome = true := by
  obtain ⟨s, hreachable, hp⟩ := exists_of_play [.start, .own, .work, .work, .work, .work,
    .work, .work, .notify, .own, .own]
    (p := fun s => decide (s.thread = some .asleep ∧ s.due = true)) (by decide)
  obtain ⟨hasleep, hdue⟩ := of_decide_eq_true hp
  obtain ⟨n, -, hown, -⟩ := (no_wakeup_lost hreachable).2 hasleep (.inl hdue)
  exact ⟨s, hasleep, hdue, hown⟩

/-! ## the end of `stop` -/

/-- How many steps the worker still takes at most if it is to stop. -/
def rank (s : DeviceRefreshWorker) : Nat := s.thread.elim 0 WorkerPc.rank

/-- **Step**: while `stop` waits for the worker, each act is the end of the wait, or one less on
the way of the worker. -/
theorem join_step {wasRunning : Bool} {a : WorkerAct} (h : s.Sound)
    (hjoin : s.owner = .joining wasRunning) (hs : s.step a = some s') :
    (s'.owner = .idle ∧ s'.thread = none) ∨
      (s'.owner = .joining wasRunning ∧ s'.rank < s.rank) := by
  have hrunning : s.running = false := h.stopping (by rw [hjoin]; rfl)
  have hawake : s.thread ≠ some .asleep := by
    intro hasleep
    simpa [hjoin, OwnerPc.toWake] using h.asleep hasleep (.inr hrunning)
  have hlooked : s.thread ≠ some .predNotified := by
    intro hpc
    simpa [hjoin, OwnerPc.toWake] using h.deciding hpc hrunning
  cases a with
  | own =>
      refine .inl ?_
      simp only [step, ownerStep, hjoin] at hs
      cases hpc : s.thread with
      | none =>
          simp only [hpc, Option.isNone_none, Bool.and_true, ite_self, Option.some.injEq] at hs
          exact ⟨by simp [← hs], by simp [← hs]⟩
      | some pc =>
          simp only [hpc, Option.isNone_some, Bool.and_false, Bool.false_eq_true, if_false] at hs
          split at hs
          · obtain rfl := Option.some.inj hs
            exact ⟨rfl, rfl⟩
          · cases hs
  | work =>
      refine .inr ?_
      simp only [step] at hs
      cases hpc : s.thread with
      | none => simp [workerStep, hpc] at hs
      | some pc =>
          rw [rank, rank, hpc]
          cases pc <;> grind [workerStep, WorkerPc.rank]
  | wake timedOut => simp [step, hawake] at hs
  | _ => simp [step, hjoin] at hs

/-- The wait is never stuck. -/
theorem join_enabled {wasRunning : Bool} (h : s.Sound) (hjoin : s.owner = .joining wasRunning) :
    ∃ a, (s.step a).isSome = true := by
  cases hpc : s.thread with
  | none => exact ⟨.own, by simp [step, ownerStep, hjoin, hpc]⟩
  | some pc =>
      have hfree : pc.holds = false → s.mutex = none := fun hholds =>
        h.mutex_free (by rw [hjoin]; rfl) (by simpa [hpc] using hholds)
      cases pc with
      | finished => exact ⟨.own, by simp [step, ownerStep, hjoin, hpc]⟩
      | asleep => exact ⟨.wake true, by simp [step, hpc]⟩
      | locking => exact ⟨.work, by simp [step, workerStep, hpc, hfree rfl]⟩
      | awake timedOut => exact ⟨.work, by simp [step, workerStep, hpc, hfree rfl]⟩
      | top =>
          refine ⟨.work, ?_⟩
          simp only [step, workerStep, hpc]
          split <;> rfl
      | predNotified =>
          refine ⟨.work, ?_⟩
          simp only [step, workerStep, hpc]
          split <;> rfl
      | _ => exact ⟨.work, by simp [step, workerStep, hpc]⟩

/-- **Stop**: a call of `stop` that waits for the worker is never stuck, and after a handful of
acts of whoever may act it has returned, and there is no thread. -/
theorem stop_returns {wasRunning : Bool} (h : s.Reachable) (hjoin : s.owner = .joining wasRunning) :
    (∃ a, (s.step a).isSome = true) ∧ s.rank ≤ 5 ∧
      ∀ acts s', s.play acts = some s' → s.rank < acts.length →
        ∃ acts' s'', acts' <+: acts ∧ s.play acts' = some s'' ∧ s''.owner = .idle ∧
          s''.thread = none := by
  have hbound : s.rank ≤ 5 := by
    rw [rank]
    cases s.thread with
    | none => exact Nat.zero_le _
    | some pc => cases pc <;> simp [WorkerPc.rank]
  refine ⟨join_enabled h.sound hjoin, hbound, fun acts s' hplay hlength => ?_⟩
  induction acts generalizing s with
  | nil => simp at hlength
  | cons a acts ih =>
      obtain ⟨s₁, hs₁, hrest⟩ := Option.bind_eq_some_iff.1 hplay
      obtain ⟨hidle, hnone⟩ | ⟨hjoin₁, hless⟩ := join_step h.sound hjoin hs₁
      · exact ⟨[a], s₁, by simp, by simp [play, hs₁], hidle, hnone⟩
      · have hreach : s₁.Reachable := Reach.step h (l := a) trivial hs₁
        have hlength₁ : s₁.rank < acts.length := by
          rw [List.length_cons] at hlength
          omega
        obtain ⟨acts', s'', hprefix, hplay', hend⟩ := ih hreach hjoin₁ (by omega) hrest hlength₁
        exact ⟨a :: acts', s'', by simpa using hprefix, by simpa [play, hs₁] using hplay', hend⟩

theorem stop_returns_sleeping :
    ∃ s : DeviceRefreshWorker, s.owner = .joining true ∧ s.thread = some (.awake false) ∧
      (∃ a, (s.step a).isSome = true) ∧ s.rank ≤ 5 := by
  obtain ⟨s, hreachable, hp⟩ := exists_of_play [.start, .own, .work, .work, .work, .work,
    .work, .work, .stop, .own, .own, .own, .own]
    (p := fun s => decide (s.owner = .joining true ∧ s.thread = some (.awake false))) (by decide)
  obtain ⟨hjoin, hawake⟩ := of_decide_eq_true hp
  obtain ⟨henabled, hbound, -⟩ := stop_returns hreachable hjoin
  exact ⟨s, hjoin, hawake, henabled, hbound⟩

end

end DeviceRefreshWorker

end CanDriver
