import CanDriver.SharedDriverState

/-!
# CanDriver.AxisIdentity.Records

What the operations on one axis do to the records of the others: nothing.

The three records of an axis are kept under one text, which determines device, protocol
and motor id whatever the device is called.
-/

namespace CanDriver

variable {s s' : SharedDriverState} {key : AxisKey}

/-! ## operations on an axis -/

/-- The operations that write the records of one axis. -/
inductive RecordCall where
  | registerAxis (key : AxisKey)
  | mutateAxisFeedback (key : AxisKey) (fn : AxisFeedbackState → AxisFeedbackState)
  | mutateAxisCommand (key : AxisKey) (fn : AxisCommandState → AxisCommandState)
  | setAxisIntent (key : AxisKey) (intent : AxisIntent)

namespace RecordCall

/-- The axis an operation is given. -/
def axis : RecordCall → AxisKey
  | registerAxis key => key
  | mutateAxisFeedback key _ => key
  | mutateAxisCommand key _ => key
  | setAxisIntent key _ => key

/-- One operation. -/
def run (s : SharedDriverState) : RecordCall → SharedDriverState
  | registerAxis key => s.registerAxis key
  | mutateAxisFeedback key fn => s.mutateAxisFeedback key fn
  | mutateAxisCommand key fn => s.mutateAxisCommand key fn
  | setAxisIntent key intent => s.setAxisIntent key intent

/-- One operation after the other. -/
def runAll (s : SharedDriverState) (calls : List RecordCall) : SharedDriverState :=
  calls.foldl run s

@[simp] theorem runAll_nil : runAll s [] = s := rfl

@[simp] theorem runAll_cons (call : RecordCall) (calls : List RecordCall) :
    runAll s (call :: calls) = runAll (call.run s) calls := rfl

theorem runAll_append (calls calls' : List RecordCall) :
    runAll s (calls ++ calls') = runAll (runAll s calls) calls' :=
  List.foldl_append

end RecordCall

/-! ## the records of an axis -/

/-- The three records of an axis, as far as they exist. -/
structure AxisRecords where
  feedback : Option AxisFeedbackState
  command : Option AxisCommandState
  intent : Option AxisIntent
deriving DecidableEq

/-- What is kept under the text of a key. -/
def SharedDriverState.recordsOf (s : SharedDriverState) (key : AxisKey) : AxisRecords where
  feedback := s.axisFeedback (axisMapKey key)
  command := s.axisCommands (axisMapKey key)
  intent := s.axisIntents (axisMapKey key)

/-- **Frame**: an operation leaves the records of the other axes as they are. -/
theorem RecordCall.recordsOf_run_of_ne {call : RecordCall} (h : key ≠ call.axis) :
    (call.run s).recordsOf key = s.recordsOf key := by
  have hk : axisMapKey key ≠ axisMapKey call.axis := fun he => h (axisMapKey_injective he)
  cases call with
  | registerAxis k =>
      simp only [axis] at hk
      simp [SharedDriverState.recordsOf, run, SharedDriverState.registerAxis,
        SharedDriverState.touchAxis, put_of_ne _ _ hk]
  | mutateAxisFeedback k fn =>
      simp only [axis] at hk
      simp [SharedDriverState.recordsOf, run, SharedDriverState.mutateAxisFeedback,
        SharedDriverState.touchAxis, put_of_ne _ _ hk]
  | mutateAxisCommand k fn =>
      simp only [axis] at hk
      simp [SharedDriverState.recordsOf, run, SharedDriverState.mutateAxisCommand,
        SharedDriverState.touchAxis, put_of_ne _ _ hk]
  | setAxisIntent k intent =>
      simp only [axis] at hk
      simp [SharedDriverState.recordsOf, run, SharedDriverState.setAxisIntent,
        SharedDriverState.touchAxis, put_of_ne _ _ hk]

/-- What an operation writes into the records of its own axis depends on these only. -/
theorem RecordCall.recordsOf_run_self {call : RecordCall}
    (h : s.recordsOf call.axis = s'.recordsOf call.axis) :
    (call.run s).recordsOf call.axis = (call.run s').recordsOf call.axis := by
  simp only [SharedDriverState.recordsOf, AxisRecords.mk.injEq] at h
  obtain ⟨hfeedback, hcommand, hintent⟩ := h
  cases call with
  | registerAxis k =>
      simp only [axis] at hfeedback hcommand hintent
      simp [SharedDriverState.recordsOf, run, axis, SharedDriverState.registerAxis,
        SharedDriverState.touchAxis, hfeedback, hcommand, hintent]
  | mutateAxisFeedback k fn =>
      simp only [axis] at hfeedback hcommand hintent
      simp [SharedDriverState.recordsOf, run, axis, SharedDriverState.mutateAxisFeedback,
        SharedDriverState.touchAxis, hfeedback, hcommand, hintent]
  | mutateAxisCommand k fn =>
      simp only [axis] at hfeedback hcommand hintent
      simp [SharedDriverState.recordsOf, run, axis, SharedDriverState.mutateAxisCommand,
        SharedDriverState.touchAxis, hfeedback, hcommand, hintent]
  | setAxisIntent k intent =>
      simp only [axis] at hfeedback hcommand hintent
      simp [SharedDriverState.recordsOf, run, axis, SharedDriverState.setAxisIntent,
        SharedDriverState.touchAxis, hfeedback, hcommand, hintent]

/-- **Run**: the records of an axis are what its own operations make of them. -/
theorem RecordCall.recordsOf_runAll (calls : List RecordCall)
    (h : s.recordsOf key = s'.recordsOf key) :
    (runAll s calls).recordsOf key =
      (runAll s' (calls.filter fun call => call.axis = key)).recordsOf key := by
  induction calls generalizing s s' with
  | nil => exact h
  | cons call calls ih =>
      by_cases haxis : call.axis = key
      · subst haxis
        rw [List.filter_cons_of_pos (by simp), runAll_cons, runAll_cons]
        exact ih (recordsOf_run_self h)
      · rw [List.filter_cons_of_neg (by simpa using haxis), runAll_cons]
        exact ih ((recordsOf_run_of_ne (Ne.symm haxis)).trans h)

/-- Axes do not share records: their keys have different texts, so whatever is done to one
axis, at any point of any sequence of operations, leaves the records of every other axis as
they are; and these are what the operations on that other axis alone would have made. -/
theorem axisRecords_isolated :
    Function.Injective axisMapKey ∧
      ∀ (s : SharedDriverState) (calls : List RecordCall) (key : AxisKey),
        (∀ call : RecordCall, call.axis ≠ key →
          (RecordCall.runAll s (calls ++ [call])).recordsOf key =
            (RecordCall.runAll s calls).recordsOf key) ∧
        (RecordCall.runAll s calls).recordsOf key =
          (RecordCall.runAll s (calls.filter fun call => call.axis = key)).recordsOf key := by
  refine ⟨fun _ _ h => axisMapKey_injective h, fun s calls key => ⟨fun call haxis => ?_, ?_⟩⟩
  · rw [RecordCall.runAll_append]
    exact RecordCall.recordsOf_run_of_ne (Ne.symm haxis)
  · exact RecordCall.recordsOf_runAll calls rfl

/-- Two axes whose devices are named with the separator in them. -/
theorem axisRecords_isolated_separators :
    (RecordCall.runAll {} [.registerAxis ⟨"can0", .PP, 1⟩,
      .setAxisIntent ⟨"can0|pp|1", .PP, 1⟩ .run]).recordsOf ⟨"can0", .PP, 1⟩ =
    (RecordCall.runAll {} [.registerAxis ⟨"can0", .PP, 1⟩]).recordsOf ⟨"can0", .PP, 1⟩ :=
  (axisRecords_isolated.2 {} [.registerAxis ⟨"can0", .PP, 1⟩] ⟨"can0", .PP, 1⟩).1
    (.setAxisIntent ⟨"can0|pp|1", .PP, 1⟩ .run) (by decide)

end CanDriver
