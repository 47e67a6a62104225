import Mathlib.Data.Option.Basic

/-!
# CanDriver.Lib.Watchdog

A register whose value has to be renewed in time.

A value is set with a stamp; it is dropped on demand, and forgotten when it is looked at and
found too old.  `WatchdogEvent.apply` is the register, one event at a time;
`registered_eq_some_iff` says what it holds in terms of its history alone.
-/

namespace Interact

variable {α τ : Type}

/-- What happens to a register: a value is set with a stamp, the value is dropped, or its age is
checked. -/
inductive WatchdogEvent (α τ : Type) where
  | set (a : α) (stamp : τ)
  | drop
  | check (now : τ)
deriving DecidableEq

/-- The register after an event; `fresh now stamp` says whether a value still counts. -/
def WatchdogEvent.apply (fresh : τ → τ → Bool) : WatchdogEvent α τ → Option (α × τ) →
    Option (α × τ)
  | .set a stamp, _ => some (a, stamp)
  | .drop, _ => none
  | .check now, held => held.filter fun value => fresh now value.2

/-- The register after a history, newest event first. -/
def registered (fresh : τ → τ → Bool) : List (WatchdogEvent α τ) → Option (α × τ)
  | [] => none
  | event :: events => event.apply fresh (registered fresh events)

/-- Whether an event leaves a value with that stamp in place. -/
def WatchdogEvent.Spares (fresh : τ → τ → Bool) (stamp : τ) (event : WatchdogEvent α τ) : Prop :=
  ∃ now, event = .check now ∧ fresh now stamp = true

/-- **History**: the register holds the value that was set last, if nothing has happened since
but checks that it passed. -/
theorem registered_eq_some_iff {fresh : τ → τ → Bool} {events : List (WatchdogEvent α τ)} {a : α}
    {stamp : τ} :
    registered fresh events = some (a, stamp) ↔ ∃ newer older,
      events = newer ++ .set a stamp :: older ∧
        ∀ event ∈ newer, event.Spares fresh stamp := by
  constructor
  · intro h
    induction events with
    | nil => cases h
    | cons event events ih =>
        rw [registered] at h
        cases event with
        | set b t =>
            obtain ⟨rfl, rfl⟩ := Prod.mk.inj (Option.some.inj h)
            exact ⟨[], events, rfl, by simp⟩
        | drop => cases h
        | check now =>
            obtain ⟨hheld, hfresh⟩ := Option.filter_eq_some_iff.1 h
            obtain ⟨newer, older, rfl, hspared⟩ := ih hheld
            refine ⟨.check now :: newer, older, rfl, ?_⟩
            rw [List.forall_mem_cons]
            exact ⟨⟨now, rfl, hfresh⟩, hspared⟩
  · rintro ⟨newer, older, rfl, hspared⟩
    induction newer with
    | nil => rfl
    | cons event newer ih =>
        rw [List.forall_mem_cons] at hspared
        obtain ⟨⟨now, rfl, hfresh⟩, hspared⟩ := hspared
        rw [List.cons_append, registered, ih hspared, WatchdogEvent.apply]
        exact Option.filter_some_pos hfresh

end Interact
