import CanDriver.Lib.Pool

/-!
# CanDriver.Lib.Ticket

One ticket for a mark.

Threads hand a thing on: whoever marks it may put one ticket into a queue, whoever takes the
ticket out may clear the mark.  `Ticket` says that there is at most one ticket, in the queue or
in the hands of one thread, and none without the mark.  Each move of the game keeps it, as long
as nobody but the holder clears the mark.
-/

namespace Interact

variable {ι : Type}

/-- At most one ticket: `waiting` of them in the queue, and those of the threads that `holds`. -/
structure Ticket (marked : Prop) (waiting : Nat) (holds : ι → Prop) : Prop where
  unmarked : ¬marked → waiting = 0 ∧ ∀ i, ¬holds i
  one : waiting ≤ 1
  holder : ∀ i, holds i → waiting = 0
  unique : ∀ i j, holds i → holds j → i = j

namespace Ticket

variable {marked marked' : Prop} {waiting : Nat} {holds holds' : ι → Prop} {i : ι}

/-- Nothing is marked and there is no ticket. -/
theorem none : Ticket marked 0 fun _ : ι => False where
  unmarked _ := ⟨rfl, fun _ h => h⟩
  one := Nat.zero_le _
  holder _ h := h.elim
  unique _ _ h := h.elim

/-- A mark may be set, and a ticket may be lost. -/
theorem mono (h : Ticket marked waiting holds) (hm : marked → marked')
    (hh : ∀ j, holds' j → holds j) : Ticket marked' waiting holds' where
  unmarked hm' := ⟨(h.unmarked fun m => hm' (hm m)).1,
    fun j hj => (h.unmarked fun m => hm' (hm m)).2 j (hh j hj)⟩
  one := h.one
  holder j hj := h.holder j (hh j hj)
  unique j j' hj hj' := h.unique j j' (hh j hj) (hh j' hj')

/-- **Claim**: who sets the mark gets the ticket. -/
theorem claim (h : Ticket marked waiting holds) (hm : ¬marked) (hm' : marked')
    (hh : ∀ j, holds' j → holds j ∨ j = i) : Ticket marked' waiting holds' := by
  obtain ⟨hwaiting, hnobody⟩ := h.unmarked hm
  have honly : ∀ j, holds' j → j = i := fun j hj => (hh j hj).resolve_left (hnobody j)
  exact ⟨fun hn => absurd hm' hn, h.one, fun _ _ => hwaiting,
    fun j j' hj hj' => (honly j hj).trans (honly j' hj').symm⟩

/-- **Submit**: the holder puts the ticket into the queue. -/
theorem submit (h : Ticket marked waiting holds) (hi : holds i)
    (hh : ∀ j, holds' j → holds j ∧ j ≠ i) : Ticket marked (waiting + 1) holds' := by
  have hnobody : ∀ j, ¬holds' j := fun j hj => (hh j hj).2 (h.unique j i (hh j hj).1 hi)
  have hwaiting := h.holder i hi
  refine ⟨fun hm => absurd hi ((h.unmarked hm).2 i), by omega, fun j hj => ?_, fun j _ hj => ?_⟩
  · exact absurd hj (hnobody j)
  · exact absurd hj (hnobody j)

/-- **Take**: the ticket comes out of the queue. -/
theorem take (h : Ticket marked (waiting + 1) holds)
    (hh : ∀ j, holds' j → holds j ∨ j = i) : Ticket marked waiting holds' := by
  have hwaiting : waiting = 0 := by
    have := h.one
    omega
  have honly : ∀ j, holds' j → j = i := by
    intro j hj
    refine (hh j hj).resolve_left fun hj => ?_
    have := h.holder j hj
    omega
  refine ⟨fun hm => ?_, by omega, fun _ _ => hwaiting,
    fun j j' hj hj' => (honly j hj).trans (honly j' hj').symm⟩
  have := (h.unmarked hm).1
  omega

/-- **Settle**: the holder gives the ticket up, and may clear the mark. -/
theorem settle (h : Ticket marked waiting holds) (hi : holds i)
    (hh : ∀ j, holds' j → holds j ∧ j ≠ i) : Ticket marked' waiting holds' := by
  have hnobody : ∀ j, ¬holds' j := fun j hj => (hh j hj).2 (h.unique j i (hh j hj).1 hi)
  exact ⟨fun _ => ⟨h.holder i hi, hnobody⟩, h.one, fun j hj => absurd hj (hnobody j),
    fun j _ hj => absurd hj (hnobody j)⟩

end Ticket

end Interact
