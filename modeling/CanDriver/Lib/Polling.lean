import Mathlib.Data.Fintype.Card
import Mathlib.Data.List.Nodup
import Mathlib.Data.Finset.Basic

/-!
# CanDriver.Lib.Polling

Pollers that ask one thing at a time.

In every round a poller asks one of the things that are due, and stamps it with
the time of the round; what has been stamped rests for a while before it is due
again.  A stamp of `0` says that the thing has never been asked.

* `Polls.split` — a run is a run of its parts;
* `Polls.nodup_asked` — rounds that fall within the rest ask nothing twice;
* `Polls.asked_of_staysDue` — so in as many rounds as there are things, whatever
  stays due is asked;
* `Polls.within_of_asked` — and a poller with a favourite only manages to ask
  everything in so few rounds if they fall within the favourite's rest.
-/

namespace Interact

/-- One round of a poller: when and in what circumstances, what is due, what is
asked. -/
structure Round (κ τ : Type) where
  time : Int
  info : τ
  due : List κ
  asked : Option κ
deriving DecidableEq, Repr

namespace Round

variable {κ τ : Type} [DecidableEq κ]

/-- The stamps after a round. -/
def stamp (v : Round κ τ) (last : κ → Int) : κ → Int :=
  match v.asked with
  | none => last
  | some k => Function.update last k v.time

theorem stamp_of_asked {v : Round κ τ} (h : v.asked = some k) (last : κ → Int) :
    v.stamp last k = v.time := by
  simp [stamp, h]

theorem stamp_of_not_asked {v : Round κ τ} (h : v.asked ≠ some k) (last : κ → Int) :
    v.stamp last k = last k := by
  cases hasked : v.asked with
  | none => simp [stamp, hasked]
  | some k' =>
      have hne : k ≠ k' := fun he => h (he ▸ hasked)
      simp [stamp, hasked, hne]

end Round

/-- A run of a poller whose rounds obey `R`, from one set of stamps to another. -/
inductive Polls {κ τ : Type} [DecidableEq κ] (R : (κ → Int) → Round κ τ → Prop) :
    (κ → Int) → List (Round κ τ) → (κ → Int) → Prop
  | nil (last : κ → Int) : Polls R last [] last
  | cons (v : Round κ τ) (log : List (Round κ τ)) (last last' : κ → Int) (hv : R last v)
      (hlog : Polls R (v.stamp last) log last') : Polls R last (v :: log) last'

/-- What is asked in a round was due, something is asked if anything is due, and what
is due has rested for `T`. -/
structure Rests {κ τ : Type} (T : Int) (R : (κ → Int) → Round κ τ → Prop) : Prop where
  pos : ∀ last v, R last v → 0 < v.time
  past : ∀ last v, R last v → ∀ k, last k ≤ v.time
  busy : ∀ last v, R last v → v.due ≠ [] → v.asked ≠ none
  asked : ∀ last v, R last v → ∀ k, v.asked = some k → k ∈ v.due
  rested : ∀ last v, R last v → ∀ k ∈ v.due, last k ≠ 0 → T ≤ v.time - last k

theorem Rests.mono {κ τ : Type} {T : Int} {R R' : (κ → Int) → Round κ τ → Prop} (h : Rests T R)
    (hR : ∀ last v, R' last v → R last v) : Rests T R' :=
  ⟨fun last v hv => h.pos last v (hR last v hv), fun last v hv => h.past last v (hR last v hv),
    fun last v hv => h.busy last v (hR last v hv), fun last v hv => h.asked last v (hR last v hv),
    fun last v hv => h.rested last v (hR last v hv)⟩

/-- `a` is asked whenever it is due, and is due once it has rested for `T`; `z` is asked
only when nothing else is due. -/
structure Favours {κ τ : Type} (T : Int) (a z : κ) (R : (κ → Int) → Round κ τ → Prop) :
    Prop where
  favourite : ∀ last v, R last v → a ∈ v.due → v.asked = some a
  again : ∀ last v, R last v → a ∉ v.due → v.time - last a < T
  lastly : ∀ last v, R last v → v.asked = some z → ∀ k ∈ v.due, k = z

/-- `k` is due in every round of the window until it is asked. -/
def StaysDue {κ τ : Type} (k : κ) (window : List (Round κ τ)) : Prop :=
  ∀ before v after, window = before ++ v :: after → (∀ u ∈ before, u.asked ≠ some k) → k ∈ v.due

/-- `k` is asked within the window. -/
def AskedIn {κ τ : Type} (k : κ) (window : List (Round κ τ)) : Prop := ∃ v ∈ window, v.asked = some k

/-- All rounds of the window fall within less than `T`. -/
def Within {κ τ : Type} (T : Int) (window : List (Round κ τ)) : Prop :=
  ∀ v ∈ window, ∀ w ∈ window, w.time - v.time < T

theorem StaysDue.of_append {κ τ : Type} {k : κ} {xs ys : List (Round κ τ)}
    (h : StaysDue k (xs ++ ys)) : StaysDue k xs := by
  rintro before v after rfl
  exact h before v (after ++ ys) (by simp)

namespace Polls

variable {κ τ : Type} [DecidableEq κ] {R : (κ → Int) → Round κ τ → Prop} {T : Int}
  {last last' : κ → Int} {log xs ys window : List (Round κ τ)} {k : κ}

theorem append (h : Polls R last xs m) (h' : Polls R m ys last') :
    Polls R last (xs ++ ys) last' := by
  induction h with
  | nil last => exact h'
  | cons v log last m hv hlog ih => exact .cons v _ last last' hv (ih h')

/-- **Split**: a run of two parts is a run of each, one after the other. -/
theorem split (h : Polls R last (xs ++ ys) last') :
    ∃ m, Polls R last xs m ∧ Polls R m ys last' := by
  induction xs generalizing last with
  | nil => exact ⟨last, .nil last, h⟩
  | cons v xs ih =>
      cases h with
      | cons _ _ _ _ hv hlog =>
          obtain ⟨m, hxs, hys⟩ := ih hlog
          exact ⟨m, .cons v xs last m hv hxs, hys⟩

/-- A window of a run is a run. -/
theorem of_between (h : Polls R last log last') (hw : window <:+: log) :
    ∃ m m', Polls R m window m' := by
  obtain ⟨before, after, rfl⟩ := hw
  obtain ⟨m', hm', _⟩ := h.split
  obtain ⟨m, _, hm⟩ := hm'.split
  exact ⟨m, m', hm⟩

/-- A run whose rounds have something else in common. -/
theorem and {C : Round κ τ → Prop} (h : Polls R last log last') (hC : ∀ v ∈ log, C v) :
    Polls (fun last v => R last v ∧ C v) last log last' := by
  induction h with
  | nil last => exact .nil last
  | cons v log last last' hv hlog ih =>
      exact .cons v log last last' ⟨hv, hC v (.head _)⟩ (ih fun u hu => hC u (.tail _ hu))

/-- What is not asked keeps its stamp. -/
theorem stamp_eq (h : Polls R last log last') (hk : ¬ AskedIn k log) : last' k = last k := by
  induction h with
  | nil last => rfl
  | cons v log last last' hv hlog ih =>
      rw [ih fun ⟨u, hu, hk'⟩ => hk ⟨u, .tail _ hu, hk'⟩]
      exact Round.stamp_of_not_asked (fun hv' => hk ⟨v, .head _, hv'⟩) last

/-- Whatever is asked again has rested since it was stamped. -/
theorem rested (hR : Rests T R) (h : Polls R last log last') (hk : last k ≠ 0)
    (hv : v ∈ log) (hasked : v.asked = some k) : ∃ u ∈ log, T ≤ u.time - last k := by
  induction h with
  | nil last => simp at hv
  | cons u log last last' hu hlog ih =>
      by_cases huk : u.asked = some k
      · exact ⟨u, .head _, hR.rested _ _ hu k (hR.asked _ _ hu k huk) hk⟩
      · have hlast := Round.stamp_of_not_asked huk last
        rcases List.mem_cons.1 hv with rfl | hv
        · exact absurd hasked huk
        · obtain ⟨w, hw, hrest⟩ := ih (hlast ▸ hk) hv
          exact ⟨w, .tail _ hw, hlast ▸ hrest⟩

/-- Rounds within less than the rest ask nothing twice. -/
theorem nodup_asked (hR : Rests T R) (h : Polls R last window last') (hT : Within T window) :
    (window.filterMap Round.asked).Nodup := by
  induction h with
  | nil last => simp
  | cons v log last last' hv hlog ih =>
      have htail := ih fun u hu w hw => hT u (.tail _ hu) w (.tail _ hw)
      cases hasked : v.asked with
      | none => rwa [List.filterMap_cons_none hasked]
      | some k =>
          rw [List.filterMap_cons_some hasked, List.nodup_cons]
          refine ⟨fun hmem => ?_, htail⟩
          obtain ⟨u, hu, huk⟩ := List.mem_filterMap.1 hmem
          have hstamp := Round.stamp_of_asked hasked last
          have hpos := hR.pos _ _ hv
          obtain ⟨w, hw, hrest⟩ := hlog.rested hR (k := k) (by omega) hu huk
          have := hT v (.head _) w (.tail _ hw)
          omega

/-- While something stays due and is not asked, every round asks something. -/
theorem exists_asked (hR : Rests T R) (h : Polls R last window last') (hdue : StaysDue k window)
    (hk : ¬ AskedIn k window) (hv : v ∈ window) : ∃ k', v.asked = some k' := by
  obtain ⟨before, after, rfl⟩ := List.append_of_mem hv
  obtain ⟨m, _, hafter⟩ := h.split
  have hmem : k ∈ v.due :=
    hdue before v after rfl fun u hu huk => hk ⟨u, List.mem_append_left _ hu, huk⟩
  cases hafter with
  | cons _ _ _ _ hvm _ =>
      exact Option.ne_none_iff_exists'.1 (hR.busy _ _ hvm (List.ne_nil_of_mem hmem))

/-- As many rounds as things have been asked. -/
theorem card_le_length {s : Finset κ} (hs : ∀ k ∈ s, AskedIn k log) : s.card ≤ log.length := by
  have hsub : s ⊆ (log.filterMap Round.asked).toFinset := fun k hk =>
    List.mem_toFinset.2 (List.mem_filterMap.2 (hs k hk))
  calc s.card ≤ (log.filterMap Round.asked).toFinset.card := Finset.card_le_card hsub
    _ ≤ (log.filterMap Round.asked).length := List.toFinset_card_le _
    _ ≤ log.length := List.length_filterMap_le _ _

/-- Stamps only grow. -/
theorem stamp_mono (hR : Rests T R) (h : Polls R last log last') : last k ≤ last' k := by
  induction h with
  | nil last => exact le_rfl
  | cons v log last last' hv hlog ih =>
      refine le_trans ?_ ih
      by_cases hvk : v.asked = some k
      · exact (Round.stamp_of_asked hvk last).symm ▸ hR.past _ _ hv k
      · exact (Round.stamp_of_not_asked hvk last).ge

/-- No round is earlier than a stamp it finds. -/
theorem stamp_le_time (hR : Rests T R) (h : Polls R last log last') (hv : v ∈ log) :
    last k ≤ v.time := by
  obtain ⟨before, after, rfl⟩ := List.append_of_mem hv
  obtain ⟨m, hbefore, hafter⟩ := h.split
  cases hafter with
  | cons _ _ _ _ hvm _ => exact (hbefore.stamp_mono hR).trans (hR.past _ _ hvm k)

/-- What a round has asked is not stamped earlier. -/
theorem time_le_stamp (hR : Rests T R) (h : Polls R last log last') (hv : v ∈ log)
    (hasked : v.asked = some k) : v.time ≤ last' k := by
  obtain ⟨before, after, rfl⟩ := List.append_of_mem hv
  obtain ⟨m, _, hafter⟩ := h.split
  cases hafter with
  | cons _ _ _ _ _ hlog =>
      exact Round.stamp_of_asked hasked m ▸ hlog.stamp_mono (k := k) hR

variable [Fintype κ]

/-- **Run**: in as many rounds as there are things to ask, all within the rest, whatever
stays due is asked. -/
theorem asked_of_staysDue (hR : Rests T R) (h : Polls R last window last')
    (hlen : window.length = Fintype.card κ) (hT : Within T window) (hdue : StaysDue k window) :
    AskedIn k window := by
  by_contra hk
  have hnodup := h.nodup_asked hR hT
  have hbusy : ∀ v ∈ window, v.asked.isSome := fun v hv =>
    Option.isSome_iff_exists.2 (h.exists_asked hR hdue hk hv)
  have hcard : (window.filterMap Round.asked).toFinset.card = Fintype.card κ := by
    rw [List.toFinset_card_of_nodup hnodup, List.filterMap_length_eq_length.2 hbusy, hlen]
  have hmem := Finset.mem_univ k
  rw [← (Finset.card_eq_iff_eq_univ _).1 hcard, List.mem_toFinset, List.mem_filterMap] at hmem
  exact hk hmem

/-- **Run**: a poller with a favourite that has asked everything in as many rounds as
there are things to ask has done so within the favourite's rest. -/
theorem within_of_asked {a z : κ} (hR : Rests T R) (hF : Favours T a z R)
    (h : Polls R last window last') (hlen : window.length = Fintype.card κ) (haz : a ≠ z)
    (hdue : ∀ k, StaysDue k window) (hall : ∀ k, AskedIn k window) : Within T window := by
  obtain ⟨v, hv, hvz⟩ := hall z
  obtain ⟨before, after, rfl⟩ := List.append_of_mem hv
  obtain ⟨m, hbefore, hafter⟩ := h.split
  have hvm : R m v := by cases hafter; assumption
  -- everything else has been asked before, once
  have hothers : ∀ k ∈ Finset.univ.erase z, AskedIn k before := fun k hk => by
    by_contra hno
    have hkv := hdue k before v after rfl fun u hu huk => hno ⟨u, hu, huk⟩
    exact Finset.ne_of_mem_erase hk (hF.lastly _ _ hvm hvz k hkv)
  have hcard : (Finset.univ.erase z).card = Fintype.card κ - 1 := Finset.card_erase_of_mem (by simp)
  have hle := card_le_length hothers
  simp only [List.length_append, List.length_cons] at hlen
  obtain rfl : after = [] := List.eq_nil_of_length_eq_zero (by omega)
  have hz : ¬ AskedIn z before := fun hz => by
    have hall : ∀ k ∈ Finset.univ, AskedIn k before := fun k _ => by
      by_cases hk : k = z
      · exact hk ▸ hz
      · exact hothers k (by simp [hk])
    have hle' := card_le_length hall
    rw [Finset.card_univ] at hle'
    omega
  -- the favourite was asked first
  obtain ⟨u, mid, rfl⟩ : ∃ u mid, before = u :: mid := by
    obtain ⟨u, hu, _⟩ := hothers a (by simp [haz])
    exact List.exists_cons_of_ne_nil (List.ne_nil_of_mem hu)
  cases id hbefore with
  | cons _ _ _ _ hu hmid =>
      have hua : u.asked = some a :=
        hF.favourite _ _ hu (hdue a [] u (mid ++ [v]) rfl (by simp))
      have hmida : ¬ AskedIn a mid := fun ha => by
        have hmid' : ∀ k ∈ Finset.univ.erase z, AskedIn k mid := fun k hk => by
          obtain ⟨w, hw, hwk⟩ := hothers k hk
          rcases List.mem_cons.1 hw with rfl | hw
          · obtain rfl : a = k := Option.some.inj (hua.symm.trans hwk)
            exact ha
          · exact ⟨w, hw, hwk⟩
        have hle' := card_le_length hmid'
        simp only [List.length_cons] at hlen
        omega
      have hstamp : m a = u.time := (hmid.stamp_eq hmida).trans (Round.stamp_of_asked hua last)
      have hspan : v.time - u.time < T :=
        hstamp ▸ hF.again _ _ hvm fun ha => haz (hF.lastly _ _ hvm hvz a ha)
      -- and the rounds follow one another in time
      have hafter' : ∀ x ∈ u :: mid ++ [v], u.time ≤ x.time := fun x hx => by
        rw [← Round.stamp_of_asked hua last]
        rcases List.mem_cons.1 hx with rfl | hx
        · exact (Round.stamp_of_asked hua last).le
        · exact (hmid.append hafter).stamp_le_time hR hx
      have hbefore' : ∀ y ∈ u :: mid ++ [v], y.time ≤ v.time := fun y hy => by
        rcases List.mem_append.1 hy with hy | hy
        · obtain ⟨k, hyk⟩ := (hbefore.exists_asked hR (hdue z).of_append hz hy)
          exact (hbefore.time_le_stamp hR hy hyk).trans (hR.past _ _ hvm k)
        · exact (List.mem_singleton.1 hy) ▸ le_rfl
      intro x hx y hy
      have := hafter' x hx
      have := hbefore' y hy
      omega

end Polls

end Interact
