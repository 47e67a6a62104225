import CanDriver.CanDriverRuntime

/-!
# CanDriver.Lifecycle.Initialize

Bringing up a list of devices, all or nothing.

A device that fails is taken down at once, and a mandatory one takes all devices down that
came up before it.  What came up is remembered by name and never looked at again: when a
device is named twice and fails the second time as an optional one, it is reported although
it is down.  Apart from that the call is atomic (`initialize_atomic_iff`).
-/

namespace CanDriver

open Interact LifecycleDriverOps CanDriverRuntime

/-! ## the outside of a call -/

/-- What a call works on: the target lists and which devices are up.  Noted are the devices
`initDevice` brought up in this call, and what became of each device that was tried, the last
one first. -/
structure InitWorld where
  lists : LifecycleTargets := {}
  up : String → Bool := fun _ => false
  brought : List String := []
  tried : List (String × Bool) := []

namespace InitWorld

/-- The world after an operation.  A try begins where the refresh rate is raised; it succeeds
with `initDevice`, unless a hook fails. -/
def after (w : InitWorld) : (op : LifecycleOp) → op.Ans → InitWorld
  | .targets f, _ => { w with lists := f w.lists }
  | .setDeviceRefreshRate device startup, _ =>
      if startup then { w with tried := (device, false) :: w.tried } else w
  | .initDevice device _ _, ok =>
      { w with
        up := Function.update w.up device ok
        brought := if ok then device :: w.brought else w.brought
        tried := (device, ok) :: w.tried.tail }
  | .hook _ device, ok => if ok then w else { w with tried := (device, false) :: w.tried.tail }
  | .shutdownDevice device, _ => { w with up := Function.update w.up device false }
  | .shutdownAll, _ => { w with up := fun _ => false }
  | _, _ => w

/-- The target lists are what was stored; every device and every hook answers at will. -/
def Admits (w : InitWorld) : (op : LifecycleOp) → op.Ans → Prop
  | .targets _, r => r = w.lists
  | _, _ => True

end InitWorld

/-- A call meets its world. -/
def initWorld : Protocol lifecycleSig InitWorld where
  allow _ _ := True
  accepts := InitWorld.Admits
  next := InitWorld.after

/-! ## what is asked of a call -/

/-- The devices that came up, in order. -/
def cameUp (tried : List (String × Bool)) : List String :=
  (tried.reverse.filter Prod.snd).map Prod.fst

/-- The message of a call that succeeded. -/
def initializedMessage (initializedDevices optionalFailures : List String) : String :=
  "initialized (standby): " ++ joined ", " initializedDevices ++
    if optionalFailures.isEmpty then ""
    else "; optional failures: " ++ joined "; " optionalFailures

/-- A call is atomic: when it fails, nothing it brought up stays up; when it succeeds, what is
up because of it is what it reports, and every mandatory device is. -/
structure AtomicInit (specs : List (String × Bool)) (result : Result) (w : InitWorld) : Prop where
  undone : result.ok = false → ∀ device ∈ w.brought, w.up device = false
  message : result.ok = true →
    ∃ failures, result.message = initializedMessage (cameUp w.tried) failures
  reported : result.ok = true →
    ∀ device, device ∈ cameUp w.tried ↔ device ∈ w.brought ∧ w.up device = true
  mandatory : result.ok = true →
    ∀ device, (device, false) ∈ specs → device ∈ w.brought ∧ w.up device = true

/-- A try is the one of an entry, and it succeeded if the entry is mandatory. -/
def TriedFor (spec t : String × Bool) : Prop := t.1 = spec.1 ∧ (spec.2 = false → t.2 = true)

/-- No mandatory entry failed, and a device that came up failed when it was last tried. -/
def TakenDownAgain (specs tried : List (String × Bool)) : Prop :=
  List.Forall₂ TriedFor specs tried.reverse ∧
    ∃ device ∈ cameUp tried, tried.lookup device = some false

/-! ## what was tried -/

theorem mem_cameUp {tried : List (String × Bool)} {device : String} :
    device ∈ cameUp tried ↔ (device, true) ∈ tried := by
  simp [cameUp]

theorem cameUp_cons (tried : List (String × Bool)) (device : String) (ok : Bool) :
    cameUp ((device, ok) :: tried) = cameUp tried ++ if ok then [device] else [] := by
  cases ok <;> simp [cameUp]

/-- A device that came up was tried. -/
theorem lookup_of_cameUp {tried : List (String × Bool)} {device : String}
    (h : device ∈ cameUp tried) : ∃ ok, tried.lookup device = some ok := by
  cases hlookup : tried.lookup device with
  | some ok => exact ⟨ok, rfl⟩
  | none =>
      have hne := List.lookup_eq_none_iff.1 hlookup _ (mem_cameUp.1 h)
      simp at hne

/-- A device that came up when it was last tried came up. -/
theorem cameUp_of_lookup {tried : List (String × Bool)} {device : String}
    (h : tried.lookup device = some true) : device ∈ cameUp tried := by
  rw [mem_cameUp]
  obtain ⟨before, rest, hsplit, _⟩ := List.lookup_eq_some_iff.1 h
  rw [hsplit]
  exact List.mem_append_right before List.mem_cons_self

/-- Every entry was tried. -/
theorem exists_tried {specs tried : List (String × Bool)} {spec : String × Bool}
    (h : List.Forall₂ TriedFor specs tried) (hspec : spec ∈ specs) :
    ∃ t ∈ tried, TriedFor spec t := by
  induction h with
  | nil => exact absurd hspec List.not_mem_nil
  | cons hhead _ ih =>
      rcases List.mem_cons.1 hspec with rfl | hspec
      · exact ⟨_, List.mem_cons_self, hhead⟩
      · obtain ⟨t, ht, hfor⟩ := ih hspec
        exact ⟨t, List.mem_cons_of_mem _ ht, hfor⟩

/-! ## the invariant of a call -/

/-- The devices remembered are those that came up; of the devices that were brought up, those
are up that came up when they were last tried. -/
structure Bringing (targets : List Target) (initialized : List String) (w : InitWorld) : Prop where
  kept : w.lists.targets = targets
  remembered : initialized = cameUp w.tried
  brought : ∀ device ∈ initialized, device ∈ w.brought
  up : ∀ device ∈ w.brought, w.up device = true ↔ w.tried.lookup device = some true
  joints : ∀ device ∈ w.brought, (filterTargetsByDevice targets device).isEmpty = false

variable {targets : List Target} {initialized : List String} {w : InitWorld}

theorem wp_askInit {Q : op.Ans → InitWorld → Prop} (h : ∀ r, w.Admits op r → Q r (w.after op r)) :
    (askOps op).wp initWorld Q w :=
  ⟨trivial, h⟩

/-- Shutting a device down. -/
theorem wp_shutdownDevice (device : String) :
    (shutdownDevice device).wp initWorld
      (fun _ w' => w'.lists.targets = w.lists.targets ∧
        w'.up = Function.update w.up device false ∧ w'.brought = w.brought ∧ w'.tried = w.tried) w := by
  rw [shutdownDevice, Prog.wp_bind]
  refine wp_askInit fun _ _ => ?_
  rw [LifecycleDriverOps.deactivateTargetsForDevice, Prog.wp_bind, Prog.wp_bind, modifyTargets,
    Prog.wp_bind]
  refine wp_askInit fun _ _ => ?_
  rw [Prog.pure_eq, Prog.wp_ret, clearTrackers, Prog.wp_bind]
  exact wp_askInit fun _ _ => ⟨rfl, rfl, rfl, rfl⟩

/-- The hooks of a device that is up. -/
theorem wp_callHooks (device : String) (hooks : List StandbyHook) (u : String → Bool)
    (tried : List (String × Bool)) (htried : w.tried = (device, true) :: tried)
    (hup : w.up = Function.update u device true) :
    (callHooks device hooks).wp initWorld
      (fun result w' => w'.lists.targets = w.lists.targets ∧ w'.brought = w.brought ∧
        w'.tried = (device, result.ok) :: tried ∧
        w'.up = Function.update u device result.ok) w := by
  induction hooks with
  | nil =>
      rw [callHooks, Prog.wp_bind]
      exact wp_askInit fun _ _ => ⟨rfl, rfl, htried, hup⟩
  | cons hook hooks ih =>
      rw [callHooks, Prog.wp_bind]
      refine wp_askInit fun ok _ => ?_
      rw [Prog.wp_ite]
      split
      · next hok =>
        have hsame : w.after (.hook hook device) ok = w := by
          rw [InitWorld.after, if_pos hok]
        rw [hsame]
        exact ih
      · next hok =>
        have hnoted : w.after (.hook hook device) ok = { w with tried := (device, false) :: tried } := by
          rw [InitWorld.after, if_neg hok, htried, List.tail_cons]
        rw [hnoted, Prog.wp_bind]
        refine wp_askInit fun _ _ => ?_
        rw [Prog.wp_bind]
        refine Prog.wp_mono (wp_shutdownDevice device) fun _ w' hw' => ?_
        obtain ⟨htargets, hdown, hbrought, hsame⟩ := hw'
        refine ⟨htargets, hbrought, ?_, ?_⟩
        · rw [hsame]
          cases hook <;> rfl
        · rw [hdown]
          have hup : (({ w with tried := (device, false) :: tried } : InitWorld).after
              (.setDeviceRefreshRate device false) ()).up = Function.update u device true := hup
          rw [hup, Function.update_idem]
          cases hook <;> rfl

/-- A device without joints is not even tried to be brought up. -/
theorem Bringing.refused (h : Bringing targets initialized w) {device : String}
    (hempty : (filterTargetsByDevice targets device).isEmpty = true) :
    Bringing targets initialized { w with tried := (device, false) :: w.tried } where
  kept := h.kept
  remembered := by
    rw [cameUp_cons, if_neg Bool.false_ne_true, List.append_nil]
    exact h.remembered
  brought := h.brought
  up e he := by
    have hne : (e == device) = false := by
      rw [beq_eq_false_iff_ne]
      rintro rfl
      rw [h.joints e he] at hempty
      exact absurd hempty Bool.false_ne_true
    rw [List.lookup_cons, hne]
    exact h.up e he
  joints := h.joints

/-- A device that was brought up is up if nothing failed after that. -/
theorem Bringing.attempted (h : Bringing targets initialized w) {device : String} {w' : InitWorld}
    {ok : Bool} (inited : Bool) (hjoints : (filterTargetsByDevice targets device).isEmpty = false)
    (hkept : w'.lists.targets = targets) (htried : w'.tried = (device, ok) :: w.tried)
    (hup : w'.up = Function.update w.up device ok)
    (hbrought : w'.brought = if inited then device :: w.brought else w.brought)
    (hok : ok = true → inited = true) :
    Bringing targets (if ok then initialized ++ [device] else initialized) w' := by
  have hmem : ∀ e, e ∈ w.brought → e ∈ w'.brought := by
    intro e he
    rw [hbrought]
    split
    · exact List.mem_cons_of_mem device he
    · exact he
  have hold : ∀ e, e ∈ w'.brought → e ≠ device → e ∈ w.brought := by
    intro e he hne
    rw [hbrought] at he
    split at he
    · exact (List.mem_cons.1 he).resolve_left hne
    · exact he
  refine ⟨hkept, ?_, fun e he => ?_, fun e he => ?_, fun e he => ?_⟩
  · rw [htried, cameUp_cons, h.remembered]
    cases ok with
    | true => rfl
    | false => exact (List.append_nil _).symm
  · split at he
    · next hcame =>
      rcases List.mem_append.1 he with he | he
      · exact hmem e (h.brought e he)
      · rw [List.mem_singleton.1 he, hbrought, if_pos (hok hcame)]
        exact List.mem_cons_self
    · exact hmem e (h.brought e he)
  · rw [htried, hup, List.lookup_cons]
    by_cases heq : e = device
    · subst heq
      rw [Function.update_self, beq_self_eq_true, Option.some_inj]
    · rw [Function.update_of_ne heq, beq_false_of_ne heq]
      exact h.up e (hold e he heq)
  · by_cases heq : e = device
    · exact heq ▸ hjoints
    · exact h.joints e (hold e he heq)

/-- **Step**: one device. -/
theorem wp_prepareForStandby {configured : StandbyHook → Bool}
    (hconfigured : requiredHooks.all configured = true) (device : String) (loopback : Bool)
    (h : Bringing targets initialized w) :
    (prepareLifecycleDeviceForStandby configured device loopback).wp initWorld
      (fun result w' =>
        Bringing targets (if result.ok then initialized ++ [device] else initialized) w' ∧
          w'.tried = (device, result.ok) :: w.tried) w := by
  rw [prepareLifecycleDeviceForStandby, if_pos hconfigured, Prog.wp_bind]
  refine wp_askInit fun _ _ => ?_
  rw [prepareDevice, targetsSnapshot, Prog.wp_bind, Prog.wp_bind, Prog.wp_bind]
  refine wp_askInit fun lists hlists => ?_
  have hlists : lists = w.lists := hlists
  subst hlists
  rw [Prog.pure_eq, Prog.wp_ret, h.kept, Prog.wp_ite]
  split
  · next hempty =>
    rw [Prog.pure_eq, Prog.wp_ret, if_neg Bool.false_ne_true, Prog.wp_bind]
    exact wp_askInit fun _ _ => ⟨h.refused hempty, rfl⟩
  · next hjoints =>
    have hjoints := Bool.eq_false_of_not_eq_true hjoints
    rw [Prog.wp_bind]
    refine wp_askInit fun ok _ => ?_
    cases ok with
    | false =>
        rw [if_neg Bool.false_ne_true, Prog.pure_eq, Prog.wp_ret, if_neg Bool.false_ne_true,
          Prog.wp_bind]
        exact wp_askInit fun _ _ =>
          ⟨h.attempted false hjoints h.kept rfl rfl rfl fun hok => hok, rfl⟩
    | true =>
        rw [if_pos rfl, Prog.pure_eq, Prog.wp_ret, if_pos rfl]
        refine Prog.wp_mono (wp_callHooks device _ w.up w.tried rfl rfl) fun result w' hw' => ?_
        obtain ⟨hkept, hbrought, htried, hup⟩ := hw'
        refine ⟨h.attempted true hjoints (hkept.trans h.kept) htried hup hbrought
          fun _ => rfl, htried⟩

/-- The devices that are rolled back are down, the others as they were. -/
theorem wp_rollbackDevices (devices : List String) :
    (rollbackDevices devices).wp initWorld
      (fun _ w' => w'.brought = w.brought ∧ w'.tried = w.tried ∧
        ∀ e, w'.up e = true → e ∉ devices ∧ w.up e = true) w := by
  induction devices generalizing w with
  | nil => exact ⟨rfl, rfl, fun e he => ⟨List.not_mem_nil, he⟩⟩
  | cons device devices ih =>
      rw [rollbackDevices, Prog.wp_bind]
      refine Prog.wp_mono (wp_shutdownDevice device) fun _ w₁ hw₁ => ?_
      obtain ⟨_, hdown, hbrought, htried⟩ := hw₁
      refine Prog.wp_mono ih fun _ w₂ hw₂ => ?_
      obtain ⟨hbrought₂, htried₂, hup₂⟩ := hw₂
      refine ⟨hbrought₂.trans hbrought, htried₂.trans htried, fun e he => ?_⟩
      obtain ⟨hout, hup⟩ := hup₂ e he
      rw [hdown] at hup
      by_cases heq : e = device
      · rw [heq, Function.update_self] at hup
        exact absurd hup Bool.false_ne_true
      · rw [Function.update_of_ne heq] at hup
        exact ⟨fun hin => (List.mem_cons.1 hin).elim heq hout, hup⟩

/-! ## the end of a call -/

/-- A call that fails is atomic where it leaves nothing up. -/
theorem atomicInit_of_failed {specs : List (String × Bool)} {result : Result}
    (hfailed : result.ok = false) (hdown : ∀ device ∈ w.brought, w.up device = false) :
    AtomicInit specs result w where
  undone _ := hdown
  message hok := absurd (hok.symm.trans hfailed) Bool.false_ne_true.symm
  reported hok := absurd (hok.symm.trans hfailed) Bool.false_ne_true.symm
  mandatory hok := absurd (hok.symm.trans hfailed) Bool.false_ne_true.symm

/-- A call that succeeds is atomic exactly if no device that came up was taken down again. -/
theorem Bringing.atomicInit_iff (h : Bringing targets initialized w)
    {specs : List (String × Bool)} {result : Result} (hok : result.ok = true)
    (hmessage : ∃ failures, result.message = initializedMessage initialized failures)
    (htried : List.Forall₂ TriedFor specs w.tried.reverse) :
    AtomicInit specs result w ↔ ¬ TakenDownAgain specs w.tried := by
  have hbrought : ∀ device ∈ cameUp w.tried, device ∈ w.brought :=
    fun device hin => h.brought device (h.remembered ▸ hin)
  constructor
  · rintro hatomic ⟨_, device, hcame, hlast⟩
    have hup := ((hatomic.reported hok device).1 hcame).2
    rw [h.up device (hbrought device hcame), hlast] at hup
    exact absurd (Option.some.inj hup) Bool.false_ne_true
  · intro hkept
    have hup : ∀ device ∈ cameUp w.tried, w.up device = true := by
      intro device hcame
      obtain ⟨ok, hlast⟩ := lookup_of_cameUp hcame
      rw [h.up device (hbrought device hcame), hlast]
      cases ok with
      | true => rfl
      | false => exact absurd ⟨htried, device, hcame, hlast⟩ hkept
    have hreported : ∀ device, device ∈ cameUp w.tried ↔
        device ∈ w.brought ∧ w.up device = true := by
      intro device
      constructor
      · exact fun hcame => ⟨hbrought device hcame, hup device hcame⟩
      · exact fun hin => cameUp_of_lookup ((h.up device hin.1).1 hin.2)
    refine ⟨fun hfailed => absurd (hok.symm.trans hfailed) Bool.false_ne_true.symm,
      fun _ => h.remembered ▸ hmessage, fun _ => hreported, fun _ device hspec => ?_⟩
    obtain ⟨t, ht, hname, hmandatory⟩ := exists_tried htried hspec
    have hcame : (device, true) = t := Prod.ext hname.symm (hmandatory rfl).symm
    rw [← hcame, List.mem_reverse] at ht
    exact (hreported device).1 (mem_cameUp.2 ht)

/-- Where nothing came up, a failed call is atomic. -/
theorem Bringing.atomicInit_of_none (h : Bringing targets [] w) {specs : List (String × Bool)}
    {result : Result} (hfailed : result.ok = false) :
    AtomicInit specs result w ↔ ¬ TakenDownAgain specs w.tried := by
  have hnone : ∀ device, device ∉ cameUp w.tried := by
    intro device hcame
    rw [← h.remembered] at hcame
    exact List.not_mem_nil hcame
  constructor
  · rintro _ ⟨_, device, hcame, _⟩
    exact hnone device hcame
  · intro _
    refine atomicInit_of_failed hfailed fun device hin => ?_
    rw [← Bool.not_eq_true, h.up device hin]
    exact fun hlast => hnone device (cameUp_of_lookup hlast)

/-- Where a mandatory device failed and the others are rolled back, the call is atomic. -/
theorem Bringing.atomicInit_of_rolledBack (h : Bringing targets initialized w)
    {before after : List (String × Bool)} {device : String} {tried : List (String × Bool)}
    (htried : w.tried = (device, false) :: tried)
    (hbefore : List.Forall₂ TriedFor before tried.reverse) {result : Result}
    (hfailed : result.ok = false) {w' : InitWorld} (hbrought : w'.brought = w.brought)
    (hsame : w'.tried = w.tried) (hup : ∀ e, w'.up e = true → e ∉ initialized ∧ w.up e = true) :
    AtomicInit (before ++ (device, false) :: after) result w' ↔
      ¬ TakenDownAgain (before ++ (device, false) :: after) w'.tried := by
  constructor
  · rintro _ ⟨hall, _⟩
    rw [hsame, htried, List.reverse_cons] at hall
    have hlast := List.forall₂_drop_append _ _ _ hall
    rw [← hbefore.length_eq, List.drop_left] at hlast
    cases hlast with
    | cons hspec _ => exact absurd (hspec.2 rfl) Bool.false_ne_true
  · intro _
    refine atomicInit_of_failed hfailed fun e hin => ?_
    rw [← Bool.not_eq_true]
    intro he
    obtain ⟨hout, he⟩ := hup e he
    rw [hbrought] at hin
    rw [h.up e hin] at he
    exact hout (h.remembered ▸ cameUp_of_lookup he)

/-! ## the loop over the entries -/

/-- **Run**: the entries one after another, with the ones before them tried already. -/
theorem wp_initializeSpecs {configured : StandbyHook → Bool}
    (hconfigured : requiredHooks.all configured = true) (loopback : Bool)
    (before specs : List (String × Bool)) (hnames : ∀ spec ∈ specs, spec.1 ≠ "")
    (failures : List String) (h : Bringing targets initialized w)
    (hbefore : List.Forall₂ TriedFor before w.tried.reverse) :
    (initializeSpecs configured loopback initialized failures specs).wp initWorld
      (fun result w' => AtomicInit (before ++ specs) result w' ↔
        ¬ TakenDownAgain (before ++ specs) w'.tried) w := by
  induction specs generalizing before initialized failures w with
  | nil =>
      rw [List.append_nil, initializeSpecs, initSummary]
      split
      · next hempty =>
        rw [List.isEmpty_iff] at hempty
        subst hempty
        split
        · exact h.atomicInit_of_none rfl
        · exact h.atomicInit_of_none rfl
      · rw [Prog.wp_bind]
        exact wp_askInit fun _ _ => h.atomicInit_iff rfl ⟨failures, rfl⟩ hbefore
  | cons spec specs ih =>
      obtain ⟨device, optional⟩ := spec
      have hrest : ∀ spec ∈ specs, spec.1 ≠ "" :=
        fun spec hspec => hnames spec (List.mem_cons_of_mem _ hspec)
      have hassoc : ∀ spec, before ++ spec :: specs = (before ++ [spec]) ++ specs :=
        fun spec => List.append_cons before spec specs
      rw [initializeSpecs, if_neg (hnames _ List.mem_cons_self), Prog.wp_bind]
      refine wp_askInit fun _ _ => ?_
      rw [Prog.wp_bind]
      refine Prog.wp_mono (wp_prepareForStandby hconfigured device loopback h) fun result w₁ hw₁ => ?_
      obtain ⟨hbringing, htried⟩ := hw₁
      have htriedFor : ∀ ok, result.ok = ok → (optional = false → ok = true) →
          List.Forall₂ TriedFor (before ++ [(device, optional)]) w₁.tried.reverse := by
        intro ok hok hmandatory
        rw [htried, List.reverse_cons, hok]
        exact List.rel_append hbefore (.cons ⟨rfl, hmandatory⟩ .nil)
      rw [Prog.wp_ite]
      split
      · next hok =>
        rw [if_pos hok] at hbringing
        rw [hassoc]
        exact ih (before ++ [(device, optional)]) hrest failures hbringing
          (htriedFor true hok fun _ => rfl)
      · next hfailed =>
        have hfailed := Bool.eq_false_of_not_eq_true hfailed
        rw [hfailed, if_neg Bool.false_ne_true] at hbringing
        rw [Prog.wp_ite]
        split
        · next hoptional =>
          rw [hassoc]
          exact ih (before ++ [(device, optional)]) hrest _ hbringing
            (htriedFor false hfailed fun hmandatory =>
              absurd (hoptional.symm.trans hmandatory) Bool.false_ne_true.symm)
        · next hmandatory =>
          have hmandatory := Bool.eq_false_of_not_eq_true hmandatory
          subst hmandatory
          rw [hfailed] at htried
          rw [Prog.wp_bind]
          refine Prog.wp_mono (wp_rollbackDevices initialized) fun _ w₂ hw₂ => ?_
          obtain ⟨hbrought, hsame, hup⟩ := hw₂
          exact hbringing.atomicInit_of_rolledBack htried hbefore hfailed hbrought hsame hup

/-- Without the hooks nothing is brought up. -/
theorem wp_initializeSpecs_unconfigured {configured : StandbyHook → Bool}
    (hconfigured : requiredHooks.all configured = false) (loopback : Bool)
    (specs : List (String × Bool)) (failures : List String) :
    (initializeSpecs configured loopback [] failures specs).wp initWorld
      (fun result w' => result.ok = false ∧ w'.brought = w.brought ∧ w'.tried = w.tried) w := by
  induction specs generalizing failures w with
  | nil =>
      rw [initializeSpecs, initSummary, List.isEmpty_nil, if_pos rfl]
      split
      · exact ⟨rfl, rfl, rfl⟩
      · exact ⟨rfl, rfl, rfl⟩
  | cons spec specs ih =>
      obtain ⟨device, optional⟩ := spec
      rw [initializeSpecs]
      split
      · exact ih failures
      · rw [Prog.wp_bind]
        refine wp_askInit fun _ _ => ?_
        rw [Prog.wp_bind, prepareLifecycleDeviceForStandby, hconfigured,
          if_neg Bool.false_ne_true, Prog.pure_eq, Prog.wp_ret, if_neg Bool.false_ne_true,
          Prog.wp_ite]
        split
        · exact ih _
        · exact ⟨rfl, rfl, rfl⟩

/-! ## device lists -/

/-- An entry has a name. -/
theorem name_ne_empty_of_parseSpec {token : List Char} {spec : String × Bool}
    (h : parseSpec token = some spec) : spec.1 ≠ "" := by
  have hname : ∀ cs : List Char, ¬ cs.isEmpty = true → String.ofList cs ≠ "" := by
    intro cs hcs heq
    rw [List.isEmpty_iff] at hcs
    exact hcs (by simpa using congrArg String.toList heq)
  rw [parseSpec] at h
  obtain ⟨htoken, h⟩ := Option.ite_none_left_eq_some.1 h
  split at h
  · obtain ⟨hrest, h⟩ := Option.ite_none_left_eq_some.1 h
    rw [← Option.some.inj h]
    exact hname _ hrest
  · rw [← Option.some.inj h]
    exact hname _ htoken

/-- The entries of a device list have names, unless the whole list is empty. -/
theorem deviceSpecs_names (device : String) :
    deviceSpecs device = [("", false)] ∨ ∀ spec ∈ deviceSpecs device, spec.1 ≠ "" := by
  rw [deviceSpecs]
  split
  · by_cases hempty : device = ""
    · exact .inl (by rw [hempty])
    · refine .inr fun spec hspec => ?_
      rw [List.mem_singleton.1 hspec]
      exact hempty
  · refine .inr fun spec hspec => ?_
    obtain ⟨token, _, htoken⟩ := List.mem_filterMap.1 hspec
    exact name_ne_empty_of_parseSpec htoken

/-- **All or nothing**: a call is atomic exactly if it does not both try all devices without
failing a mandatory one and take down again a device that came up. -/
theorem initialize_atomic_iff (configured : StandbyHook → Bool) (device : String)
    (loopback : Bool) (lists : LifecycleTargets) (up : String → Bool) (result : Result)
    (w : InitWorld)
    (hr : Prog.Runs initWorld (initializeLifecycleDevice configured device loopback)
      { lists, up } result w) :
    AtomicInit (deviceSpecs device) result w ↔ ¬ TakenDownAgain (deviceSpecs device) w.tried := by
  rw [initializeLifecycleDevice] at hr
  cases hconfigured : requiredHooks.all configured with
  | false =>
      obtain ⟨hfailed, hbrought, htried⟩ :=
        hr.of_wp (wp_initializeSpecs_unconfigured hconfigured loopback _ [])
      constructor
      · rintro _ ⟨_, device, hcame, _⟩
        rw [htried] at hcame
        exact List.not_mem_nil hcame
      · intro _
        refine atomicInit_of_failed hfailed fun device hin => ?_
        rw [hbrought] at hin
        exact absurd hin List.not_mem_nil
  | true =>
      have hstart : Bringing lists.targets [] { lists, up } :=
        ⟨rfl, rfl, fun _ h => absurd h List.not_mem_nil, fun _ h => absurd h List.not_mem_nil,
          fun _ h => absurd h List.not_mem_nil⟩
      rcases deviceSpecs_names device with hempty | hnames
      · rw [hempty] at hr ⊢
        refine Prog.Runs.of_wp (Q := fun result w => AtomicInit [("", false)] result w ↔
          ¬ TakenDownAgain [("", false)] w.tried) hr ?_
        rw [initializeSpecs, if_pos rfl, initializeSpecs, initSummary, List.isEmpty_nil,
          if_pos rfl, if_pos rfl]
        exact hstart.atomicInit_of_none rfl
      · exact hr.of_wp (wp_initializeSpecs hconfigured loopback [] _ hnames [] hstart .nil)

/-! ## runs -/

/-- An axis on `can0` and one on `can1`. -/
def liftAndWheel : LifecycleTargets where
  targets := [⟨"lift", "can0", .PP, 1⟩, ⟨"wheel", "can1", .MT, 2⟩]

/-- Answers for a call in which the first devices to be tried come up. -/
def answerFirst (count : Nat) (w : InitWorld) : (op : LifecycleOp) → Option op.Ans
  | .targets _ => some w.lists
  | .readiness _ => some {}
  | .loopback _ => some fun _ => none
  | .active _ => some ()
  | .initDevice _ _ _ => some (w.tried.length ≤ count)
  | .shutdownDevice _ => some ()
  | .hook _ _ => some true
  | .setDeviceRefreshRate _ _ => some ()
  | _ => none

theorem admits_of_answerFirst (h : answerFirst count w op = some r) : initWorld.accepts w op r := by
  cases op with
  | targets f => exact (Option.some.inj h).symm
  | _ => trivial

/-- A call that is run to its end, and a test of where it ends. -/
theorem exists_initialized (device : String) (count : Nat) (test : Result × InitWorld → Bool)
    (h : ((initializeLifecycleDevice (fun _ => true) device false).run initWorld
      (answerFirst count) { lists := liftAndWheel }).any test = true) :
    ∃ result w, Prog.Runs initWorld (initializeLifecycleDevice (fun _ => true) device false)
      { lists := liftAndWheel, up := fun _ => false } result w ∧ test (result, w) = true := by
  obtain ⟨⟨result, w⟩, hrun, htest⟩ := (Option.any_eq_true _ _).1 h
  exact ⟨result, w, Prog.runs_of_run (fun _ _ _ => admits_of_answerFirst) hrun, htest⟩

/-- An optional device that does not come up is left out. -/
theorem optional_left_out :
    ∃ result w, Prog.Runs initWorld
        (initializeLifecycleDevice (fun _ => true) "can0, optional:can1" false)
        { lists := liftAndWheel, up := fun _ => false } result w ∧
      result.ok = true ∧ cameUp w.tried = ["can0"] ∧
      AtomicInit (deviceSpecs "can0, optional:can1") result w := by
  obtain ⟨result, w, hr, htest⟩ := exists_initialized "can0, optional:can1" 1
    (fun e => e.1.ok && e.2.tried == [("can1", false), ("can0", true)]) (by decide +kernel)
  rw [Bool.and_eq_true] at htest
  have htried := eq_of_beq htest.2
  refine ⟨result, w, hr, htest.1, ?_,
    (initialize_atomic_iff (fun _ => true) "can0, optional:can1" false liftAndWheel
      (fun _ => false) result w hr).2 ?_⟩
  · rw [htried]
    decide
  · rintro ⟨_, device, hcame, hlast⟩
    rw [htried] at hcame hlast
    have hname : device = "can0" := by simpa [cameUp] using hcame
    subst hname
    exact absurd hlast (by decide)

/-- A device named twice is reported although its second try took it down. -/
theorem named_twice_taken_down :
    ∃ result w, Prog.Runs initWorld
        (initializeLifecycleDevice (fun _ => true) "can0, optional:can0" false)
        { lists := liftAndWheel, up := fun _ => false } result w ∧
      ¬ AtomicInit (deviceSpecs "can0, optional:can0") result w := by
  obtain ⟨result, w, hr, htest⟩ := exists_initialized "can0, optional:can0" 1
    (fun e => (e.1.ok && !e.2.up "can0") &&
      (deviceSpecs "can0, optional:can0").contains ("can0", false)) (by decide +kernel)
  rw [Bool.and_eq_true, Bool.and_eq_true, Bool.not_eq_true'] at htest
  obtain ⟨⟨hok, hdown⟩, hspec⟩ := htest
  refine ⟨result, w, hr, fun hatomic => ?_⟩
  have hup := (hatomic.mandatory hok "can0" (List.contains_iff_mem.1 hspec)).2
  exact absurd (hup.symm.trans hdown) Bool.false_ne_true.symm

end CanDriver
