import PubSub.Proofs.Wake.Ownership
import PubSub.Proofs.Wake.Signals

/-!
# Slots that change hands

A signal names a slot and not the registration that it comes through.  The driver therefore cannot
tell a call of the owner from a late signal, made through a registration that has lost the slot.  A
release takes the earlier signals of a slot back, so that no owner is reported for what another one
signalled while the slot was its own; but what is signalled after that is put down to whoever has the
slot when the wait ends (`Driver.Course.reported_iff`).
-/

namespace PubSub.Wake

/-! ## Acts that stand -/

/-- There was such an act, seen together with what came before it, and no act since that undoes
it. -/
def Since (occurs : Act → List Act → Prop) (undoes : Act → Prop) (acts : List Act) : Prop :=
  ∃ later act earlier, acts = later ++ act :: earlier ∧ occurs act earlier ∧
    ∀ other ∈ later, ¬ undoes other

theorem not_since_nil {occurs : Act → List Act → Prop} {undoes : Act → Prop} :
    ¬ Since occurs undoes [] := by
  rintro ⟨later, act, earlier, hsplit, -⟩
  simp at hsplit

theorem since_cons_iff {occurs : Act → List Act → Prop} {undoes : Act → Prop} {act : Act}
    {acts : List Act} :
    Since occurs undoes (act :: acts) ↔ occurs act acts ∨ ¬ undoes act ∧ Since occurs undoes acts := by
  constructor
  · rintro ⟨later, found, earlier, hsplit, hoccurs, hkept⟩
    cases later with
    | nil =>
      obtain ⟨rfl, rfl⟩ := List.cons.inj hsplit
      exact Or.inl hoccurs
    | cons first later =>
      obtain ⟨rfl, rfl⟩ := List.cons.inj hsplit
      refine Or.inr ⟨hkept _ List.mem_cons_self, later, found, earlier, rfl, hoccurs, ?_⟩
      exact fun other hmem => hkept other (List.mem_cons_of_mem _ hmem)
  · rintro (hoccurs | ⟨hkept, later, found, earlier, rfl, hoccurs, hrest⟩)
    · exact ⟨[], act, acts, rfl, hoccurs, by simp⟩
    · exact ⟨act :: later, found, earlier, rfl, hoccurs, List.forall_mem_cons.2 ⟨hkept, hrest⟩⟩

/-- The owner of a slot signalled it, and since then no wait was woken and the owner kept the slot. -/
def Called (acts : List Act) (owner : Registration) : Prop :=
  Since (fun act earlier => act = .signalled owner ∧ owner ∈ live earlier)
    (fun act => act.isWake = true ∨ act = .released owner true) acts

/-- The slot was signalled through a registration that had lost it, and since then no wait was woken
and no owner gave the slot back. -/
def Late (acts : List Act) (slot : Nat) : Prop :=
  Since (fun act earlier => ∃ registration, act = .signalled registration ∧
      registration.slot = slot ∧ registration ∉ live earlier)
    (fun act => act.isWake = true ∨ act.Frees slot) acts

section

variable {acts : List Act} {slot : Nat} {owner registration : Registration}

theorem not_called_woke {slots : List Nat} : ¬ Called (.woke slots :: acts) owner := by
  unfold Called
  rw [since_cons_iff]
  simp [Act.isWake]

theorem not_late_woke {slots : List Nat} : ¬ Late (.woke slots :: acts) slot := by
  unfold Late
  rw [since_cons_iff]
  simp [Act.isWake]

theorem called_signalled_iff : Called (.signalled registration :: acts) owner ↔
    registration = owner ∧ owner ∈ live acts ∨ Called acts owner := by
  unfold Called
  rw [since_cons_iff]
  simp [Act.isWake]

theorem late_signalled_iff : Late (.signalled registration :: acts) slot ↔
    registration.slot = slot ∧ registration ∉ live acts ∨ Late acts slot := by
  unfold Late
  rw [since_cons_iff]
  simp [Act.isWake, Act.Frees]

theorem frees_released_iff {owned : Bool} :
    (Act.released registration owned).Frees slot ↔ registration.slot = slot ∧ owned = true := by
  cases owned <;> simp [Act.Frees]

/-- A release ends what was called through the registration. -/
theorem called_released_iff {owned : Bool} : Called (.released registration owned :: acts) owner ↔
    ¬ (registration = owner ∧ owned = true) ∧ Called acts owner := by
  unfold Called
  rw [since_cons_iff]
  simp [Act.isWake]

/-- A release by the owner ends what was signalled late. -/
theorem late_released_iff {owned : Bool} : Late (.released registration owned :: acts) slot ↔
    ¬ (registration.slot = slot ∧ owned = true) ∧ Late acts slot := by
  unfold Late
  rw [since_cons_iff]
  cases owned <;> simp [Act.isWake, Act.Frees]

/-- The act neither signals nor releases a slot, and it is no report. -/
def Act.Inert : Act → Prop
  | registered _ | refused _ | timedOut => True
  | _ => False

theorem called_cons_of_inert {act : Act} (h : act.Inert) :
    Called (act :: acts) owner ↔ Called acts owner := by
  unfold Called
  rw [since_cons_iff]
  cases act <;> first | exact h.elim | simp [Act.isWake]

theorem late_cons_of_inert {act : Act} (h : act.Inert) : Late (act :: acts) slot ↔ Late acts slot := by
  unfold Late
  rw [since_cons_iff]
  cases act <;> first | exact h.elim | simp [Act.isWake, Act.Frees]

theorem due_cons_of_inert {act : Act} (h : act.Inert) : Due (act :: acts) slot ↔ Due acts slot := by
  cases act with
  | registered | refused | timedOut =>
    exact due_cons_of_other rfl (fun _ => id) (fun _ => id) slot
  | released | signalled | woke => exact h.elim

end

/-! ## Owners -/

namespace Driver.Course

variable {capacity : Nat} {acts : List Act} {driver : Driver}

/-- The registrations that own their slots are the live ones, each of them once. -/
theorem owned (h : Course capacity acts driver) :
    (∀ registration, driver.slots.owns registration = true ↔ registration ∈ live acts) ∧
      (live acts).Nodup := by
  induction h with
  | start =>
    refine ⟨fun registration => ?_, List.nodup_nil⟩
    simp [Driver.idle, SlotTable.owns, SlotTable.empty, live]
  | @register acts driver driver' registration h hregister ih =>
    obtain ⟨slots, halloc, rfl⟩ := register_eq_ok hregister
    have halloc := SlotTable.allocate?_eq_some halloc
    have hsound := h.sound.1.slots
    refine ⟨fun other => ?_, List.nodup_cons.2 ⟨fun hmem => ?_, ih.2⟩⟩
    · rw [halloc.owns_iff hsound, ih.1]
      exact List.mem_cons.symm
    · exact halloc.unowned hsound _ (SlotTable.owns_iff.1 ((ih.1 registration).2 hmem))
  | @release acts driver registration h ih =>
    rw [slots_release]
    refine ⟨fun other => ?_, ih.2.erase registration⟩
    show _ ↔ other ∈ (live acts).erase registration
    cases howns : driver.slots.owns registration with
    | false =>
      rw [SlotTable.release_of_not_owns howns, ih.1,
        List.erase_of_not_mem (by rw [← ih.1, howns]; exact Bool.false_ne_true)]
    | true => rw [SlotTable.owns_release_iff howns, ih.2.mem_erase_iff, ih.1]
  | signal h hgiven ih =>
    rw [slots_signal]
    exact ih
  | refuse h hregister ih => exact ih
  | wake h hpolls hwait ih =>
    obtain ⟨-, -, rfl⟩ := wait_eq_woken hpolls hwait
    exact ih
  | timeOut h hpolls hwait ih =>
    obtain ⟨-, rfl⟩ := wait_eq_timeout hpolls hwait
    exact ih

/-- Two live registrations do not share a slot. -/
theorem eq_of_slot_eq (h : Course capacity acts driver) {a b : Registration} (ha : a ∈ live acts)
    (hb : b ∈ live acts) (hslot : a.slot = b.slot) : a = b := by
  have howner := SlotTable.owns_iff.1 ((h.owned.1 a).2 ha)
  have hother := SlotTable.owns_iff.1 ((h.owned.1 b).2 hb)
  rw [hslot, hother] at howner
  exact Registration.ext hslot (Option.some.inj (Option.some.inj howner)).symm

/-- A release succeeds exactly for a live registration. -/
theorem fst_release_iff (h : Course capacity acts driver) (registration : Registration) :
    (driver.release registration).1 = true ↔ registration ∈ live acts := by
  rw [← h.owned.1]
  cases howns : driver.slots.owns registration with
  | false => rw [release_of_not_owns howns]
  | true => rw [release_of_owns howns]

/-- An owner that called has the slot still. -/
theorem mem_live_of_called (h : Course capacity acts driver) {owner : Registration}
    (hcalled : Called acts owner) : owner ∈ live acts := by
  induction h with
  | start => exact absurd hcalled not_since_nil
  | register h hregister ih =>
    exact List.mem_cons_of_mem _ (ih ((called_cons_of_inert (by exact trivial)).1 hcalled))
  | refuse h hregister ih => exact ih ((called_cons_of_inert (by exact trivial)).1 hcalled)
  | @release acts driver registration h ih =>
    obtain ⟨hkept, hcalled⟩ := called_released_iff.1 hcalled
    have hlive := ih hcalled
    rw [h.fst_release_iff] at hkept
    refine (List.mem_erase_of_ne ?_).2 hlive
    rintro rfl
    exact hkept ⟨rfl, hlive⟩
  | signal h hgiven ih =>
    rcases called_signalled_iff.1 hcalled with ⟨-, hlive⟩ | hcalled
    · exact hlive
    · exact ih hcalled
  | wake h hpolls hwait ih => exact absurd hcalled not_called_woke
  | timeOut h hpolls hwait ih => exact ih ((called_cons_of_inert (by exact trivial)).1 hcalled)

/-! ## Where a report comes from -/

/-- What is due is due to a call of the owner, or to a late signal. -/
theorem due_iff (h : Course capacity acts driver) (slot : Nat) :
    Due acts slot ↔ (∃ owner, owner.slot = slot ∧ Called acts owner) ∨ Late acts slot := by
  have hinert : ∀ {act acts}, act.Inert →
      (Due acts slot ↔ (∃ owner, owner.slot = slot ∧ Called acts owner) ∨ Late acts slot) →
      (Due (act :: acts) slot ↔
        (∃ owner, owner.slot = slot ∧ Called (act :: acts) owner) ∨ Late (act :: acts) slot) := by
    intro act acts hact ih
    simp only [due_cons_of_inert hact, called_cons_of_inert hact, late_cons_of_inert hact, ih]
  induction h with
  | start =>
    refine iff_of_false ?_ ?_
    · rintro ⟨later, act, earlier, hsplit, -⟩
      simp [sinceWake] at hsplit
    · rintro (⟨owner, -, hcalled⟩ | hlate)
      · exact not_since_nil hcalled
      · exact not_since_nil hlate
  | register h hregister ih => exact hinert trivial ih
  | refuse h hregister ih => exact hinert trivial ih
  | @release acts driver registration h ih =>
    have hdue : Due (.released registration (driver.release registration).1 :: acts) slot ↔
        ¬ (registration.slot = slot ∧ registration ∈ live acts) ∧ Due acts slot := by
      rw [due_cons_iff rfl, frees_released_iff, h.fst_release_iff]
      exact or_iff_right id
    simp only [hdue, ih, late_released_iff, called_released_iff, h.fst_release_iff]
    by_cases hfreed : registration.slot = slot ∧ registration ∈ live acts
    · -- Of those that called, only the registration itself has this slot.
      refine iff_of_false (fun hdue => hdue.1 hfreed) ?_
      rintro (⟨owner, hslot, hkept, hcalled⟩ | ⟨hkept, -⟩)
      · have howner := h.mem_live_of_called hcalled
        exact hkept ⟨h.eq_of_slot_eq hfreed.2 howner (hfreed.1.trans hslot.symm), hfreed.2⟩
      · exact hkept hfreed
    · have hkept : ∀ owner, owner.slot = slot → ¬ (registration = owner ∧ registration ∈ live acts) := by
        rintro owner hslot ⟨rfl, hlive⟩
        exact hfreed ⟨hslot, hlive⟩
      simp only [hfreed, not_false_eq_true, true_and]
      refine or_congr_left (exists_congr fun owner => and_congr_right fun hslot => ?_)
      rw [and_iff_right (hkept owner hslot)]
  | @signal acts driver registration h hgiven ih =>
    have hdue : Due (.signalled registration :: acts) slot ↔
        registration.slot = slot ∨ Due acts slot := by
      rw [due_cons_iff rfl]
      exact or_congr_right (and_iff_right id)
    simp only [hdue, ih, late_signalled_iff, called_signalled_iff]
    constructor
    · rintro (hslot | ⟨owner, hslot, hcalled⟩ | hlate)
      · by_cases hlive : registration ∈ live acts
        · exact Or.inl ⟨registration, hslot, Or.inl ⟨rfl, hlive⟩⟩
        · exact Or.inr (Or.inl ⟨hslot, hlive⟩)
      · exact Or.inl ⟨owner, hslot, Or.inr hcalled⟩
      · exact Or.inr (Or.inr hlate)
    · rintro (⟨owner, hslot, ⟨rfl, -⟩ | hcalled⟩ | ⟨hslot, -⟩ | hlate)
      · exact Or.inl hslot
      · exact Or.inr (Or.inl ⟨owner, hslot, hcalled⟩)
      · exact Or.inl hslot
      · exact Or.inr (Or.inr hlate)
  | wake h hpolls hwait ih =>
    refine iff_of_false (not_due_woke _) ?_
    rintro (⟨owner, -, hcalled⟩ | hlate)
    · exact not_called_woke hcalled
    · exact not_late_woke hlate
  | timeOut h hpolls hwait ih => exact hinert trivial ih

/-- A wait that is woken reports a slot exactly if its owner called since it was made and since the
last report, or if the slot was signalled late and not given back since. -/
theorem reported_iff (h : Course capacity acts driver) {polls : List Poll}
    (hpolls : Settles driver.raised polls) {slots : List Nat} {driver' : Driver}
    (hwait : driver.wait polls = some (some slots, driver')) (slot : Nat) :
    slot ∈ slots ↔
      (∃ owner ∈ live acts, owner.slot = slot ∧ Called acts owner) ∨ Late acts slot := by
  obtain ⟨-, rfl, -⟩ := wait_eq_woken hpolls hwait
  have hdue : slot ∈ driver.collect.1 ↔ Due acts slot := Bits.mem_drain.trans (h.tuned.pending slot)
  rw [hdue, h.due_iff]
  refine or_congr_left (exists_congr fun owner => ?_)
  exact (and_iff_right_of_imp fun hcalled => h.mem_live_of_called hcalled.2).symm

/-- A wait right after a signal is woken, and reports the slot. -/
theorem wait_after_signal {registration : Registration}
    (h : Course capacity (.signalled registration :: acts) driver) {polls : List Poll}
    (hpolls : Settles true polls) :
    Settles driver.raised polls ∧
      driver.wait polls = some (some driver.collect.1, driver.collect.2) ∧
      registration.slot ∈ driver.collect.1 := by
  have hraised : driver.raised = true :=
    h.tuned.raised.2 ((rung_cons_iff rfl).2 (Or.inl ⟨registration.slot, rfl⟩))
  have hdue : Due (.signalled registration :: acts) registration.slot :=
    (due_cons_iff rfl).2 (Or.inl rfl)
  have hsettles : Settles driver.raised polls := by rwa [hraised]
  have hwait := wait_eq hsettles
  rw [hraised, if_pos rfl] at hwait
  exact ⟨hsettles, hwait, Bits.mem_drain.2 ((h.tuned.pending _).2 hdue)⟩

/-- A slot is signalled and changes hands, and is signalled again by its new owner, which is reported
though the wait is interrupted at first. -/
theorem exists_reported_iff : ∃ acts driver polls slots driver', Course 1 acts driver ∧
    Settles driver.raised polls ∧ driver.wait polls = some (some slots, driver') ∧
    ¬ Late acts 0 ∧ 0 ∈ slots ∧ ∃ owner ∈ live acts, owner.slot = 0 ∧ Called acts owner := by
  let first : Registration := ⟨0, 1⟩
  let second : Registration := ⟨0, 2⟩
  let registered : Driver := ⟨1, ⟨[some 1], [], 1, 1⟩, .empty 1, false⟩
  let released : Driver := ((registered.signal 0).release first).2
  have hregistered : Course 1 [.registered first] registered := .register .start rfl
  have hcalled : Course 1 [.signalled first, .registered first] (registered.signal 0) :=
    .signal hregistered (by simp)
  have howned : ((registered.signal 0).release first).1 = true := by decide
  have hreleased := hcalled.release first
  rw [howned] at hreleased
  have hagain : ∃ driver, released.register = .ok (second, driver) := by
    unfold Driver.register
    rw [show released.slots = ⟨[none], [0], 1, 0⟩ by rw [slots_release, slots_signal]; rfl]
    exact ⟨_, rfl⟩
  obtain ⟨reused, hagain⟩ := hagain
  have hcourse := (hreleased.register hagain).signal List.mem_cons_self
  have hlate : ¬ Late [.signalled second, .registered second, .released first true,
      .signalled first, .registered first] 0 := by
    have hinert : (Act.registered second).Inert := trivial
    rw [late_signalled_iff, late_cons_of_inert hinert, late_released_iff]
    rintro (⟨-, hlost⟩ | ⟨hkept, -⟩)
    · exact hlost List.mem_cons_self
    · exact hkept ⟨rfl, rfl⟩
  have howner : Called [.signalled second, .registered second, .released first true,
      .signalled first, .registered first] second :=
    called_signalled_iff.2 (Or.inl ⟨rfl, List.mem_cons_self⟩)
  have htells : Settles true [⟨0, .interrupted, 3⟩, ⟨3, .raised, 5⟩] :=
    ⟨by simp [Poll.Tells], by simp⟩
  obtain ⟨hpolls, hwait, -⟩ := hcourse.wait_after_signal htells
  have hreported := (hcourse.reported_iff hpolls hwait 0).2
    (Or.inl ⟨second, List.mem_cons_self, rfl, howner⟩)
  exact ⟨_, _, _, _, _, hcourse, hpolls, hwait, hlate, hreported, second, List.mem_cons_self, rfl,
    howner⟩

/-- A late signal is reported: while the slot is free, and again as if it came from the new owner,
which has never signalled. -/
theorem exists_late_reported :
    (∃ acts driver polls slots driver', Course 1 acts driver ∧ Settles driver.raised polls ∧
      driver.wait polls = some (some slots, driver') ∧ 0 ∈ slots ∧ live acts = []) ∧
    ∃ acts driver polls slots driver' owner, Course 1 acts driver ∧ Settles driver.raised polls ∧
      driver.wait polls = some (some slots, driver') ∧ 0 ∈ slots ∧ live acts = [owner] ∧
      owner.slot = 0 ∧ .signalled owner ∉ acts := by
  let first : Registration := ⟨0, 1⟩
  let second : Registration := ⟨0, 2⟩
  let registered : Driver := ⟨1, ⟨[some 1], [], 1, 1⟩, .empty 1, false⟩
  let released : Driver := (registered.release first).2
  have hregistered : Course 1 [.registered first] registered := .register .start rfl
  have hreleased : Course 1 [.released first true, .registered first] released :=
    hregistered.release first
  have hpolls : Settles true [⟨0, .raised, 1⟩] := ⟨by simp [Poll.Tells], by simp⟩
  refine ⟨?_, ?_⟩
  · have hcourse : Course 1 (.signalled first :: _) _ := hreleased.signal (by simp)
    obtain ⟨hsettles, hwait, hmem⟩ := hcourse.wait_after_signal hpolls
    exact ⟨_, _, _, _, _, hcourse, hsettles, hwait, hmem, by decide⟩
  · obtain ⟨reused, hregister⟩ : ∃ driver, released.register = .ok (second, driver) := ⟨_, rfl⟩
    have hcourse : Course 1 (.signalled first :: _) _ :=
      (hreleased.register hregister).signal (by simp)
    obtain ⟨hsettles, hwait, hmem⟩ := hcourse.wait_after_signal hpolls
    exact ⟨_, _, _, _, _, second, hcourse, hsettles, hwait, hmem, by decide, rfl,
      by simp [first, second]⟩

end Driver.Course

end PubSub.Wake
