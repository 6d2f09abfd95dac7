import PubSub.Proofs.Wake.Course
import PubSub.Proofs.Wake.Drain

/-!
# No signal is lost, and none is reported twice

A slot is `Due` if it was signalled since the last wait that was woken, and not released after that.
The two stores of a driver follow the history: the pending slots are those that are due, and the event
is raised exactly if there was any signal since the last wake-up (`Tuned`).  The first excludes lost
signals and false reports, and the second says when a wait ends; they part only where a signalled slot
was released, so that a wait can be woken and find nothing (`Course.wait_finds_due`).
-/

namespace PubSub.Wake

/-! ## What a history says about signals -/

namespace Act

/-- A wait was woken. -/
def isWake : Act → Bool
  | woke _ => true
  | _ => false

/-- The slot was signalled, through some registration. -/
def Signals : Act → Nat → Prop
  | signalled registration, slot => registration.slot = slot
  | _, _ => False

/-- The slot was given back by its owner. -/
def Frees : Act → Nat → Prop
  | released registration true, slot => registration.slot = slot
  | _, _ => False

end Act

/-- What happened since a wait was last woken. -/
def sinceWake (acts : List Act) : List Act := acts.takeWhile (!·.isWake)

/-- The slot was signalled since the last wake-up, and not released after that. -/
def Due (acts : List Act) (slot : Nat) : Prop :=
  ∃ later act earlier, sinceWake acts = later ++ act :: earlier ∧ act.Signals slot ∧
    ∀ other ∈ later, ¬ other.Frees slot

/-- A slot that was signalled was released, all of it since the last wake-up. -/
def Lapsed (acts : List Act) : Prop :=
  ∃ slot later act earlier, sinceWake acts = later ++ act :: earlier ∧ act.Frees slot ∧
    ∃ signal ∈ earlier, signal.Signals slot

/-- There was a signal since the last wake-up. -/
def Rung (acts : List Act) : Prop :=
  ∃ slot, ∃ act ∈ sinceWake acts, act.Signals slot

section

variable {acts : List Act} {act : Act} {slot : Nat}

theorem sinceWake_cons (h : act.isWake = false) : sinceWake (act :: acts) = act :: sinceWake acts := by
  simp [sinceWake, h]

theorem sinceWake_woke (slots : List Nat) : sinceWake (.woke slots :: acts) = [] := rfl

theorem not_due_woke (slots : List Nat) : ¬ Due (.woke slots :: acts) slot := by
  rintro ⟨later, act, earlier, hsplit, -⟩
  rw [sinceWake_woke] at hsplit
  simp at hsplit

theorem not_rung_woke (slots : List Nat) : ¬ Rung (.woke slots :: acts) := by
  rintro ⟨slot, act, hmem, -⟩
  rw [sinceWake_woke] at hmem
  cases hmem

/-- One more act that is no wake-up signals the slot, or leaves it due unless it frees it. -/
theorem due_cons_iff (h : act.isWake = false) :
    Due (act :: acts) slot ↔ act.Signals slot ∨ ¬ act.Frees slot ∧ Due acts slot := by
  unfold Due
  rw [sinceWake_cons h]
  constructor
  · rintro ⟨later, signal, earlier, hsplit, hsignal, hkept⟩
    cases later with
    | nil =>
      obtain ⟨rfl, -⟩ := List.cons.inj hsplit
      exact Or.inl hsignal
    | cons first later =>
      rw [List.cons_append] at hsplit
      obtain ⟨rfl, htail⟩ := List.cons.inj hsplit
      refine Or.inr ⟨hkept _ List.mem_cons_self, later, signal, earlier, htail, hsignal, ?_⟩
      intro other hmem
      exact hkept other (List.mem_cons_of_mem _ hmem)
  · rintro (hsignal | ⟨hfrees, later, signal, earlier, hsplit, hsignal, hkept⟩)
    · exact ⟨[], act, sinceWake acts, rfl, hsignal, by simp⟩
    · refine ⟨act :: later, signal, earlier, by rw [hsplit]; rfl, hsignal, ?_⟩
      intro other hmem
      rcases List.mem_cons.1 hmem with rfl | hmem
      · exact hfrees
      · exact hkept other hmem

theorem rung_cons_iff (h : act.isWake = false) :
    Rung (act :: acts) ↔ (∃ slot, act.Signals slot) ∨ Rung acts := by
  unfold Rung
  rw [sinceWake_cons h]
  simp only [List.mem_cons, exists_eq_or_imp, exists_or]

theorem Due.rung (h : Due acts slot) : Rung acts := by
  obtain ⟨later, act, earlier, hsplit, hsignal, -⟩ := h
  exact ⟨slot, act, by simp [hsplit], hsignal⟩

/-- A signal after which nothing is due was for a slot that was released. -/
theorem Rung.lapsed (h : Rung acts) (hnone : ∀ slot, ¬ Due acts slot) : Lapsed acts := by
  obtain ⟨slot, signal, hmem, hsignal⟩ := h
  obtain ⟨later, earlier, hsplit⟩ := List.append_of_mem hmem
  have hfreed : ∃ act ∈ later, act.Frees slot := by
    by_contra hkept
    refine hnone slot ⟨later, signal, earlier, hsplit, hsignal, fun other hother hfrees => ?_⟩
    exact hkept ⟨other, hother, hfrees⟩
  obtain ⟨act, hact, hfrees⟩ := hfreed
  obtain ⟨last, between, rfl⟩ := List.append_of_mem hact
  refine ⟨slot, last, act, between ++ signal :: earlier, ?_, hfrees, signal, ?_, hsignal⟩
  · rw [hsplit, List.append_assoc, List.cons_append]
  · simp

/-- An act that neither signals nor frees a slot changes nothing here. -/
theorem due_cons_of_other (hwake : act.isWake = false) (hsignals : ∀ slot, ¬ act.Signals slot)
    (hfrees : ∀ slot, ¬ act.Frees slot) (slot : Nat) : Due (act :: acts) slot ↔ Due acts slot := by
  rw [due_cons_iff hwake]
  simp [hsignals, hfrees]

theorem rung_cons_of_other (hwake : act.isWake = false) (hsignals : ∀ slot, ¬ act.Signals slot) :
    Rung (act :: acts) ↔ Rung acts := by
  rw [rung_cons_iff hwake]
  simp [hsignals]

end

/-! ## The driver keeps up with its history -/

/-- The pending slots are those that are due, and the event is raised since the first signal. -/
structure Tuned (acts : List Act) (driver : Driver) : Prop where
  pending : ∀ slot, driver.pending.contains slot = true ↔ Due acts slot
  raised : driver.raised = true ↔ Rung acts

namespace Tuned

variable {acts : List Act} {driver driver' : Driver}

theorem start (capacity : Nat) : Tuned [] (.idle capacity) where
  pending slot := by
    refine iff_of_false ?_ ?_
    · simp [Driver.idle, Bits.contains_empty]
    · rintro ⟨later, act, earlier, hsplit, -⟩
      simp [sinceWake] at hsplit
  raised := by
    refine iff_of_false (by simp [Driver.idle]) ?_
    rintro ⟨slot, act, hmem, -⟩
    cases hmem

/-- Acts that leave event and pending slots alone, and neither signal nor free anything. -/
theorem other (h : Tuned acts driver) {act : Act} (hwake : act.isWake = false)
    (hsignals : ∀ slot, ¬ act.Signals slot) (hfrees : ∀ slot, ¬ act.Frees slot)
    (hpending : driver'.pending = driver.pending) (hraised : driver'.raised = driver.raised) :
    Tuned (act :: acts) driver' where
  pending slot := by rw [hpending, h.pending, due_cons_of_other hwake hsignals hfrees]
  raised := by rw [hraised, h.raised, rung_cons_of_other hwake hsignals]

theorem release (h : Tuned acts driver) (registration : Registration) :
    Tuned (.released registration (driver.release registration).1 :: acts)
      (driver.release registration).2 := by
  cases howns : driver.slots.owns registration with
  | false =>
    rw [Driver.release_of_not_owns howns]
    exact h.other rfl (fun _ => id) (fun _ => id) rfl rfl
  | true =>
    rw [Driver.release_of_owns howns]
    constructor
    · intro slot
      rw [Bits.contains_clear, h.pending, due_cons_iff rfl]
      simp only [Act.Signals, Act.Frees, false_or, and_comm, ne_comm, ne_eq]
    · rw [rung_cons_of_other rfl fun _ => id]
      exact h.raised

/-- A signal makes its slot due.  It raises the event unless the slot is pending; but then something
is due, and the event is up since the signal that made it so. -/
theorem signal (h : Tuned acts driver) {registration : Registration}
    (hslot : registration.slot < driver.pending.size) :
    Tuned (.signalled registration :: acts) (driver.signal registration.slot) := by
  constructor
  · intro slot
    rw [Driver.pending_signal, Bits.contains_mark, h.pending, due_cons_iff rfl]
    simp only [Act.Signals, Act.Frees, hslot, and_true, not_false_eq_true, true_and, eq_comm,
      or_comm]
  · have hrung : Rung (.signalled registration :: acts) :=
      (rung_cons_iff rfl).2 (Or.inl ⟨registration.slot, rfl⟩)
    refine iff_of_true ?_ hrung
    rw [Driver.raised_signal]
    cases hold : (driver.pending.mark registration.slot).1 with
    | false => exact Or.inr rfl
    | true =>
      rcases (Bits.fst_mark ..).1 hold with hout | hpending
      · omega
      · exact Or.inl (h.raised.2 ((h.pending _).1 hpending).rung)

theorem collect (driver : Driver) (slots : List Nat) :
    Tuned (.woke slots :: acts) driver.collect.2 where
  pending slot := by
    refine iff_of_false ?_ (not_due_woke slots)
    rw [Bool.not_eq_true]
    exact Bits.contains_drain driver.pending slot
  raised := iff_of_false Bool.false_ne_true (not_rung_woke slots)

end Tuned

namespace Driver.Course

variable {capacity : Nat} {acts : List Act} {driver : Driver}

/-- Every slot given out can be pending. -/
theorem slot_lt (h : Course capacity acts driver) {registration : Registration}
    (hgiven : .registered registration ∈ acts) : registration.slot < capacity := by
  induction h with
  | start => cases hgiven
  | @register acts driver driver' new h hregister ih =>
    rcases List.mem_cons.1 hgiven with heq | hgiven
    · cases heq
      obtain ⟨hsound, -, -, howns, -⟩ := h.sound.1.register hregister
      have hcapacity := (h.register hregister).sound.2
      exact hcapacity ▸ hsound.slots.slot_lt howns
    · exact ih hgiven
  | refuse h hregister ih => exact ih (by simpa using hgiven)
  | release registration h ih => exact ih (by simpa using hgiven)
  | signal h hknown ih => exact ih (by simpa using hgiven)
  | wake h hpolls hwait ih => exact ih (by simpa using hgiven)
  | timeOut h hpolls hwait ih => exact ih (by simpa using hgiven)

theorem tuned (h : Course capacity acts driver) : Tuned acts driver := by
  induction h with
  | start => exact Tuned.start capacity
  | register h hregister ih =>
    obtain ⟨slots, -, rfl⟩ := register_eq_ok hregister
    exact ih.other rfl (fun _ => id) (fun _ => id) rfl rfl
  | refuse h hregister ih => exact ih.other rfl (fun _ => id) (fun _ => id) rfl rfl
  | release registration h ih => exact ih.release registration
  | signal h hgiven ih =>
    apply ih.signal
    rw [h.sound.1.size_pending, h.sound.2]
    exact h.slot_lt hgiven
  | wake h hpolls hwait ih =>
    obtain ⟨-, -, rfl⟩ := wait_eq_woken hpolls hwait
    exact Tuned.collect _ _
  | timeOut h hpolls hwait ih =>
    obtain ⟨-, rfl⟩ := wait_eq_timeout hpolls hwait
    exact ih.other rfl (fun _ => id) (fun _ => id) rfl rfl

/-- After any history, a wait times out exactly if there was no signal since the last wake-up.
Otherwise it finds the slots that are due, all of them and no others, in ascending order; and it finds
none only if a signalled slot was released. -/
theorem wait_finds_due (h : Course capacity acts driver) {polls : List Poll}
    (hpolls : Settles driver.raised polls) :
    ∃ answer driver', driver.wait polls = some (answer, driver') ∧
      (answer = none ↔ ¬ Rung acts) ∧
      (∀ slot, Due acts slot → ∃ slots, answer = some slots ∧ slot ∈ slots) ∧
      ∀ slots, answer = some slots →
        slots.Pairwise (· < ·) ∧ (∀ slot ∈ slots, Due acts slot) ∧ (slots = [] → Lapsed acts) := by
  have htuned := h.tuned
  rw [wait_eq hpolls]
  cases hraised : driver.raised with
  | false =>
    have hsilent : ¬ Rung acts := fun hrung => by simp [htuned.raised.2 hrung] at hraised
    refine ⟨none, driver, rfl, iff_of_true rfl hsilent, ?_, ?_⟩
    · intro slot hdue
      exact absurd hdue.rung hsilent
    · intro slots hslots
      cases hslots
  | true =>
    have hrung := htuned.raised.1 hraised
    have hdue : ∀ slot, slot ∈ driver.collect.1 ↔ Due acts slot :=
      fun slot => Bits.mem_drain.trans (htuned.pending slot)
    refine ⟨some driver.collect.1, driver.collect.2, rfl, by simpa using hrung, ?_, ?_⟩
    · intro slot hslot
      exact ⟨_, rfl, (hdue slot).2 hslot⟩
    · rintro slots ⟨rfl⟩
      refine ⟨Bits.pairwise_drain driver.pending, fun slot => (hdue slot).1, fun hempty => ?_⟩
      apply hrung.lapsed
      intro slot hslot
      have hmem := (hdue slot).2 hslot
      rw [hempty] at hmem
      cases hmem

/-- Two slots are signalled and the first of them is released: an interrupted wait still finds the
second. -/
theorem exists_wait_finds_due :
    ∃ acts driver polls, Course 4 acts driver ∧ Settles driver.raised polls ∧ Due acts 1 ∧
      ∃ slots driver', driver.wait polls = some (some slots, driver') ∧ 1 ∈ slots ∧ 0 ∉ slots := by
  let first : Registration := ⟨0, 1⟩
  let second : Registration := ⟨1, 2⟩
  let acts : List Act := [.released first true, .signalled second, .signalled first,
    .registered second, .registered first]
  let registered : Driver := ⟨4, ⟨[some 1, some 2], [], 2, 2⟩, .empty 4, false⟩
  let signalled : Driver := (registered.signal 0).signal 1
  have hregistered : Course 4 [.registered second, .registered first] registered :=
    .register (.register .start rfl) rfl
  have hfirst : Course 4 [.signalled first, .registered second, .registered first]
      (registered.signal 0) := .signal hregistered (by simp)
  have hsignalled : Course 4 [.signalled second, .signalled first, .registered second,
      .registered first] signalled := .signal hfirst (by simp)
  have howned : (signalled.release first).1 = true := by decide
  have hcourse : Course 4 acts (signalled.release first).2 := by
    have hreleased := hsignalled.release first
    rwa [howned] at hreleased
  have hraised : (signalled.release first).2.raised = true := by decide
  have hpolls : Settles (signalled.release first).2.raised
      [⟨0, .interrupted, 3⟩, ⟨3, .raised, 5⟩] := by
    rw [hraised]
    exact ⟨by simp [Poll.Tells], by simp⟩
  have hdue : Due acts 1 :=
    ⟨[.released first true], .signalled second, _, rfl, rfl, by simp [Act.Frees, first]⟩
  have hnot : ¬ Due acts 0 := by
    rw [due_cons_iff rfl]
    rintro (hsignal | ⟨hkept, -⟩)
    · exact hsignal
    · exact hkept rfl
  refine ⟨_, _, _, hcourse, hpolls, hdue, ?_⟩
  obtain ⟨answer, driver', hwait, -, hfound, hreport⟩ := wait_finds_due hcourse hpolls
  obtain ⟨slots, rfl, hmem⟩ := hfound 1 hdue
  exact ⟨slots, driver', hwait, hmem, fun h => hnot ((hreport slots rfl).2.1 0 h)⟩

end Driver.Course

end PubSub.Wake
