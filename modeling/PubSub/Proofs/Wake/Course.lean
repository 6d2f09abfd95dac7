import PubSub.Proofs.Wake.Tally
import PubSub.Wake.Poll

/-!
# Courses of a driver

A `Course` is a history of operations on one driver, the latest first, with what came of each of them:
slots are registered and released, registrations signal, also after they were released, and waits end.
A wait is made up of polls of which we only ask that they tell the truth about the event (`Settles`);
its outcome is then determined (`Driver.wait_eq`).
-/

namespace PubSub.Wake

/-! ## Waits that end -/

/-- The poll was interrupted, or it reports whether the event is raised. -/
def Poll.Tells (raised : Bool) (poll : Poll) : Prop :=
  poll.result = .interrupted ∨ poll.result = if raised then .raised else .elapsed

/-- The polls of a wait during which the event stays as it is: all of them tell the truth, and one of
them is not interrupted. -/
structure Settles (raised : Bool) (polls : List Poll) : Prop where
  tells : ∀ poll ∈ polls, poll.Tells raised
  ends : ∃ poll ∈ polls, poll.result ≠ .interrupted

theorem Settles.exists_awaitEvent {raised : Bool} {polls : List Poll} (h : Settles raised polls) :
    ∃ at_, awaitEvent polls = some (if raised then .raised at_ else .timeout at_) := by
  obtain ⟨htells, hends⟩ := h
  induction polls with
  | nil =>
    obtain ⟨poll, hmem, -⟩ := hends
    cases hmem
  | cons poll polls ih =>
    unfold awaitEvent
    rcases htells poll List.mem_cons_self with hresult | hresult
    · rw [hresult]
      apply ih
      · intro later hmem
        exact htells later (List.mem_cons_of_mem _ hmem)
      · obtain ⟨last, hmem, hlast⟩ := hends
        rcases List.mem_cons.1 hmem with rfl | hmem
        · exact absurd hresult hlast
        · exact ⟨last, hmem, hlast⟩
    · refine ⟨poll.finish, ?_⟩
      rw [hresult]
      cases raised <;> rfl

namespace Driver

variable {driver driver' : Driver} {polls : List Poll} {answer : Option (List Nat)}

/-- A wait finds the pending slots if the event is raised, and otherwise times out. -/
theorem wait_eq (h : Settles driver.raised polls) :
    driver.wait polls =
      some (if driver.raised then (some driver.collect.1, driver.collect.2) else (none, driver)) := by
  obtain ⟨at_, hawait⟩ := h.exists_awaitEvent
  unfold wait
  rw [hawait]
  cases driver.raised <;> rfl

theorem wait_eq_woken (h : Settles driver.raised polls) {slots : List Nat}
    (hwait : driver.wait polls = some (some slots, driver')) :
    driver.raised = true ∧ slots = driver.collect.1 ∧ driver' = driver.collect.2 := by
  rw [wait_eq h] at hwait
  cases hraised : driver.raised with
  | false => simp [hraised] at hwait
  | true =>
    simp only [hraised, if_true, Option.some.injEq, Prod.mk.injEq] at hwait
    exact ⟨rfl, hwait.1.symm, hwait.2.symm⟩

theorem wait_eq_timeout (h : Settles driver.raised polls)
    (hwait : driver.wait polls = some (none, driver')) : driver.raised = false ∧ driver' = driver := by
  rw [wait_eq h] at hwait
  cases hraised : driver.raised with
  | false =>
    simp only [hraised, Bool.false_eq_true, if_false, Option.some.injEq, Prod.mk.injEq] at hwait
    exact ⟨rfl, hwait.2.symm⟩
  | true => simp [hraised] at hwait

end Driver

/-! ## Histories -/

/-- What was done with a driver, and what came of it. -/
inductive Act
  | registered (registration : Registration)
  /-- There was no slot to register. -/
  | refused (error : Error)
  /-- A release was called for, of a slot that the registration owned or did not own. -/
  | released (registration : Registration) (owned : Bool)
  | signalled (registration : Registration)
  /-- A wait ended with these slots. -/
  | woke (slots : List Nat)
  | timedOut

/-- What can happen to a driver with this many slots, and where it leads.  Any registration can be
asked to be released, but a signal comes from one that the driver gave out. -/
inductive Driver.Course (capacity : Nat) : List Act → Driver → Prop
  | start : Course capacity [] (.idle capacity)
  | register {acts : List Act} {driver driver' : Driver} {registration : Registration} :
      Course capacity acts driver → driver.register = .ok (registration, driver') →
      Course capacity (.registered registration :: acts) driver'
  | refuse {acts : List Act} {driver : Driver} {error : Error} :
      Course capacity acts driver → driver.register = .error error →
      Course capacity (.refused error :: acts) driver
  | release {acts : List Act} {driver : Driver} (registration : Registration) :
      Course capacity acts driver →
      Course capacity (.released registration (driver.release registration).1 :: acts)
        (driver.release registration).2
  | signal {acts : List Act} {driver : Driver} {registration : Registration} :
      Course capacity acts driver → .registered registration ∈ acts →
      Course capacity (.signalled registration :: acts) (driver.signal registration.slot)
  | wake {acts : List Act} {driver driver' : Driver} {polls : List Poll} {slots : List Nat} :
      Course capacity acts driver → Settles driver.raised polls →
      driver.wait polls = some (some slots, driver') →
      Course capacity (.woke slots :: acts) driver'
  | timeOut {acts : List Act} {driver driver' : Driver} {polls : List Poll} :
      Course capacity acts driver → Settles driver.raised polls →
      driver.wait polls = some (none, driver') →
      Course capacity (.timedOut :: acts) driver'

/-! ## What the operations leave alone -/

namespace Driver

variable {driver driver' : Driver} {registration : Registration}

theorem slots_signal (driver : Driver) (slot : Nat) : (driver.signal slot).slots = driver.slots := by
  rw [signal_eq]
  split <;> rfl

theorem capacity_signal (driver : Driver) (slot : Nat) :
    (driver.signal slot).capacity = driver.capacity := by
  rw [signal_eq]
  split <;> rfl

theorem pending_signal (driver : Driver) (slot : Nat) :
    (driver.signal slot).pending = (driver.pending.mark slot).2 := by
  rw [signal_eq]
  split <;> rfl

/-- A signal raises the event, unless the slot is pending already. -/
theorem raised_signal (driver : Driver) (slot : Nat) :
    (driver.signal slot).raised = true ↔
      driver.raised = true ∨ (driver.pending.mark slot).1 = false := by
  rw [signal_eq]
  cases hold : (driver.mark slot).1 with
  | false => exact iff_of_true rfl (Or.inr hold)
  | true =>
    have hold : (driver.pending.mark slot).1 = true := hold
    simp [mark, hold]

theorem capacity_release (driver : Driver) (registration : Registration) :
    (driver.release registration).2.capacity = driver.capacity := by
  cases howns : driver.slots.owns registration with
  | false => rw [release_of_not_owns howns]
  | true => rw [release_of_owns howns]

theorem slots_release (driver : Driver) (registration : Registration) :
    (driver.release registration).2.slots = (driver.slots.release registration).2 := by
  cases howns : driver.slots.owns registration with
  | false =>
    rw [release_of_not_owns howns, SlotTable.release_of_not_owns howns]
  | true => rw [release_of_owns howns]

theorem Sound.signal (h : driver.Sound) (slot : Nat) : (driver.signal slot).Sound := by
  rw [signal_eq]
  split
  · exact h.mark slot
  · exact (h.mark slot).raise

theorem Sound.collect (h : driver.Sound) : driver.collect.2.Sound :=
  ⟨h.slots, (Bits.size_drain driver.pending).trans h.size_pending⟩

namespace Course

variable {capacity : Nat} {acts : List Act}

theorem sound (h : Course capacity acts driver) : driver.Sound ∧ driver.capacity = capacity := by
  induction h with
  | start => exact ⟨.idle capacity, rfl⟩
  | register h hregister ih =>
    obtain ⟨slots, -, hdriver⟩ := register_eq_ok hregister
    exact ⟨(ih.1.register hregister).1, by rw [hdriver, ih.2]⟩
  | refuse h hregister ih => exact ih
  | release registration h ih =>
    exact ⟨(ih.1.release registration).1, (capacity_release ..).trans ih.2⟩
  | signal h hgiven ih => exact ⟨ih.1.signal _, (capacity_signal ..).trans ih.2⟩
  | wake h hpolls hwait ih =>
    obtain ⟨-, -, rfl⟩ := wait_eq_woken hpolls hwait
    exact ⟨ih.1.collect, ih.2⟩
  | timeOut h hpolls hwait ih =>
    obtain ⟨-, rfl⟩ := wait_eq_timeout hpolls hwait
    exact ih

end Course

end Driver

end PubSub.Wake
