import PubSub.Proofs.Wake.Tally
import PubSub.Proofs.Wait.Board

/-!
# When enrolments succeed

A wait enrols its sources one after the other.  Its driver was given room for its handles and for its
own guard, so that slots never run out, not even where a handle is listed twice
(`Switchboard.Ample`).  Enrolments then fail for one reason only: a source is claimed already, by
another wait or by an earlier enrolment of the same one (`Switchboard.Ample.enrollAll`).
-/

namespace PubSub

/-! ## Room for slots -/

/-- A reserve of slots is always made, and leaves at most another driver without slots in use. -/
theorem WaitSet.exists_reserve (waitSet : WaitSet) {needed : Nat} (hpos : 0 < needed) :
    ∃ reserved, waitSet.reserve needed = .ok reserved ∧ needed ≤ reserved.driver.capacity ∧
      (reserved = waitSet ∨ ∃ capacity, reserved = { waitSet with driver := .idle capacity }) := by
  unfold WaitSet.reserve
  by_cases hfits : needed ≤ waitSet.driver.capacity
  · rw [if_pos hfits]
    exact ⟨waitSet, rfl, hfits, Or.inl rfl⟩
  · have hle : needed ≤ max needed (min (2 * waitSet.driver.capacity) maxSlots) := Nat.le_max_left ..
    have hne := Nat.ne_of_gt (Nat.lt_of_lt_of_le hpos hle)
    rw [if_neg hfits, Wake.Driver.create, if_neg hne]
    exact ⟨_, rfl, hle, Or.inr ⟨_, rfl⟩⟩

namespace Switchboard

/-- The driver of a wait set has a free slot for each of the sources other than its own guard, and
one for the guard unless that is claimed. -/
def Ample (board : Switchboard) (id : WaitSetId) (guard : GuardId) (todo : List Source) : Prop :=
  ∃ waitSet, board.waitSets.find? id = some waitSet ∧ waitSet.driver.slots.Tallied ∧
    waitSet.driver.activeSlots + todo.countP (· ≠ .guard guard) +
      (if .guard guard ∈ board.claimed then 0 else 1) ≤ waitSet.driver.capacity

/-- Slots that run out are the only reason for which none is registered. -/
theorem register_eq_error {board : Switchboard} {id : WaitSetId} {error : Error}
    (h : board.register id = .error error) : error = .badAlloc := by
  unfold register at h
  split at h
  · cases h
    rfl
  · next waitSet hfind =>
    cases hregister : waitSet.driver.register with
    | error refused =>
      rw [hregister] at h
      cases h
      exact (Wake.Driver.register_eq_error_iff.1 hregister).2
    | ok result =>
      rw [hregister] at h
      cases h

/-! ## One source -/

variable {board : Switchboard} {id : WaitSetId} {guard : GuardId} {source : Source}
  {todo : List Source}

theorem enroll_claimed (h : source ∈ board.claimed) :
    board.enroll id source = .error (.invalidArgument .handleInUse) := by
  unfold enroll claim
  rw [if_pos h]

/-- A source that is not claimed takes one of the slots that there is room for. -/
theorem Ample.enroll (h : board.Ample id guard (source :: todo)) (hfree : source ∉ board.claimed) :
    ∃ hook board', board.enroll id source = .ok (hook, board') ∧
      board'.claimed = source :: board.claimed ∧ board'.Ample id guard todo := by
  obtain ⟨waitSet, hfind, htallied, hroom⟩ := h
  have hcount : (source :: todo).countP (· ≠ .guard guard) +
        (if .guard guard ∈ board.claimed then 0 else 1) =
      todo.countP (· ≠ .guard guard) +
        (if .guard guard ∈ source :: board.claimed then 0 else 1) + 1 := by
    by_cases hguard : source = .guard guard
    · subst hguard
      rw [if_neg hfree, if_pos List.mem_cons_self, List.countP_cons_of_neg (by simp)]
    · have hmem : Source.guard guard ∈ source :: board.claimed ↔ .guard guard ∈ board.claimed := by
        rw [List.mem_cons, or_iff_right (Ne.symm hguard)]
      rw [List.countP_cons_of_pos (by simpa using hguard)]
      simp only [hmem]
      omega
  obtain ⟨registration, driver, hregister⟩ :=
    Wake.Driver.exists_register htallied (by omega)
  obtain ⟨slots, halloc, hdriver⟩ := Wake.Driver.register_eq_ok hregister
  obtain ⟨htallied', hactive⟩ := htallied.allocate? halloc
  have henroll : board.enroll id source = .ok (⟨source, id, registration⟩,
      (setDriver { board with claimed := source :: board.claimed } id driver).attach
        ⟨source, id, registration⟩) := by
    unfold Switchboard.enroll claim register
    rw [if_neg hfree]
    dsimp only
    rw [hfind]
    dsimp only
    rw [hregister]
    rfl
  have hset : (setDriver { board with claimed := source :: board.claimed } id driver).waitSets.find? id =
      some { waitSet with driver } := find?_setDriver_self hfind driver
  refine ⟨_, _, henroll, rfl, _, hset, ?_, ?_⟩
  · rw [hdriver]
    exact htallied'
  · have hactive' : driver.activeSlots = waitSet.driver.activeSlots + 1 := by
      rw [hdriver]
      exact hactive
    have hcapacity : driver.capacity = waitSet.driver.capacity := by rw [hdriver]
    show driver.activeSlots + _ + (if .guard guard ∈ source :: board.claimed then 0 else 1) ≤
      driver.capacity
    omega

/-! ## All sources -/

/-- Enrolments succeed if the sources are distinct and not claimed, and are refused otherwise. -/
theorem Ample.enrollAll (h : board.Ample id guard todo) (done : List Hook) :
    if todo.Nodup ∧ ∀ source ∈ todo, source ∉ board.claimed then
      ∃ enrolled, (board.enrollAll id done todo).1 = .ok enrolled
    else (board.enrollAll id done todo).1 = .error (.invalidArgument .handleInUse) := by
  induction todo generalizing board done with
  | nil => exact ⟨done, rfl⟩
  | cons source rest ih =>
    unfold Switchboard.enrollAll
    by_cases hclaimed : source ∈ board.claimed
    · rw [if_neg fun hall => hall.2 source List.mem_cons_self hclaimed, enroll_claimed hclaimed]
    · obtain ⟨hook, board', henroll, hboard', hample⟩ := h.enroll hclaimed
      have hrest := ih hample (done ++ [hook])
      -- The source itself is now among those that the rest must not contain.
      have hiff : (source :: rest).Nodup ∧ (∀ s ∈ source :: rest, s ∉ board.claimed) ↔
          rest.Nodup ∧ ∀ s ∈ rest, s ∉ board'.claimed := by
        rw [hboard', List.nodup_cons]
        simp only [List.mem_cons, not_or]
        grind
      simp only [hiff, henroll]
      exact hrest

/-! ## What enrolments leave alone -/

theorem guards_release (board : Switchboard) (id : WaitSetId) (registration : Wake.Registration) :
    (board.release id registration).guards = board.guards := by
  unfold release
  split <;> rfl

theorem guards_withdrawAll (board : Switchboard) (hooks : List Hook) :
    (board.withdrawAll hooks).guards = board.guards := by
  unfold withdrawAll
  induction hooks generalizing board with
  | nil => rfl
  | cons hook rest ih => exact (ih (board.withdraw hook)).trans (guards_release ..)

theorem guards_enroll {hook : Hook} {board' : Switchboard}
    (h : board.enroll id source = .ok (hook, board')) : board'.guards = board.guards := by
  unfold enroll at h
  cases hclaim : board.claim source with
  | none =>
    rw [hclaim] at h
    cases h
  | some claimed =>
    obtain ⟨-, rfl⟩ := claim_eq_some hclaim
    rw [hclaim] at h
    dsimp only at h
    generalize hregister : register _ id = result at h
    cases result with
    | error error => cases h
    | ok result =>
      obtain ⟨registration, registered⟩ := result
      obtain ⟨waitSet, driver, -, -, rfl⟩ := register_eq_ok hregister
      cases h
      rfl

theorem guards_enrollAll (board : Switchboard) (id : WaitSetId) (done : List Hook)
    (todo : List Source) : (board.enrollAll id done todo).2.guards = board.guards := by
  induction todo generalizing board done with
  | nil => rfl
  | cons source rest ih =>
    unfold Switchboard.enrollAll
    split
    · next hook board' henroll => exact (ih board' _).trans (guards_enroll henroll)
    · exact guards_withdrawAll ..

end Switchboard

end PubSub
