import PubSub.Proofs.Wake.Driver
import PubSub.Wait.Switchboard

/-!
# Boards, one operation at a time

What claims, slots, hooks and drivers are after each operation of a `Switchboard`, and what it was
that let the operation succeed.  To notify of a source is to signal its hooks one after the other
(`Switchboard.notify_eq_foldl`).
-/

namespace PubSub

namespace Switchboard

/-- Every driver is sound. -/
def Sound (board : Switchboard) : Prop :=
  ∀ id waitSet, board.waitSets.find? id = some waitSet → waitSet.driver.Sound

section

variable {board board' : Switchboard} {id : WaitSetId}

/-! ## Guards and claims -/

theorem isTriggered_consume {id g : GuardId}
    (h : (board.consume id).2.isTriggered g = true) : board.isTriggered g = true ∧ g ≠ id := by
  unfold consume isTriggered at *
  simp only [List.getD_eq_getElem?_getD, List.getElem?_set] at h ⊢
  by_cases hg : id = g
  · rw [if_pos hg] at h
    split at h <;> cases h
  · rw [if_neg hg] at h
    exact ⟨h, Ne.symm hg⟩

theorem claim_eq_some {source : Source} (h : board.claim source = some board') :
    source ∉ board.claimed ∧ board' = { board with claimed := source :: board.claimed } := by
  unfold claim at h
  split at h
  · cases h
  · next hnot => exact ⟨hnot, (Option.some.inj h).symm⟩

theorem unclaim_claim {source : Source}
    (h : board.claim source = some board') : board'.unclaim source = board := by
  obtain ⟨hnot, rfl⟩ := claim_eq_some h
  have hkept : board.claimed.filter (· ≠ source) = board.claimed := by
    refine List.filter_eq_self.2 fun s hs => decide_eq_true ?_
    rintro rfl
    exact hnot hs
  unfold unclaim
  dsimp only
  rw [List.filter_cons_of_neg (by simp), hkept]

/-! ## Drivers -/

theorem find?_setDriver (board : Switchboard) (id : WaitSetId) (driver : Wake.Driver)
    (k : WaitSetId) :
    (board.setDriver id driver).waitSets.find? k =
      if k = id then (board.waitSets.find? k).map fun waitSet => { waitSet with driver }
      else board.waitSets.find? k :=
  Table.find?_modify ..

/-- The wait set whose driver changed. -/
theorem find?_setDriver_self {waitSet : WaitSet} (h : board.waitSets.find? id = some waitSet)
    (driver : Wake.Driver) :
    (board.setDriver id driver).waitSets.find? id = some { waitSet with driver } := by
  rw [find?_setDriver, if_pos rfl, h]
  rfl

theorem setDriver_setDriver (board : Switchboard) (id : WaitSetId) (a b : Wake.Driver) :
    (board.setDriver id a).setDriver id b = board.setDriver id b := by
  unfold setDriver
  rw [Table.modify_modify]

theorem Sound.setDriver (h : board.Sound) {driver : Wake.Driver} (hdriver : driver.Sound) :
    (board.setDriver id driver).Sound := by
  intro k waitSet hk
  rw [find?_setDriver] at hk
  split at hk
  · obtain ⟨waitSet', -, rfl⟩ := Option.map_eq_some_iff.1 hk
    exact hdriver
  · exact h k waitSet hk

/-! ## Slots and hooks -/

theorem register_eq_ok {registration : Wake.Registration}
    (h : board.register id = .ok (registration, board')) :
    ∃ waitSet driver, board.waitSets.find? id = some waitSet ∧
      waitSet.driver.register = .ok (registration, driver) ∧
      board' = board.setDriver id driver := by
  unfold register at h
  split at h
  · cases h
  · next waitSet hfind =>
    cases hreg : waitSet.driver.register with
    | error error =>
      rw [hreg] at h
      cases h
    | ok result =>
      rw [hreg] at h
      obtain ⟨registration', driver⟩ := result
      cases h
      exact ⟨waitSet, driver, hfind, hreg, rfl⟩

theorem release_eq {registration : Wake.Registration} {waitSet : WaitSet}
    (h : board.waitSets.find? id = some waitSet) :
    board.release id registration =
      board.setDriver id (waitSet.driver.release registration).2 := by
  unfold release
  rw [h]

theorem mem_hooks_attach {hook h : Hook} :
    h ∈ (board.attach hook).hooks ↔ h ∈ board.hooks ∨ h = hook := by
  simp [attach]

theorem mem_hooks_detach {source : Source} {id : UInt64} {h : Hook} :
    h ∈ (board.detach source id).hooks ↔
      h ∈ board.hooks ∧ (h.source ≠ source ∨ h.registration.id ≠ id) := by
  simp [detach]

theorem mem_claimed_unclaim {source s : Source} :
    s ∈ (board.unclaim source).claimed ↔ s ∈ board.claimed ∧ s ≠ source := by
  simp [unclaim]

/-! ## Guards and wait sets that are new -/

theorem isTriggered_newGuard (board : Switchboard) (g : GuardId) :
    board.newGuard.2.isTriggered g = board.isTriggered g := by
  show (board.guards ++ [false]).getD g false = board.guards.getD g false
  rw [List.getD_eq_getElem?_getD, List.getD_eq_getElem?_getD]
  by_cases hg : g < board.guards.length
  · rw [List.getElem?_append_left hg]
  · rw [List.getElem?_append_right (Nat.le_of_not_lt hg),
      List.getElem?_eq_none (Nat.le_of_not_lt hg)]
    cases g - board.guards.length <;> rfl

theorem newWaitSet_eq_ok {maxHandles slots : Nat}
    (h : board.newWaitSet maxHandles slots = .ok (id, board')) :
    id = board.nextWaitSet ∧
      board' =
        { board.newGuard.2 with
          waitSets := board.waitSets.insert board.nextWaitSet
            ⟨maxHandles, board.guards.length, .idle (WaitSet.initialCapacity maxHandles slots)⟩
          nextWaitSet := board.nextWaitSet + 1 } := by
  unfold newWaitSet Wake.Driver.create at h
  split at h
  · cases h
  · cases h
    exact ⟨rfl, rfl⟩

end

/-! ## Hook by hook -/

/-- Signals the slot of a hook. -/
def signalHook (board : Switchboard) (hook : Hook) : Switchboard :=
  { board with
    waitSets := board.waitSets.modify hook.waitSet fun waitSet =>
      { waitSet with driver := waitSet.driver.signal hook.registration.slot } }

theorem signalHook_eq {board : Switchboard} {hook : Hook} {waitSet : WaitSet}
    (h : board.waitSets.find? hook.waitSet = some waitSet) :
    board.signalHook hook =
      board.setDriver hook.waitSet (waitSet.driver.signal hook.registration.slot) := by
  unfold signalHook setDriver
  congr 1
  exact Table.modify_congr h rfl

theorem foldl_signalHook (hooks : List Hook) (board : Switchboard) :
    hooks.foldl signalHook board =
      { board with
        waitSets := board.waitSets.map fun id waitSet =>
          { waitSet with
            driver := (hooks.filter (·.waitSet = id)).foldl
              (fun driver h => driver.signal h.registration.slot) waitSet.driver } } := by
  induction hooks generalizing board with
  | nil => simp [Table.map]
  | cons hook rest ih =>
    rw [List.foldl_cons, ih]
    unfold signalHook Table.modify
    dsimp only
    rw [Table.map_map]
    congr 2
    funext id waitSet
    by_cases hid : hook.waitSet = id
    · simp [hid]
    · simp [hid, Ne.symm hid]

/-- To notify of a source is to signal the slots of its hooks one after the other. -/
theorem notify_eq_foldl (board : Switchboard) (source : Source) :
    board.notify source = (board.hooks.filter (·.source = source)).foldl signalHook board := by
  rw [foldl_signalHook]
  unfold notify
  simp [List.filter_filter, Bool.and_comm]

end Switchboard

/-- More slots are slots of a driver that is as good as new. -/
theorem WaitSet.reserve_eq_ok {waitSet reserved : WaitSet} {needed : Nat}
    (h : waitSet.reserve needed = .ok reserved) :
    reserved = waitSet ∨ ∃ capacity, reserved = { waitSet with driver := .idle capacity } := by
  unfold WaitSet.reserve at h
  split at h
  · cases h
    exact Or.inl rfl
  · unfold Wake.Driver.create at h
    split at h
    · cases h
    · cases h
      exact Or.inr ⟨_, rfl⟩

end PubSub
