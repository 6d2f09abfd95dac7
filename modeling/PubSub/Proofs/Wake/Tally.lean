import Mathlib.Data.List.Perm.Subperm
import PubSub.Proofs.Wake.Driver

/-!
# Slots in use

A driver counts its slots in use.  `SlotTable.Tallied` says that the count is right: of the slots
handed out so far, those that are not free are in use.  It follows that a slot is refused only if as
many are in use as there are (`Driver.exists_register`).
-/

namespace PubSub.Wake

namespace SlotTable

/-- Each slot handed out so far is in use or free. -/
def Tallied (table : SlotTable) : Prop :=
  table.active + table.free.length = table.owners.length

theorem Tallied.empty : SlotTable.empty.Tallied := rfl

section

variable {table table' : SlotTable} {capacity : Nat} {registration : Registration}

theorem Tallied.allocate? (h : table.Tallied)
    (halloc : table.allocate? capacity = some (registration, table')) :
    table'.Tallied ∧ table'.active = table.active + 1 := by
  have halloc := allocate?_eq_some halloc
  refine ⟨?_, halloc.active⟩
  unfold Tallied at *
  rcases halloc.source with ⟨hfree, howners⟩ | ⟨hfree, hfree', -, -, howners⟩
  · rw [hfree, List.length_cons] at h
    rw [halloc.active, howners, List.length_set]
    omega
  · rw [hfree, List.length_nil] at h
    rw [halloc.active, howners, hfree', List.length_append, List.length_singleton, List.length_nil]
    omega

/-- A slot is refused exactly if all of them are in use. -/
theorem Tallied.allocate?_eq_none_iff (h : table.Tallied) (hsound : table.Sound capacity) :
    table.allocate? capacity = none ↔ table.active = capacity := by
  have hle := hsound.length_le
  have h : table.active + table.free.length = table.owners.length := h
  rw [SlotTable.allocate?_eq_none_iff, ← List.length_eq_zero_iff]
  omega

/-- There is a slot to be had unless all of them are in use. -/
theorem Tallied.exists_allocate? (h : table.Tallied) (hroom : table.active < capacity) :
    ∃ registration table', table.allocate? capacity = some (registration, table') := by
  have h : table.active + table.free.length = table.owners.length := h
  cases halloc : table.allocate? capacity with
  | some allocated => exact ⟨allocated.1, allocated.2, rfl⟩
  | none =>
    rw [SlotTable.allocate?_eq_none_iff, ← List.length_eq_zero_iff] at halloc
    omega

/-- Where a slot has an owner, not all slots are free. -/
theorem Sound.length_free_lt (h : table.Sound capacity)
    (howns : table.owns registration = true) : table.free.length < table.owners.length := by
  have hslot := owns_iff.1 howns
  have hnodup : (registration.slot :: table.free).Nodup := by
    refine List.nodup_cons.2 ⟨fun hmem => ?_, h.nodup_free⟩
    rw [h.free_unowned _ hmem] at hslot
    cases hslot
  have hrange : registration.slot :: table.free ⊆ List.range table.owners.length := by
    intro slot hmem
    rw [List.mem_range]
    rcases List.mem_cons.1 hmem with rfl | hmem
    · exact (List.getElem?_eq_some_iff.1 hslot).1
    · exact (List.getElem?_eq_some_iff.1 (h.free_unowned slot hmem)).1
  have hlength := (List.subperm_of_subset hnodup hrange).length_le
  rwa [List.length_cons, List.length_range] at hlength

theorem Tallied.release (h : table.Tallied) (hsound : table.Sound capacity)
    (howns : table.owns registration = true) :
    (table.release registration).2.Tallied ∧
      (table.release registration).2.active + 1 = table.active := by
  have hlt := hsound.length_free_lt howns
  have h : table.active + table.free.length = table.owners.length := h
  unfold Tallied
  rw [release_of_owns howns]
  dsimp only
  rw [List.length_set, List.length_cons]
  omega

end

end SlotTable

namespace Driver

variable {driver driver' : Driver} {registration : Registration}

theorem register_eq_ok (h : driver.register = .ok (registration, driver')) :
    ∃ slots, driver.slots.allocate? driver.capacity = some (registration, slots) ∧
      driver' = { driver with slots } := by
  unfold Driver.register at h
  split at h
  · next registration' slots halloc =>
    simp only [Except.ok.injEq, Prod.mk.injEq] at h
    obtain ⟨rfl, rfl⟩ := h
    exact ⟨slots, halloc, rfl⟩
  · cases h

theorem register_eq_error_iff {error : Error} :
    driver.register = .error error ↔
      driver.slots.allocate? driver.capacity = none ∧ error = .badAlloc := by
  unfold Driver.register
  split
  · next halloc => simp [halloc]
  · next halloc => simp [halloc, eq_comm]

/-- A driver hands out a slot unless all of them are in use. -/
theorem exists_register (h : driver.slots.Tallied) (hroom : driver.activeSlots < driver.capacity) :
    ∃ registration driver', driver.register = .ok (registration, driver') := by
  obtain ⟨registration, slots, halloc⟩ := h.exists_allocate? hroom
  unfold Driver.register
  rw [halloc]
  exact ⟨_, _, rfl⟩

end Driver

end PubSub.Wake
