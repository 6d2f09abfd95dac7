import PubSub.Proofs.Wake.Bits
import PubSub.Wake.Driver

/-!
# Sound drivers

A driver is `Sound` if its free slots have no owner and all slots fit into the pending set.  Slots
are then handed out (`SlotTable.Allocates` says all that this does) and taken back without touching
those of others.  The file also takes apart the two operations that other threads can interleave
with: a signal is a `mark` that may be followed by a `raise`, and to collect is to `lower` the event
and then to empty the pending set word by word.
-/

namespace PubSub.Wake

attribute [ext] Registration

namespace SlotTable

/-- The free slots are distinct and have no owner, and no slot is beyond the capacity. -/
structure Sound (table : SlotTable) (capacity : Nat) : Prop where
  nodup_free : table.free.Nodup
  free_unowned : ∀ slot ∈ table.free, table.owners[slot]? = some none
  length_le : table.owners.length ≤ capacity

theorem owns_iff {table : SlotTable} {registration : Registration} :
    table.owns registration = true ↔
      table.owners[registration.slot]? = some (some registration.id) := by
  unfold owns
  exact decide_eq_true_iff

theorem Sound.empty (capacity : Nat) : SlotTable.empty.Sound capacity where
  nodup_free := List.nodup_nil
  free_unowned slot h := by cases h
  length_le := Nat.zero_le capacity

section

variable {table table' : SlotTable} {capacity : Nat} {registration other : Registration}

/-- A slot with an owner is below the capacity. -/
theorem Sound.slot_lt (h : table.Sound capacity) (howns : table.owns registration = true) :
    registration.slot < capacity := by
  obtain ⟨hlt, -⟩ := List.getElem?_eq_some_iff.1 (owns_iff.1 howns)
  exact Nat.lt_of_lt_of_le hlt h.length_le

/-! ### Giving out a slot -/

/-- A registration has a new id, and its slot is the first of those to be reused or, if there is
none, one that was never given out. -/
structure Allocates (table : SlotTable) (capacity : Nat) (registration : Registration)
    (table' : SlotTable) : Prop where
  id : registration.id = table.nextId
  lastId : table'.lastId = table.nextId
  active : table'.active = table.active + 1
  source :
    (table.free = registration.slot :: table'.free ∧
      table'.owners = table.owners.set registration.slot (some registration.id)) ∨
    (table.free = [] ∧ table'.free = [] ∧ registration.slot = table.owners.length ∧
      table.owners.length < capacity ∧ table'.owners = table.owners ++ [some registration.id])

theorem allocate?_eq_some (halloc : table.allocate? capacity = some (registration, table')) :
    table.Allocates capacity registration table' := by
  unfold SlotTable.allocate? at halloc
  dsimp only at halloc
  split at halloc
  · next slot free hfree =>
    simp only [Option.some.injEq, Prod.mk.injEq] at halloc
    obtain ⟨rfl, rfl⟩ := halloc
    exact ⟨rfl, rfl, rfl, Or.inl ⟨hfree, rfl⟩⟩
  · next hfree =>
    split at halloc
    · next hlt =>
      simp only [Option.some.injEq, Prod.mk.injEq] at halloc
      obtain ⟨rfl, rfl⟩ := halloc
      exact ⟨rfl, rfl, rfl, Or.inr ⟨hfree, rfl, rfl, hlt, rfl⟩⟩
    · cases halloc

theorem allocate?_eq_none_iff :
    table.allocate? capacity = none ↔ table.free = [] ∧ capacity ≤ table.owners.length := by
  unfold SlotTable.allocate?
  cases table.free <;> simp

namespace Allocates

/-- A slot that is given out has no owner. -/
theorem unowned (h : table.Allocates capacity registration table') (hsound : table.Sound capacity)
    (id : UInt64) : table.owners[registration.slot]? ≠ some (some id) := by
  rcases h.source with ⟨hfree, -⟩ | ⟨-, -, hslot, -⟩
  · rw [hsound.free_unowned _ (by rw [hfree]; exact List.mem_cons_self)]
    nofun
  · simp [hslot]

theorem getElem?_owners (h : table.Allocates capacity registration table')
    (hsound : table.Sound capacity) (slot : Nat) :
    table'.owners[slot]? =
      if slot = registration.slot then some (some registration.id) else table.owners[slot]? := by
  rcases h.source with ⟨hfree, howners⟩ | ⟨-, -, hslot, -, howners⟩
  · have hold := hsound.free_unowned registration.slot (by rw [hfree]; exact List.mem_cons_self)
    obtain ⟨hlt, -⟩ := List.getElem?_eq_some_iff.1 hold
    rw [howners]
    by_cases heq : slot = registration.slot
    · rw [if_pos heq, heq, List.getElem?_set_self hlt]
    · rw [if_neg heq, List.getElem?_set_ne (Ne.symm heq)]
  · rw [howners, hslot, List.getElem?_append]
    rcases Nat.lt_trichotomy slot table.owners.length with hlt | rfl | hgt
    · rw [if_pos hlt, if_neg (Nat.ne_of_lt hlt)]
    · simp
    · have hout : [some registration.id].length ≤ slot - table.owners.length := by
        rw [List.length_singleton]
        omega
      rw [if_neg (Nat.lt_asymm hgt), if_neg (Nat.ne_of_gt hgt), List.getElem?_eq_none hout,
        List.getElem?_eq_none (Nat.le_of_lt hgt)]

theorem mem_free (h : table.Allocates capacity registration table') (hsound : table.Sound capacity)
    (slot : Nat) : slot ∈ table'.free ↔ slot ∈ table.free ∧ slot ≠ registration.slot := by
  rcases h.source with ⟨hfree, -⟩ | ⟨hfree, hfree', -⟩
  · have hnodup := hsound.nodup_free
    rw [hfree, List.nodup_cons] at hnodup
    rw [hfree, List.mem_cons]
    constructor
    · intro hmem
      refine ⟨Or.inr hmem, ?_⟩
      rintro rfl
      exact hnodup.1 hmem
    · rintro ⟨hmem, hne⟩
      exact hmem.resolve_left hne
  · simp [hfree, hfree']

/-- The new registration owns its slot; otherwise owners stay. -/
theorem owns_iff (h : table.Allocates capacity registration table') (hsound : table.Sound capacity)
    (other : Registration) :
    table'.owns other = true ↔ other = registration ∨ table.owns other = true := by
  rw [SlotTable.owns_iff, SlotTable.owns_iff, h.getElem?_owners hsound]
  by_cases hslot : other.slot = registration.slot
  · have hold : table.owners[other.slot]? ≠ some (some other.id) :=
      hslot ▸ h.unowned hsound other.id
    rw [if_pos hslot]
    simp only [hold, or_false, Option.some.injEq]
    constructor
    · intro hid
      exact Registration.ext hslot hid.symm
    · rintro rfl
      rfl
  · have hne : other ≠ registration := fun heq => hslot (by rw [heq])
    rw [if_neg hslot]
    simp [hne]

theorem sound (h : table.Allocates capacity registration table') (hsound : table.Sound capacity) :
    table'.Sound capacity where
  nodup_free := by
    rcases h.source with ⟨hfree, -⟩ | ⟨-, hfree, -⟩
    · have hnodup := hsound.nodup_free
      rw [hfree] at hnodup
      exact hnodup.of_cons
    · rw [hfree]
      exact List.nodup_nil
  free_unowned slot hmem := by
    obtain ⟨hmem, hne⟩ := (h.mem_free hsound slot).1 hmem
    rw [h.getElem?_owners hsound, if_neg hne]
    exact hsound.free_unowned slot hmem
  length_le := by
    rcases h.source with ⟨-, howners⟩ | ⟨-, -, -, hlt, howners⟩
    · rw [howners, List.length_set]
      exact hsound.length_le
    · rw [howners, List.length_append, List.length_singleton]
      exact hlt

end Allocates

/-- A new registration owns a slot that nobody owned, and the others keep theirs. -/
theorem Sound.allocate? (h : table.Sound capacity)
    (halloc : table.allocate? capacity = some (registration, table')) :
    table'.Sound capacity ∧ table'.owns registration = true ∧
      ∀ other, table.owns other = true → other.slot ≠ registration.slot ∧
        table'.owns other = true := by
  have halloc := allocate?_eq_some halloc
  refine ⟨halloc.sound h, (halloc.owns_iff h _).2 (Or.inl rfl), fun other howns => ⟨?_, ?_⟩⟩
  · intro heq
    exact halloc.unowned h other.id (heq ▸ owns_iff.1 howns)
  · exact (halloc.owns_iff h _).2 (Or.inr howns)

/-! ### Giving a slot back -/

theorem release_of_not_owns (howns : table.owns registration = false) :
    table.release registration = (false, table) := by
  simp [SlotTable.release, howns]

theorem release_of_owns (howns : table.owns registration = true) :
    table.release registration =
      (true, { table with
        owners := table.owners.set registration.slot none
        free := registration.slot :: table.free
        active := table.active - 1 }) := by
  unfold SlotTable.release
  rw [if_pos howns]

theorem getElem?_owners_release (howns : table.owns registration = true) (slot : Nat) :
    (table.release registration).2.owners[slot]? =
      if slot = registration.slot then some none else table.owners[slot]? := by
  obtain ⟨hlt, -⟩ := List.getElem?_eq_some_iff.1 (owns_iff.1 howns)
  rw [release_of_owns howns]
  by_cases heq : slot = registration.slot
  · rw [if_pos heq, heq]
    exact List.getElem?_set_self hlt
  · rw [if_neg heq]
    exact List.getElem?_set_ne (Ne.symm heq)

theorem mem_free_release (howns : table.owns registration = true) (slot : Nat) :
    slot ∈ (table.release registration).2.free ↔ slot = registration.slot ∨ slot ∈ table.free := by
  rw [release_of_owns howns]
  exact List.mem_cons

/-- A release takes the slot away from its owner; otherwise owners stay. -/
theorem owns_release_iff (howns : table.owns registration = true) (other : Registration) :
    (table.release registration).2.owns other = true ↔
      other ≠ registration ∧ table.owns other = true := by
  rw [owns_iff, owns_iff, getElem?_owners_release howns]
  by_cases hslot : other.slot = registration.slot
  · rw [if_pos hslot, hslot, owns_iff.1 howns]
    simp only [Option.some.injEq, reduceCtorEq, false_iff, not_and]
    intro hne hid
    exact hne (Registration.ext hslot hid.symm)
  · have hne : other ≠ registration := fun heq => hslot (by rw [heq])
    rw [if_neg hslot]
    simp [hne]

/-- A slot that is released is free, and the others keep theirs. -/
theorem Sound.release (h : table.Sound capacity) (registration : Registration) :
    (table.release registration).2.Sound capacity ∧
      ∀ other, table.owns other = true → other.slot ≠ registration.slot →
        (table.release registration).2.owns other = true := by
  cases howns : table.owns registration with
  | false =>
    rw [release_of_not_owns howns]
    exact ⟨h, fun _ howned _ => howned⟩
  | true =>
    have hslot := owns_iff.1 howns
    refine ⟨⟨?_, fun slot hmem => ?_, ?_⟩, fun other howned hne => ?_⟩
    · rw [release_of_owns howns]
      refine List.nodup_cons.2 ⟨fun hmem => ?_, h.nodup_free⟩
      rw [h.free_unowned _ hmem] at hslot
      cases hslot
    · rw [getElem?_owners_release howns]
      split
      · rfl
      · next hne =>
        exact h.free_unowned slot (((mem_free_release howns slot).1 hmem).resolve_left hne)
    · rw [release_of_owns howns]
      simpa using h.length_le
    · refine (owns_release_iff howns other).2 ⟨fun heq => hne (by rw [heq]), howned⟩

end

end SlotTable

namespace Driver

/-- The slots are sound, and each of them can be pending. -/
structure Sound (driver : Driver) : Prop where
  slots : driver.slots.Sound driver.capacity
  size_pending : driver.pending.size = driver.capacity

theorem Sound.idle (capacity : Nat) : (Driver.idle capacity).Sound :=
  ⟨.empty capacity, rfl⟩

/-! ## Signals in two steps -/

/-- The first step of a signal: whether the slot was pending, and the driver in which it is. -/
def mark (driver : Driver) (slot : Nat) : Bool × Driver :=
  ((driver.pending.mark slot).1, { driver with pending := (driver.pending.mark slot).2 })

/-- The second step of a signal, made if the slot was not pending. -/
def raise (driver : Driver) : Driver := { driver with raised := true }

theorem signal_eq (driver : Driver) (slot : Nat) :
    driver.signal slot =
      if (driver.mark slot).1 = true then (driver.mark slot).2 else (driver.mark slot).2.raise := by
  unfold signal mark raise
  rcases driver.pending.mark slot with ⟨old, pending⟩
  cases old <;> rfl

theorem Sound.mark {driver : Driver} (h : driver.Sound) (slot : Nat) :
    (driver.mark slot).2.Sound :=
  ⟨h.slots, (Bits.size_mark ..).trans h.size_pending⟩

theorem Sound.raise {driver : Driver} (h : driver.Sound) : driver.raise.Sound :=
  ⟨h.slots, h.size_pending⟩

/-- A mark sets the pending bit of a slot with an owner. -/
theorem Sound.contains_mark {driver : Driver} (h : driver.Sound) {registration : Registration}
    (howns : driver.slots.owns registration = true) :
    (driver.mark registration.slot).2.pending.contains registration.slot = true := by
  have hlt := h.slots.slot_lt howns
  rw [← h.size_pending] at hlt
  exact (Bits.contains_mark ..).2 (Or.inr ⟨rfl, hlt⟩)

/-! ## Collecting word by word -/

/-- The first step of collecting: the event is lowered. -/
def lower (driver : Driver) : Driver := { driver with raised := false }

/-- A further step of collecting: one word of the pending set is emptied. -/
def takeWord (driver : Driver) (k : Nat) : Driver :=
  { driver with pending := driver.pending.takeWord k }

theorem Sound.lower {driver : Driver} (h : driver.Sound) : driver.lower.Sound :=
  ⟨h.slots, h.size_pending⟩

theorem Sound.takeWord {driver : Driver} (h : driver.Sound) (k : Nat) :
    (driver.takeWord k).Sound :=
  ⟨h.slots, h.size_pending⟩

/-- A driver with a lowered event and no word left to take has been collected. -/
theorem snd_collect {driver : Driver} {k : Nat} (hraised : driver.raised = false)
    (htaken : driver.pending.TakenTo k) (hle : driver.pending.words.length ≤ k) :
    driver.collect.2 = driver := by
  cases driver with
  | mk capacity slots pending raised =>
    cases hraised
    exact congrArg (Driver.mk capacity slots · false) (htaken.eq_empty hle).symm

/-! ## Registrations -/

theorem Sound.register {driver driver' : Driver} (h : driver.Sound)
    {registration : Registration} (hreg : driver.register = .ok (registration, driver')) :
    driver'.Sound ∧ driver'.pending = driver.pending ∧ driver'.raised = driver.raised ∧
      driver'.slots.owns registration = true ∧
      ∀ other, driver.slots.owns other = true → other.slot ≠ registration.slot ∧
        driver'.slots.owns other = true := by
  unfold Driver.register at hreg
  split at hreg
  · next registration' slots halloc =>
    simp only [Except.ok.injEq, Prod.mk.injEq] at hreg
    obtain ⟨rfl, rfl⟩ := hreg
    obtain ⟨hslots, howns, hothers⟩ := h.slots.allocate? halloc
    exact ⟨⟨hslots, h.size_pending⟩, rfl, rfl, howns, hothers⟩
  · cases hreg

theorem release_of_not_owns {driver : Driver} {registration : Registration}
    (howns : driver.slots.owns registration = false) :
    driver.release registration = (false, driver) := by
  unfold Driver.release
  rw [SlotTable.release_of_not_owns howns]

/-- The owner of a slot gives it back, and takes its pending bit along. -/
theorem release_of_owns {driver : Driver} {registration : Registration}
    (howns : driver.slots.owns registration = true) :
    driver.release registration =
      (true, { driver with
        slots := (driver.slots.release registration).2
        pending := driver.pending.clear registration.slot }) := by
  unfold Driver.release
  rw [SlotTable.release_of_owns howns]

theorem Sound.release {driver : Driver} (h : driver.Sound) (registration : Registration) :
    (driver.release registration).2.Sound ∧
      (driver.release registration).2.raised = driver.raised ∧
      (∀ i, (driver.release registration).2.pending.contains i = true →
        driver.pending.contains i = true) ∧
      ∀ other, driver.slots.owns other = true → other.slot ≠ registration.slot →
        (driver.release registration).2.slots.owns other = true := by
  obtain ⟨hslots, hothers⟩ := h.slots.release registration
  cases howns : driver.slots.owns registration with
  | false =>
    rw [release_of_not_owns howns]
    exact ⟨h, rfl, fun i hi => hi, fun other howned _ => howned⟩
  | true =>
    rw [release_of_owns howns]
    refine ⟨⟨hslots, (Bits.size_clear ..).trans h.size_pending⟩, rfl, fun i hi => ?_, hothers⟩
    exact ((Bits.contains_clear ..).1 hi).1

end Driver

end PubSub.Wake
