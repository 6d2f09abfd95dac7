import Mathlib.Data.List.Nodup
import PubSub.Proofs.Wake.Course

/-!
# Who owns the slots

A history says which registrations were given out (`givenOut`) and which of them are `live`: those
that were not released since.  As long as the ids do not run out, the slot table agrees with it
(`Tracks`): a registration owns its slot exactly while it is live, and the free slots are those that
were given out and have no owner.  From this `Course.slots_intact` reads off that slots are never
shared, ids never come back, and slots are refused, released and counted as they should be.
-/

namespace PubSub.Wake

/-! ## What a history says about registrations -/

/-- The registrations given out, the latest first. -/
def givenOut : List Act → List Registration
  | [] => []
  | .registered registration :: acts => registration :: givenOut acts
  | _ :: acts => givenOut acts

/-- The registrations that were given out and not released since. -/
def live : List Act → List Registration
  | [] => []
  | .registered registration :: acts => registration :: live acts
  | .released registration _ :: acts => (live acts).erase registration
  | _ :: acts => live acts

theorem live_sublist (acts : List Act) : (live acts).Sublist (givenOut acts) := by
  induction acts with
  | nil => exact List.Sublist.slnil
  | cons act acts ih =>
    cases act with
    | registered registration => exact ih.cons_cons registration
    | released registration owned => exact List.erase_sublist.trans ih
    | refused | signalled | woke | timedOut => exact ih

/-! ## The table keeps up with the history -/

/-- The slot table agrees with what was given out and what is live. -/
structure Tracks (given live : List Registration) (table : SlotTable) : Prop where
  owns_iff : ∀ registration, table.owns registration = true ↔ registration ∈ live
  mem_free_iff : ∀ slot, slot ∈ table.free ↔ table.owners[slot]? = some none
  given_iff : ∀ slot, table.owners[slot]? ≠ none ↔
    ∃ registration ∈ given, registration.slot = slot
  nodup_live : live.Nodup
  active : table.active = live.length
  lastId : table.lastId.toNat = given.length
  id_le : ∀ registration ∈ given, registration.id.toNat ≤ given.length
  nodup_ids : (given.map (·.id)).Nodup

namespace Tracks

variable {given live : List Registration} {table table' : SlotTable} {registration : Registration}

theorem start : Tracks [] [] .empty where
  owns_iff registration := by simp [SlotTable.owns, SlotTable.empty]
  mem_free_iff slot := by simp [SlotTable.empty]
  given_iff slot := by simp [SlotTable.empty]
  nodup_live := List.nodup_nil
  active := rfl
  lastId := rfl
  id_le registration hmem := by cases hmem
  nodup_ids := List.nodup_nil

/-- While the ids last, each is greater by one than the one before. -/
theorem toNat_nextId (h : Tracks given live table) (hfew : given.length + 1 < UInt64.size) :
    table.nextId.toNat = given.length + 1 := by
  have hsum : (table.lastId + 1).toNat = given.length + 1 := by
    rw [UInt64.toNat_add, UInt64.toNat_one, h.lastId]
    exact Nat.mod_eq_of_lt hfew
  have hne : table.lastId + 1 ≠ 0 := by
    intro hzero
    rw [hzero, UInt64.toNat_zero] at hsum
    omega
  unfold SlotTable.nextId
  rw [if_neg hne, hsum]

theorem register (h : Tracks given live table) {capacity : Nat} (hsound : table.Sound capacity)
    (halloc : table.Allocates capacity registration table')
    (hfew : given.length + 1 < UInt64.size) :
    Tracks (registration :: given) (registration :: live) table' := by
  have hid : registration.id.toNat = given.length + 1 := by rw [halloc.id, h.toNat_nextId hfew]
  constructor
  case owns_iff =>
    intro other
    rw [halloc.owns_iff hsound, h.owns_iff, List.mem_cons]
  case mem_free_iff =>
    intro slot
    rw [halloc.mem_free hsound, halloc.getElem?_owners hsound, h.mem_free_iff]
    by_cases hslot : slot = registration.slot <;> simp [hslot]
  case given_iff =>
    intro slot
    rw [halloc.getElem?_owners hsound]
    by_cases hslot : slot = registration.slot
    · simp [hslot]
    · rw [if_neg hslot, h.given_iff]
      simp [Ne.symm hslot]
  case nodup_live =>
    refine List.nodup_cons.2 ⟨fun hmem => ?_, h.nodup_live⟩
    exact halloc.unowned hsound _ (SlotTable.owns_iff.1 ((h.owns_iff registration).2 hmem))
  case active => rw [halloc.active, h.active, List.length_cons]
  case lastId => rw [halloc.lastId, ← halloc.id, hid, List.length_cons]
  case id_le =>
    intro other hmem
    rw [List.length_cons]
    rcases List.mem_cons.1 hmem with rfl | hmem
    · omega
    · have hle := h.id_le other hmem
      omega
  case nodup_ids =>
    -- an id given out before is at most the number of registrations so far
    refine List.nodup_cons.2 ⟨fun hmem => ?_, h.nodup_ids⟩
    obtain ⟨other, hother, heq : other.id = registration.id⟩ := List.mem_map.1 hmem
    have hle := h.id_le other hother
    rw [heq] at hle
    omega

theorem release (h : Tracks given live table)
    (hactive : table.owns registration = true →
      (table.release registration).2.active + 1 = table.active) :
    Tracks given (live.erase registration) (table.release registration).2 := by
  cases howns : table.owns registration with
  | false =>
    have hlive : registration ∉ live := by
      rw [← h.owns_iff, howns]
      exact Bool.false_ne_true
    rw [SlotTable.release_of_not_owns howns, List.erase_of_not_mem hlive]
    exact h
  | true =>
    have hlive : registration ∈ live := (h.owns_iff registration).1 howns
    constructor
    case owns_iff =>
      intro other
      rw [SlotTable.owns_release_iff howns, h.owns_iff, h.nodup_live.mem_erase_iff]
    case mem_free_iff =>
      intro slot
      rw [SlotTable.mem_free_release howns, SlotTable.getElem?_owners_release howns,
        h.mem_free_iff]
      by_cases hslot : slot = registration.slot <;> simp [hslot]
    case given_iff =>
      intro slot
      rw [SlotTable.getElem?_owners_release howns, ← h.given_iff]
      by_cases hslot : slot = registration.slot
      · simp [hslot, SlotTable.owns_iff.1 howns]
      · rw [if_neg hslot]
    case nodup_live => exact h.nodup_live.erase registration
    case active =>
      have hactive := hactive howns
      rw [List.length_erase_of_mem hlive, ← h.active]
      omega
    case lastId =>
      rw [SlotTable.release_of_owns howns]
      exact h.lastId
    case id_le => exact h.id_le
    case nodup_ids => exact h.nodup_ids

end Tracks

/-! ## Histories -/

namespace Driver.Course

variable {capacity : Nat} {acts : List Act} {driver : Driver}

theorem tallied (h : Course capacity acts driver) : driver.slots.Tallied := by
  induction h with
  | start => exact .empty
  | register h hregister ih =>
    obtain ⟨slots, halloc, rfl⟩ := register_eq_ok hregister
    exact (ih.allocate? halloc).1
  | @release acts driver registration h ih =>
    rw [slots_release]
    cases howns : driver.slots.owns registration with
    | false => rwa [SlotTable.release_of_not_owns howns]
    | true => exact (ih.release h.sound.1.slots howns).1
  | signal h hgiven ih => rwa [slots_signal]
  | refuse h hregister ih => exact ih
  | wake h hpolls hwait ih =>
    obtain ⟨-, -, rfl⟩ := wait_eq_woken hpolls hwait
    exact ih
  | timeOut h hpolls hwait ih =>
    obtain ⟨-, rfl⟩ := wait_eq_timeout hpolls hwait
    exact ih

theorem tracks (h : Course capacity acts driver) (hfew : (givenOut acts).length < UInt64.size) :
    Tracks (givenOut acts) (live acts) driver.slots := by
  induction h with
  | start => exact Tracks.start
  | @register acts driver driver' registration h hregister ih =>
    rw [givenOut, List.length_cons] at hfew
    obtain ⟨slots, halloc, rfl⟩ := register_eq_ok hregister
    exact (ih (by omega)).register h.sound.1.slots (SlotTable.allocate?_eq_some halloc) hfew
  | @release acts driver registration h ih =>
    rw [slots_release]
    exact (ih hfew).release fun howns => (h.tallied.release h.sound.1.slots howns).2
  | signal h hgiven ih =>
    rw [slots_signal]
    exact ih hfew
  | refuse h hregister ih => exact ih hfew
  | wake h hpolls hwait ih =>
    obtain ⟨-, -, rfl⟩ := wait_eq_woken hpolls hwait
    exact ih hfew
  | timeOut h hpolls hwait ih =>
    obtain ⟨-, rfl⟩ := wait_eq_timeout hpolls hwait
    exact ih hfew

end Driver.Course

/-! ## What holds at any moment -/

/-- Slots and ids are in order: what registrations, releases and counts go by is the history. -/
structure Driver.Intact (acts : List Act) (driver : Driver) : Prop where
  /-- Live registrations do not share a slot. -/
  nodup_slots : ((live acts).map (·.slot)).Nodup
  slot_lt : ∀ registration ∈ live acts, registration.slot < driver.capacity
  nodup_live_ids : ((live acts).map (·.id)).Nodup
  /-- No id was given out twice. -/
  nodup_ids : ((givenOut acts).map (·.id)).Nodup
  nodup_free : driver.slots.free.Nodup
  /-- The slots to be reused were given out and have no owner. -/
  mem_free_iff : ∀ slot, slot ∈ driver.slots.free ↔
    (∃ registration ∈ givenOut acts, registration.slot = slot) ∧
      ∀ registration ∈ live acts, registration.slot ≠ slot
  activeSlots_eq : driver.activeSlots = (live acts).length
  /-- A slot is refused exactly if all of them are in use. -/
  refused_iff : ∀ error, driver.register = .error error ↔
    (live acts).length = driver.capacity ∧ error = .badAlloc
  released_iff : ∀ registration, (driver.release registration).1 = true ↔ registration ∈ live acts
  /-- What is not live cannot be released. -/
  release_eq : ∀ registration, registration ∉ live acts →
    driver.release registration = (false, driver)

namespace Tracks

variable {given live : List Registration} {table : SlotTable}

/-- Of two live registrations with one slot, both have the id that owns it. -/
theorem nodup_slots (h : Tracks given live table) : (live.map (·.slot)).Nodup := by
  refine h.nodup_live.map_on ?_
  rintro ⟨slot, id⟩ hmem ⟨slot', id'⟩ hmem' heq
  cases heq
  have howner := SlotTable.owns_iff.1 ((h.owns_iff _).2 hmem)
  have howner' := SlotTable.owns_iff.1 ((h.owns_iff _).2 hmem')
  rw [howner] at howner'
  cases howner'
  rfl

/-- A slot has no owner exactly if no live registration has it. -/
theorem unowned_iff (h : Tracks given live table) (slot : Nat) :
    table.owners[slot]? = some none ↔
      (∃ registration ∈ given, registration.slot = slot) ∧
        ∀ registration ∈ live, registration.slot ≠ slot := by
  rw [← h.given_iff]
  have hlive : ∀ id, table.owners[slot]? = some (some id) ↔ (⟨slot, id⟩ : Registration) ∈ live :=
    fun id => SlotTable.owns_iff.symm.trans (h.owns_iff ⟨slot, id⟩)
  constructor
  · intro hnone
    refine ⟨by simp [hnone], ?_⟩
    rintro ⟨slot', id⟩ hmem rfl
    rw [← hlive, hnone] at hmem
    cases hmem
  · rintro ⟨hgiven, hother⟩
    match hslot : table.owners[slot]? with
    | none => exact absurd hslot hgiven
    | some none => rfl
    | some (some id) => exact absurd rfl (hother _ ((hlive id).1 hslot))

end Tracks

/-- After any history with fewer registrations than there are ids, slots and ids are in order. -/
theorem Driver.Course.slots_intact {capacity : Nat} {acts : List Act} {driver : Driver}
    (h : Course capacity acts driver) (hfew : (givenOut acts).length < UInt64.size) :
    driver.capacity = capacity ∧ driver.Intact acts := by
  have htracks := h.tracks hfew
  obtain ⟨⟨hsound, -⟩, hcapacity⟩ := h.sound
  refine ⟨hcapacity, ?_⟩
  constructor
  case nodup_slots => exact htracks.nodup_slots
  case slot_lt =>
    intro registration hmem
    exact hsound.slot_lt ((htracks.owns_iff registration).2 hmem)
  case nodup_live_ids => exact ((live_sublist acts).map _).nodup htracks.nodup_ids
  case nodup_ids => exact htracks.nodup_ids
  case nodup_free => exact hsound.nodup_free
  case mem_free_iff =>
    intro slot
    rw [htracks.mem_free_iff, htracks.unowned_iff]
  case activeSlots_eq => exact htracks.active
  case refused_iff =>
    intro error
    rw [register_eq_error_iff, h.tallied.allocate?_eq_none_iff hsound, htracks.active]
  case released_iff =>
    intro registration
    rw [← htracks.owns_iff]
    cases howns : driver.slots.owns registration with
    | false => simp [release_of_not_owns howns]
    | true => simp [release_of_owns howns]
  case release_eq =>
    intro registration hmem
    apply release_of_not_owns
    rw [← Bool.not_eq_true, htracks.owns_iff]
    exact hmem

/-- Two slots, both given out; the first is released, which cannot be done twice, and given out again
under a new id.  Then there is none left. -/
theorem Driver.Course.exists_slots_intact :
    let first : Registration := ⟨0, 1⟩
    let second : Registration := ⟨1, 2⟩
    let third : Registration := ⟨0, 3⟩
    let acts : List Act := [.registered third, .released first false, .released first true,
      .registered second, .registered first]
    ∃ driver, Course 2 acts driver ∧ live acts = [third, second] ∧
      driver.register = .error .badAlloc ∧ (driver.release third).1 = true ∧
      driver.release first = (false, driver) := by
  intro first second third acts
  let both : Driver := ⟨2, ⟨[some 1, some 2], [], 2, 2⟩, .empty 2, false⟩
  let one : Driver := (both.release first).2
  have hboth : Course 2 [.registered second, .registered first] both :=
    .register (.register .start rfl) rfl
  have hfirst : both.slots.owns first = true := by decide
  have hgone : one.slots.owns first = false := by decide
  have hone : Course 2 [.released first true, .registered second, .registered first] one := by
    have hreleased := hboth.release first
    rwa [release_of_owns hfirst] at hreleased
  have hstill : Course 2 [.released first false, .released first true, .registered second,
      .registered first] one := by
    have hreleased := hone.release first
    rwa [release_of_not_owns hgone] at hreleased
  have hthird : Course 2 acts _ := .register hstill rfl
  obtain ⟨hcapacity, hintact⟩ := slots_intact hthird (by decide)
  have hlive : live acts = [third, second] := by decide
  refine ⟨_, hthird, hlive, ?_, ?_, ?_⟩
  · exact (hintact.refused_iff _).2 ⟨by rw [hlive, hcapacity]; rfl, rfl⟩
  · exact (hintact.released_iff third).2 (by rw [hlive]; simp)
  · exact hintact.release_eq first (by rw [hlive]; decide)

end PubSub.Wake
