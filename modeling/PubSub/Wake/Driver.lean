import PubSub.Error
import PubSub.Wake.Bits
import PubSub.Wake.Slots

/-!
# Wake drivers

A `Driver` lets one waiter block on many sources. Each source registers a slot and signals it when it
becomes ready; the first signal of a slot raises the event on which the waiter blocks. `collect` lowers
the event and lists the slots signalled since the last time. The event and the pending slots are two
stores: releasing a slot clears its pending bit, but an event that was raised for it stays raised.
-/

namespace PubSub.Wake

/-- Slots, those of them that are pending, and the event on which the waiter blocks. -/
structure Driver where
  capacity : Nat
  slots : SlotTable
  pending : Bits
  /-- The event is raised. -/
  raised : Bool

namespace Driver

/-- A driver with this many slots, all of them free. -/
def idle (capacity : Nat) : Driver where
  capacity
  slots := .empty
  pending := .empty capacity
  raised := false

/-- A driver with this many slots; there has to be one. -/
def create (capacity : Nat) : Except Error Driver :=
  if capacity = 0 then .error (.invalidArgument .noDriverCapacity) else .ok (idle capacity)

/-- The number of registered slots. -/
def activeSlots (driver : Driver) : Nat := driver.slots.active

/-- Registers a slot, if one is left. -/
def register (driver : Driver) : Except Error (Registration × Driver) :=
  match driver.slots.allocate? driver.capacity with
  | some (registration, slots) => .ok (registration, { driver with slots })
  | none => .error .badAlloc

/-- Whether the registration owned its slot, and the driver without it. -/
def release (driver : Driver) (registration : Registration) : Bool × Driver :=
  match driver.slots.release registration with
  | (true, slots) =>
    (true, { driver with slots, pending := driver.pending.clear registration.slot })
  | (false, _) => (false, driver)

/-- Marks a slot pending. The event is raised only if the slot was not pending before. -/
def signal (driver : Driver) (slot : Nat) : Driver :=
  match driver.pending.mark slot with
  | (true, pending) => { driver with pending }
  | (false, pending) => { driver with pending, raised := true }

/-- Lowers the event and takes the pending slots. -/
def collect (driver : Driver) : List Nat × Driver :=
  (driver.pending.drain.1, { driver with pending := driver.pending.drain.2, raised := false })

/-- The pending slots, if the event is raised; otherwise a waiter blocks. -/
def collect? (driver : Driver) : Option (List Nat × Driver) :=
  if driver.raised then some driver.collect else none

end Driver

end PubSub.Wake
