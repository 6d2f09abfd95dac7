/-!
# Slots and their owners

A `SlotTable` hands out numbered slots. Each registration gets an id of its own, so that a slot is
given back only by the registration that owns it. Slots given back are reused, last one first.
-/

namespace PubSub.Wake

/-- A slot together with the id of its registration. -/
structure Registration where
  slot : Nat
  id : UInt64
deriving DecidableEq

/-- The owners of the slots handed out so far. -/
structure SlotTable where
  /-- The id that owns each slot, if any. -/
  owners : List (Option UInt64)
  /-- The slots without an owner; the next one to be reused comes first. -/
  free : List Nat
  /-- The id of the last registration. -/
  lastId : UInt64
  /-- The number of slots with an owner. -/
  active : Nat
deriving DecidableEq

namespace SlotTable

/-- The table in which no slot has been handed out. -/
def empty : SlotTable := ⟨[], [], 0, 0⟩

/-- The id after the last one; zero is never an id. -/
def nextId (table : SlotTable) : UInt64 :=
  if table.lastId + 1 = 0 then 1 else table.lastId + 1

/-- A slot below `capacity` with a new owner, or `none` if every slot has one. -/
def allocate? (table : SlotTable) (capacity : Nat) : Option (Registration × SlotTable) :=
  let id := table.nextId
  match table.free with
  | slot :: free =>
    some (⟨slot, id⟩,
      { owners := table.owners.set slot (some id), free, lastId := id,
        active := table.active + 1 })
  | [] =>
    let slot := table.owners.length
    if slot < capacity then
      some (⟨slot, id⟩,
        { owners := table.owners ++ [some id], free := [], lastId := id,
          active := table.active + 1 })
    else none

/-- The registration owns its slot. -/
def owns (table : SlotTable) (registration : Registration) : Bool :=
  table.owners[registration.slot]? = some (some registration.id)

/-- Whether the registration owned its slot, and the table in which it does not. -/
def release (table : SlotTable) (registration : Registration) : Bool × SlotTable :=
  if table.owns registration then
    (true,
      { table with
        owners := table.owners.set registration.slot none
        free := registration.slot :: table.free
        active := table.active - 1 })
  else (false, table)

end SlotTable

end PubSub.Wake
