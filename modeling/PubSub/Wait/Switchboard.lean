import PubSub.Endpoint.Core
import PubSub.Table
import PubSub.Wake.Poll

/-!
# Sources and those who wait for them

A wait set waits for sources: channels of endpoints and guard conditions. The `Switchboard` holds the
guards, the wait sets, and who waits for what: a source is claimed by at most one wait at a time, and
a hook on it leads to the slot that is signalled when the source becomes ready.
-/

namespace PubSub

/-- Identifies a guard condition. -/
abbrev GuardId := Nat

/-- Identifies a wait set. -/
abbrev WaitSetId := Nat

/-- What can be waited for. -/
inductive Source
  | endpoint (gid : Gid) (channel : Channel)
  | guard (id : GuardId)
deriving DecidableEq

/-- A slot that is signalled on behalf of a source. -/
structure Hook where
  source : Source
  waitSet : WaitSetId
  registration : Wake.Registration
deriving DecidableEq

/-- A wait set. It has a guard of its own, through which a wait can be ended. -/
structure WaitSet where
  /-- The number of handles in one wait; zero stands for any number. -/
  maxHandles : Nat
  guard : GuardId
  driver : Wake.Driver

/-- The largest number of slots that can be counted. -/
def maxSlots : Nat := UInt64.size - 1

namespace WaitSet

/-- The number of slots of a new wait set: one for each handle and one for its own guard. -/
def initialCapacity (maxHandles unboundedCapacity : Nat) : Nat :=
  if maxHandles = 0 then unboundedCapacity else min (maxHandles + 1) maxSlots

/-- The wait set with at least this many slots. More slots mean another driver, at least twice as
large. -/
def reserve (waitSet : WaitSet) (needed : Nat) : Except Error WaitSet := do
  if needed ≤ waitSet.driver.capacity then return waitSet
  else
    let driver ← Wake.Driver.create (max needed (min (2 * waitSet.driver.capacity) maxSlots))
    return { waitSet with driver }

end WaitSet

/-- The guards, the wait sets, and what each wait is waiting for. -/
structure Switchboard where
  /-- Whether each guard is triggered. -/
  guards : List Bool
  /-- The sources that some wait has claimed. -/
  claimed : List Source
  hooks : List Hook
  waitSets : Table WaitSetId WaitSet
  nextWaitSet : WaitSetId

namespace Switchboard

/-- No guards and no wait sets. -/
def empty : Switchboard := ⟨[], [], [], .empty, 0⟩

/-! ## Guards -/

/-- A new guard, not triggered. -/
def newGuard (board : Switchboard) : GuardId × Switchboard :=
  (board.guards.length, { board with guards := board.guards ++ [false] })

/-- The guard is triggered. -/
def isTriggered (board : Switchboard) (id : GuardId) : Bool :=
  board.guards.getD id false

/-- The drivers after a source became ready: each of its hooks signals its slot. -/
def notify (board : Switchboard) (source : Source) : Switchboard :=
  { board with
    waitSets := board.waitSets.map fun id waitSet =>
      { waitSet with
        driver := (board.hooks.filter fun h => h.source = source ∧ h.waitSet = id).foldl
          (fun driver h => driver.signal h.registration.slot) waitSet.driver } }

/-- Triggers a guard. One that is triggered already does not notify anybody again. -/
def trigger (board : Switchboard) (id : GuardId) : Switchboard :=
  if board.isTriggered id then board
  else { board with guards := board.guards.set id true }.notify (.guard id)

/-- Whether the guard was triggered, and the guards with it untriggered. -/
def consume (board : Switchboard) (id : GuardId) : Bool × Switchboard :=
  (board.isTriggered id, { board with guards := board.guards.set id false })

/-! ## Claims, slots and hooks -/

/-- Claims a source, unless some wait has it. -/
def claim (board : Switchboard) (source : Source) : Option Switchboard :=
  if source ∈ board.claimed then none else some { board with claimed := source :: board.claimed }

/-- Gives up a claim. -/
def unclaim (board : Switchboard) (source : Source) : Switchboard :=
  { board with claimed := board.claimed.filter (· ≠ source) }

/-- The driver of a wait set changed. -/
def setDriver (board : Switchboard) (id : WaitSetId) (driver : Wake.Driver) : Switchboard :=
  { board with waitSets := board.waitSets.modify id fun waitSet => { waitSet with driver } }

/-- Registers a slot of a wait set. -/
def register (board : Switchboard) (id : WaitSetId) :
    Except Error (Wake.Registration × Switchboard) :=
  match board.waitSets.find? id with
  | none => .error .badAlloc
  | some waitSet => do
    let (registration, driver) ← waitSet.driver.register
    return (registration, board.setDriver id driver)

/-- Attaches a hook. -/
def attach (board : Switchboard) (hook : Hook) : Switchboard :=
  { board with hooks := board.hooks ++ [hook] }

/-- Detaches the hooks of a source with this registration id. Ids are unique for one driver only, so
it is the claim that keeps hooks of other wait sets off the source. -/
def detach (board : Switchboard) (source : Source) (id : UInt64) : Switchboard :=
  { board with
    hooks := board.hooks.filter fun h => h.source ≠ source ∨ h.registration.id ≠ id }

/-- Releases the slot of a registration. -/
def release (board : Switchboard) (id : WaitSetId) (registration : Wake.Registration) :
    Switchboard :=
  match board.waitSets.find? id with
  | none => board
  | some waitSet => board.setDriver id (waitSet.driver.release registration).2

/-- Enrols a source with a wait set: claims it, registers a slot and attaches a hook. What was done
is undone if it cannot be completed. -/
def enroll (board : Switchboard) (id : WaitSetId) (source : Source) :
    Except Error (Hook × Switchboard) :=
  match board.claim source with
  | none => .error (.invalidArgument .handleInUse)
  | some claimed => do
    let (registration, registered) ← claimed.register id
    let hook : Hook := ⟨source, id, registration⟩
    return (hook, registered.attach hook)

/-- Undoes an enrolment. -/
def withdraw (board : Switchboard) (hook : Hook) : Switchboard :=
  ((board.detach hook.source hook.registration.id).release hook.waitSet
    hook.registration).unclaim hook.source

/-- Undoes enrolments in the order in which they were made. -/
def withdrawAll (board : Switchboard) (hooks : List Hook) : Switchboard :=
  hooks.foldl withdraw board

/-- Enrols sources one after the other, after those in `done`. If one cannot be enrolled, all
enrolments are undone. -/
def enrollAll (board : Switchboard) (id : WaitSetId) (done : List Hook) :
    List Source → Except Error (List Hook) × Switchboard
  | [] => (.ok done, board)
  | source :: rest =>
    match board.enroll id source with
    | .ok (hook, board) => board.enrollAll id (done ++ [hook]) rest
    | .error error => (.error error, board.withdrawAll done)

/-! ## Wait sets -/

/-- A new wait set with a guard of its own. -/
def newWaitSet (board : Switchboard) (maxHandles unboundedCapacity : Nat) :
    Except Error (WaitSetId × Switchboard) := do
  let driver ← Wake.Driver.create (WaitSet.initialCapacity maxHandles unboundedCapacity)
  let (guard, board) := board.newGuard
  let id := board.nextWaitSet
  return (id, { board with
    waitSets := board.waitSets.insert id { maxHandles, guard, driver }
    nextWaitSet := id + 1 })

/-- Drops a wait set. -/
def dropWaitSet (board : Switchboard) (id : WaitSetId) : Switchboard :=
  { board with waitSets := board.waitSets.erase id }

end Switchboard

end PubSub
