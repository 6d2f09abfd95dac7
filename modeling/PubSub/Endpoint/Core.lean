import PubSub.Dispatch
import PubSub.Endpoint.Kind
import PubSub.Event.Status

/-!
# The changing part of a local endpoint

A `Core` holds what happens to a local endpoint: the messages that wait to be taken, how many messages
it has sent, and its three status books. Each of these channels has a notifier for push callbacks.
-/

namespace PubSub

/-- A message in a queue. -/
structure Message where
  payload : List UInt8
  /-- The endpoint that sent it. -/
  source : Gid
  /-- The number that the sender gave it. -/
  sequence : Int
deriving DecidableEq

/-- What can become ready at an endpoint. -/
inductive Channel
  /-- Messages to be taken. -/
  | data
  /-- Changes in a status book. -/
  | status (slot : StatusSlot)
deriving DecidableEq, Repr

/-- Drops the oldest messages until there is room for another one. There is never room in a queue
that holds nothing. -/
def makeRoom (capacity : Nat) : List Message → Option (List Message)
  | [] => if capacity = 0 then none else some []
  | message :: rest =>
    if capacity ≤ (message :: rest).length then makeRoom capacity rest
    else some (message :: rest)

/-- The state of a local endpoint. -/
structure Core where
  kind : EndpointKind
  /-- Messages published in the same context are not received. -/
  ignoresLocal : Bool
  /-- The number of messages that may wait; without a number, any number may. -/
  capacity : Option Nat
  inbox : List Message := []
  /-- The number of messages sent. In a history of fewer than `2 ^ 63` operations it fits into 64 bits
  with a sign (`Context.Course.counters_fit`). -/
  sent : Nat := 0
  matched : MatchedStatus := {}
  incompatibleQos : IncompatibleQosStatus := {}
  incompatibleType : IncompatibleTypeStatus := {}
  dataNotifier : Notifier := {}
  matchedNotifier : Notifier := {}
  incompatibleQosNotifier : Notifier := {}
  incompatibleTypeNotifier : Notifier := {}
deriving DecidableEq

namespace Core

/-- The notifier of a channel. -/
def notifier (core : Core) : Channel → Notifier
  | .data => core.dataNotifier
  | .status .matched => core.matchedNotifier
  | .status .incompatibleQos => core.incompatibleQosNotifier
  | .status .incompatibleType => core.incompatibleTypeNotifier

/-- The core with another notifier for a channel. -/
def setNotifier (core : Core) (channel : Channel) (notifier : Notifier) : Core :=
  match channel with
  | .data => { core with dataNotifier := notifier }
  | .status .matched => { core with matchedNotifier := notifier }
  | .status .incompatibleQos => { core with incompatibleQosNotifier := notifier }
  | .status .incompatibleType => { core with incompatibleTypeNotifier := notifier }

@[simp] theorem notifier_setNotifier (core : Core) (channel : Channel) (notifier : Notifier) :
    (core.setNotifier channel notifier).notifier channel = notifier := by
  rcases channel with _ | (_ | _ | _) <;> rfl

/-- The messages that are kept when another one arrives. -/
def kept (core : Core) : List Message :=
  match core.capacity with
  | some capacity => (makeRoom capacity core.inbox).getD []
  | none => core.inbox

/-- Queues a message; when the queue is full, the oldest one goes. -/
def enqueue (core : Core) (message : Message) : Core :=
  { core with inbox := core.kept ++ [message] }

/-- Takes the oldest message. -/
def dequeue (core : Core) : Option Message × Core :=
  match core.inbox with
  | [] => (none, core)
  | message :: rest => (some message, { core with inbox := rest })

/-- The status in a book. -/
def status (core : Core) : StatusSlot → EventStatus
  | .matched => .matched core.matched
  | .incompatibleQos => .incompatibleQos core.incompatibleQos
  | .incompatibleType => .incompatibleType core.incompatibleType

/-- The core after the status of a book was taken. -/
def takeStatus (core : Core) : StatusSlot → Core
  | .matched => { core with matched := core.matched.taken }
  | .incompatibleQos => { core with incompatibleQos := core.incompatibleQos.taken }
  | .incompatibleType => { core with incompatibleType := core.incompatibleType.taken }

/-- There is something to be taken from the channel. -/
def isReady (core : Core) : Channel → Bool
  | .data => !core.inbox.isEmpty
  | .status slot => (core.status slot).hasChanges

end Core

end PubSub
