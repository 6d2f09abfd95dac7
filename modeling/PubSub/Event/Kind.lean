import PubSub.Error

/-!
# Kinds of status events

An endpoint keeps three status books (`StatusSlot`). Each supported event reads one of them, on one
side of the match; the other kinds exist in name only.
-/

namespace PubSub

/-- A status book of an endpoint. -/
inductive StatusSlot
  | matched
  | incompatibleQos
  | incompatibleType
deriving DecidableEq, Repr

/-- What an event handle observes. -/
inductive EventKind
  | subscriptionMatched
  | publicationMatched
  | requestedQosIncompatible
  | offeredQosIncompatible
  | subscriptionIncompatibleType
  | publisherIncompatibleType
  | livelinessChanged
  | livelinessLost
  | requestedDeadlineMissed
  | offeredDeadlineMissed
  | messageLost
deriving DecidableEq, Repr

namespace EventKind

/-- The kind as messages name it. -/
def title : EventKind → String
  | subscriptionMatched => "SubscriptionMatched"
  | publicationMatched => "PublicationMatched"
  | requestedQosIncompatible => "RequestedQosIncompatible"
  | offeredQosIncompatible => "OfferedQosIncompatible"
  | subscriptionIncompatibleType => "SubscriptionIncompatibleType"
  | publisherIncompatibleType => "PublisherIncompatibleType"
  | livelinessChanged => "LivelinessChanged"
  | livelinessLost => "LivelinessLost"
  | requestedDeadlineMissed => "RequestedDeadlineMissed"
  | offeredDeadlineMissed => "OfferedDeadlineMissed"
  | messageLost => "MessageLost"

/-- Every kind, once. -/
def all : List EventKind :=
  [subscriptionMatched, publicationMatched, requestedQosIncompatible, offeredQosIncompatible,
    subscriptionIncompatibleType, publisherIncompatibleType, livelinessChanged, livelinessLost,
    requestedDeadlineMissed, offeredDeadlineMissed, messageLost]

theorem mem_all (kind : EventKind) : kind ∈ all := by
  cases kind <;> decide

/-- The kind with this title. -/
def ofTitle? (text : String) : Option EventKind := all.find? (·.title = text)

/-- The book that the event reads. -/
def slot : EventKind → Except Error StatusSlot
  | subscriptionMatched | publicationMatched => .ok .matched
  | requestedQosIncompatible | offeredQosIncompatible => .ok .incompatibleQos
  | subscriptionIncompatibleType | publisherIncompatibleType => .ok .incompatibleType
  | livelinessChanged => .error (.unsupported "liveliness changed event")
  | livelinessLost => .error (.unsupported "liveliness lost event")
  | requestedDeadlineMissed => .error (.unsupported "requested deadline missed event")
  | offeredDeadlineMissed => .error (.unsupported "offered deadline missed event")
  | messageLost => .error (.unsupported "message lost event")

/-- The event is ever raised. -/
def isSupported (kind : EventKind) : Bool :=
  kind.slot.isOk

/-- The event belongs to a publisher, and otherwise to a subscription. -/
def onPublisher : EventKind → Bool
  | publicationMatched | offeredQosIncompatible | publisherIncompatibleType | livelinessLost
  | offeredDeadlineMissed => true
  | _ => false

end EventKind

end PubSub
