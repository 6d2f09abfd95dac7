import PubSub.Event.Kind
import PubSub.Qos.Policy

/-!
# Statuses

The three status books of an endpoint. Each counts in total and since the last time it was taken;
`taken` is the status after that, with the counts of changes anew. A count fits into 32 bits, and one
of changes into 32 bits with a sign, as long as the endpoint was given fewer than `2 ^ 31`
notices (`Context.KeepsBooks.counters_fit`).
-/

namespace PubSub

/-- How many counterparts an endpoint has been matched with, and how many it is matched with now. -/
structure MatchedStatus where
  total : Nat := 0
  totalChange : Int := 0
  current : Nat := 0
  currentChange : Int := 0
deriving DecidableEq, Repr

namespace MatchedStatus

/-- A counterpart was gained. -/
def gain (status : MatchedStatus) : MatchedStatus where
  total := status.total + 1
  totalChange := status.totalChange + 1
  current := status.current + 1
  currentChange := status.currentChange + 1

/-- A counterpart was lost; the number of counterparts stops at zero. -/
def lose (status : MatchedStatus) : MatchedStatus :=
  { status with current := status.current - 1, currentChange := status.currentChange - 1 }

def taken (status : MatchedStatus) : MatchedStatus :=
  { status with totalChange := 0, currentChange := 0 }

def hasChanges (status : MatchedStatus) : Bool :=
  status.totalChange ≠ 0 || status.currentChange ≠ 0

end MatchedStatus

/-- How many counterparts had an incompatible profile, and the policy that the last one broke. -/
structure IncompatibleQosStatus where
  total : Nat := 0
  totalChange : Int := 0
  lastPolicy : Option Qos.PolicyKind := none
deriving DecidableEq, Repr

namespace IncompatibleQosStatus

def add (status : IncompatibleQosStatus) (policy : Qos.PolicyKind) : IncompatibleQosStatus where
  total := status.total + 1
  totalChange := status.totalChange + 1
  lastPolicy := some policy

def taken (status : IncompatibleQosStatus) : IncompatibleQosStatus :=
  { status with totalChange := 0 }

def hasChanges (status : IncompatibleQosStatus) : Bool :=
  status.totalChange ≠ 0

end IncompatibleQosStatus

/-- How many counterparts had another message type. -/
structure IncompatibleTypeStatus where
  total : Nat := 0
  totalChange : Int := 0
deriving DecidableEq, Repr

namespace IncompatibleTypeStatus

def add (status : IncompatibleTypeStatus) : IncompatibleTypeStatus where
  total := status.total + 1
  totalChange := status.totalChange + 1

def taken (status : IncompatibleTypeStatus) : IncompatibleTypeStatus :=
  { status with totalChange := 0 }

def hasChanges (status : IncompatibleTypeStatus) : Bool :=
  status.totalChange ≠ 0

end IncompatibleTypeStatus

/-- The status of one book. -/
inductive EventStatus
  | matched (status : MatchedStatus)
  | incompatibleQos (status : IncompatibleQosStatus)
  | incompatibleType (status : IncompatibleTypeStatus)
deriving DecidableEq, Repr

/-- Something changed since the status was last taken. -/
def EventStatus.hasChanges : EventStatus → Bool
  | matched status => status.hasChanges
  | incompatibleQos status => status.hasChanges
  | incompatibleType status => status.hasChanges

end PubSub
