import PubSub.Error
import PubSub.Qos.Policy

/-!
# Quality-of-service profiles

A `Profile` holds every policy of one endpoint. The presets are the usual starting points;
`validate` refuses the two combinations that make no sense, and `queueCapacity` is the number of
messages that an endpoint with this profile keeps.
-/

namespace PubSub.Qos

/-- The policies of an endpoint. -/
structure Profile where
  history : History
  /-- The number of messages kept by keep-last history. -/
  depth : Nat
  reliability : Setting Reliability
  durability : Setting Durability
  deadline : Bound
  lifespan : Bound
  liveliness : Setting Liveliness
  livelinessLease : Bound
  /-- Use topic names as they are. -/
  avoidRosNamespaceConventions : Bool
deriving DecidableEq, Repr

namespace Profile

/-- The depth where none is given. -/
def defaultDepth : Nat := 10

/-- General purpose: the last ten messages, reliable, nothing for late subscriptions. -/
def standard : Profile where
  history := .keepLast
  depth := defaultDepth
  reliability := .exactly .reliable
  durability := .exactly .volatile
  deadline := .unspecified
  lifespan := .unspecified
  liveliness := .systemDefault
  livelinessLease := .unspecified
  avoidRosNamespaceConventions := false

instance : Inhabited Profile := ⟨standard⟩

/-- Sensor streams: the last five messages, best effort. -/
def sensorData : Profile :=
  { standard with depth := 5, reliability := .exactly .bestEffort }

/-- Parameter requests: a thousand messages. -/
def parameters : Profile := { standard with depth := 1000 }

/-- Services are served as everything else. -/
def services : Profile := standard

/-- Parameter changes: a thousand messages. -/
def parameterEvents : Profile := { standard with depth := 1000 }

/-- Every policy left to the middleware. -/
def systemDefault : Profile where
  history := .systemDefault
  depth := 0
  reliability := .systemDefault
  durability := .systemDefault
  deadline := .unspecified
  lifespan := .unspecified
  liveliness := .systemDefault
  livelinessLease := .unspecified
  avoidRosNamespaceConventions := false

/-- As strict as the peers known at creation allow. -/
def bestAvailable : Profile where
  history := .keepLast
  depth := defaultDepth
  reliability := .bestAvailable
  durability := .bestAvailable
  deadline := .bestAvailable
  lifespan := .unspecified
  liveliness := .bestAvailable
  livelinessLease := .bestAvailable
  avoidRosNamespaceConventions := false

/-- A peer whose profile could not be read. -/
def unknown : Profile where
  history := .unknown
  depth := 0
  reliability := .unknown
  durability := .unknown
  deadline := .unspecified
  lifespan := .unspecified
  liveliness := .unknown
  livelinessLease := .unspecified
  avoidRosNamespaceConventions := false

/-- Some policy is still to be chosen. -/
def hasBestAvailable (profile : Profile) : Bool :=
  profile.reliability = .bestAvailable || profile.durability = .bestAvailable ||
    profile.liveliness = .bestAvailable || profile.deadline.isBestAvailable ||
    profile.livelinessLease.isBestAvailable || profile.lifespan.isBestAvailable

/-- Refuses keep-last history without a depth, and a lifespan left to the peers. -/
def validate (profile : Profile) : Except Error Unit :=
  if profile.history = .keepLast ∧ profile.depth = 0 then
    .error (.invalidArgument .keepLastWithoutDepth)
  else if profile.lifespan.isBestAvailable then
    .error (.invalidArgument .bestAvailableLifespan)
  else .ok ()

/-- The number of messages kept, or `none` for all of them. -/
def queueCapacity (profile : Profile) : Option Nat :=
  match profile.history with
  | .keepLast => some (max profile.depth 1)
  | .keepAll => none
  | .systemDefault | .unknown => some (if profile.depth = 0 then defaultDepth else profile.depth)

/-- A queue always has room for one message. -/
theorem queueCapacity_pos {profile : Profile} {n : Nat} (h : profile.queueCapacity = some n) :
    0 < n := by
  unfold queueCapacity at h
  split at h
  · cases h; omega
  · cases h
  all_goals
    cases h
    split
    · decide
    · omega

theorem validate_eq_ok_iff {profile : Profile} :
    profile.validate = .ok () ↔
      ¬(profile.history = .keepLast ∧ profile.depth = 0) ∧ profile.lifespan ≠ .bestAvailable := by
  unfold validate
  split
  · simp_all
  · split <;> simp_all

end Profile

end PubSub.Qos
