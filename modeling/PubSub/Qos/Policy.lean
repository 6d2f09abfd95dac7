/-!
# Quality-of-service policies

The values of the single policies. A policy that takes part in matching is either set to an exact
value or holds one of three markers (`Setting`); a time bound has markers of its own (`Bound`).
-/

namespace PubSub.Qos

/-- How many messages an endpoint keeps. -/
inductive History
  | systemDefault
  /-- The most recent messages, as many as the depth says. -/
  | keepLast
  | keepAll
  | unknown
deriving DecidableEq, Repr

/-- A policy value, or the reason why there is none. -/
inductive Setting (α : Type) where
  /-- The middleware picks. -/
  | systemDefault
  /-- A peer's value that could not be read. -/
  | unknown
  /-- Chosen when the endpoint is created, to suit the peers known then. -/
  | bestAvailable
  | exactly (value : α)
deriving DecidableEq, Repr

namespace Setting

variable {α : Type}

instance : Inhabited (Setting α) := ⟨systemDefault⟩

/-- The setting says nothing about the value in effect. -/
def isUndetermined : Setting α → Bool
  | exactly _ => false
  | _ => true

theorem isUndetermined_eq_false_iff {s : Setting α} :
    s.isUndetermined = false ↔ ∃ value, s = exactly value := by
  cases s <;> simp [isUndetermined]

end Setting

/-- Whether lost messages are sent again. -/
inductive Reliability
  | reliable
  | bestEffort
deriving DecidableEq, Repr

/-- Whether a late subscription receives earlier messages. -/
inductive Durability
  | transientLocal
  | volatile
deriving DecidableEq, Repr

/-- How an endpoint shows that it is alive. -/
inductive Liveliness
  | automatic
  | manualByTopic
deriving DecidableEq, Repr

/-- A length of time in nanoseconds. -/
abbrev Span := Nat

namespace Span

/-- This many milliseconds. -/
def ofMillis (ms : Nat) : Span := ms * 1000000

/-- This many seconds. -/
def ofSeconds (seconds : Nat) : Span := seconds * 1000000000

/-- The whole milliseconds of a length of time, with their unit. -/
def text (span : Span) : String := s!"{span / 1000000}ms"

end Span

/-- A time bound: a deadline, a lifespan or a liveliness lease. -/
inductive Bound
  | unspecified
  | infinite
  /-- Chosen when the endpoint is created, to suit the peers known then. -/
  | bestAvailable
  | finite (span : Span)
deriving DecidableEq, Repr

namespace Bound

instance : Inhabited Bound := ⟨unspecified⟩

/-- The bound for a length of time; none at all leaves it unspecified. -/
def ofSpan (span : Span) : Bound :=
  if span = 0 then unspecified else finite span

/-- The bound for a number of milliseconds. -/
def ofMillis (ms : Nat) : Bound := ofSpan (Span.ofMillis ms)

/-- The bound for a number of seconds. -/
def ofSeconds (seconds : Nat) : Bound := ofSpan (Span.ofSeconds seconds)

/-- The length of time that an offering side promises or a requesting side demands. -/
def span? : Bound → Option Span
  | finite span => some span
  | _ => none

def isFinite : Bound → Bool
  | finite _ => true
  | _ => false

def isBestAvailable : Bound → Bool
  | bestAvailable => true
  | _ => false

@[simp] theorem span?_eq_some {b : Bound} {s : Span} : b.span? = some s ↔ b = finite s := by
  cases b <;> simp [span?]

@[simp] theorem isBestAvailable_eq_true {b : Bound} :
    b.isBestAvailable = true ↔ b = bestAvailable := by
  cases b <;> simp [isBestAvailable]

end Bound

/-- The policies that a report can name. -/
inductive PolicyKind
  | durability
  | deadline
  | liveliness
  | reliability
  | history
  | lifespan
  | depth
  | livelinessLease
  | avoidRosNamespaceConventions
deriving DecidableEq, Repr

end PubSub.Qos
