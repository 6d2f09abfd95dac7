import PubSub.Wake.Driver

/-!
# Waiting for a limited time

The event of a driver is awaited by calls that take whole milliseconds and may be interrupted. Times
are nanoseconds of a clock that never goes back. `pollMillis` is the argument of each call: what is
left until the deadline, rounded up, and at most the largest number that the call takes.
-/

namespace PubSub.Wake

/-- The latest time that the clock can represent. -/
def lastInstant : Nat := 0x8000000000000000 * 1000000000 - 1

/-- The time at which a wait that starts at `start` gives up; `none` is never. A time that the clock
cannot represent is as good as none. -/
def deadline? (start : Nat) (timeout : Option Nat) : Option Nat :=
  (timeout.map (start + ·)).filter (· ≤ lastInstant)

/-- The largest number of milliseconds that one call takes. -/
def maxPollMillis : Nat := 0x7FFFFFFF

/-- The argument of a call at time `now`; a negative number blocks without limit. -/
def pollMillis (deadline : Option Nat) (now : Nat) : Int :=
  match deadline with
  | none => -1
  | some deadline => Int.ofNat (min ((deadline - now + 999999) / 1000000) maxPollMillis)

/-- How a call ends. -/
inductive PollResult
  /-- The time given to the call went by. -/
  | elapsed
  /-- The event is raised. -/
  | raised
  | interrupted
deriving DecidableEq, Repr

/-- One call: when it was made, how it ended, and when. -/
structure Poll where
  start : Nat
  result : PollResult
  finish : Nat
deriving DecidableEq, Repr

/-- How a wait for the event ends, and when. -/
inductive EventOutcome
  | timeout (at_ : Nat)
  | raised (at_ : Nat)
deriving DecidableEq, Repr

/-- The outcome of the calls of one wait: interrupted calls are made again. -/
def awaitEvent : List Poll → Option EventOutcome
  | [] => none
  | poll :: polls =>
    match poll.result with
    | .elapsed => some (.timeout poll.finish)
    | .raised => some (.raised poll.finish)
    | .interrupted => awaitEvent polls

/-- What the operating system promises about a call: it takes time, it times out only after as many
milliseconds as it was given, and never if it was given no limit. -/
def Poll.Honest (deadline : Option Nat) (poll : Poll) : Prop :=
  poll.start ≤ poll.finish ∧
    (poll.result = .elapsed →
      0 ≤ pollMillis deadline poll.start ∧
        (poll.start : Int) + pollMillis deadline poll.start * 1000000 ≤ poll.finish)

/-- Waits on a driver: the pending slots once the event is raised, or nothing on a timeout. -/
def Driver.wait (driver : Driver) (polls : List Poll) : Option (Option (List Nat) × Driver) :=
  match awaitEvent polls with
  | some (.raised _) => some (some driver.collect.1, driver.collect.2)
  | some (.timeout _) => some (none, driver)
  | none => none

end PubSub.Wake
