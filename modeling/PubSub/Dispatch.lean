/-!
# Callbacks and their dispatch

Callbacks run on a thread of their own, which takes jobs off a queue in the order in which they were
put there. A `Notifier` turns events into jobs: with a callback each event becomes a job at once;
without one events are counted, and the next callback learns their number.
-/

namespace PubSub

/-- Identifies a callback that was handed over. -/
abbrev CallbackId := Nat

/-- An entry of the dispatch queue. -/
inductive Job
  /-- Call with the number of events since the last call. -/
  | invoke (callback : CallbackId) (count : Nat)
  | stop
deriving DecidableEq, Repr

/-- How a callback ends. -/
inductive CallbackResult
  | returned
  | panicked
deriving DecidableEq, Repr

/-- A call that was made. -/
structure Invocation where
  callback : CallbackId
  count : Nat
  result : CallbackResult
deriving DecidableEq, Repr

/-- The queue of the dispatch thread. -/
structure Dispatcher where
  jobs : List Job
  /-- The thread was told to stop. -/
  stopped : Bool
deriving DecidableEq

namespace Dispatcher

/-- A thread with nothing to do yet. -/
def start : Dispatcher := ⟨[], false⟩

/-- Puts a job at the end of the queue. -/
def push (dispatcher : Dispatcher) (job : Job) : Dispatcher :=
  { dispatcher with jobs := dispatcher.jobs ++ [job] }

/-- Tells the thread to stop after the jobs queued so far; a second time changes nothing. -/
def stop (dispatcher : Dispatcher) : Dispatcher :=
  if dispatcher.stopped then dispatcher else { dispatcher.push .stop with stopped := true }

/-- The calls that the thread makes, given how each callback ends. A callback that panics does not
keep the later ones from being called. -/
def run (result : CallbackId → CallbackResult) : List Job → List Invocation
  | [] => []
  | .stop :: _ => []
  | .invoke callback count :: jobs => ⟨callback, count, result callback⟩ :: run result jobs

/-- The counts with which a callback was called, in order. -/
def countsOf (callback : CallbackId) (invocations : List Invocation) : List Nat :=
  (invocations.filter (·.callback = callback)).map (·.count)

end Dispatcher

/-- The callback of a source of events, and the number of events that no callback learnt of. The
number fits into 64 bits as long as there are fewer than `2 ^ 64` events
(`Reporting.Reachable.unnotified_fits`). -/
structure Notifier where
  callback : Option CallbackId := none
  unnotified : Nat := 0
deriving DecidableEq, Repr

namespace Notifier

/-- One more event: the notifier afterwards, and the job to be queued if there is a callback. -/
def raise (notifier : Notifier) : Notifier × Option Job :=
  match notifier.callback with
  | some callback =>
    ({ notifier with unnotified := 0 }, some (.invoke callback (notifier.unnotified + 1)))
  | none => ({ notifier with unnotified := notifier.unnotified + 1 }, none)

/-- Another callback, or none: the notifier afterwards, and the job that reports earlier events. -/
def setCallback (notifier : Notifier) (callback : Option CallbackId) : Notifier × Option Job :=
  match callback with
  | some id =>
    if 0 < notifier.unnotified then (⟨some id, 0⟩, some (.invoke id notifier.unnotified))
    else (⟨some id, notifier.unnotified⟩, none)
  | none => (⟨none, notifier.unnotified⟩, none)

end Notifier

end PubSub
