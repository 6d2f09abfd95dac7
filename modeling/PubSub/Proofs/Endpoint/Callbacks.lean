import Mathlib.Algebra.GroupWithZero.Nat
import PubSub.Dispatch

/-!
# Callbacks learn of every event once

A notifier has events raised and callbacks set at any time and in any order.  A `Notifier.Course` is
all that happened to one, with the jobs that were queued.  Each event is in the count of one job or
still unnotified (`Notifier.Course.balance`), and a job goes to the callback that was set last
(`Notifier.Course.addressed`).  The dispatch thread makes one call for each job that was queued before
it was told to stop (`Dispatcher.map_job_run`), however the calls end.
-/

namespace PubSub

/-! ## What happens to a notifier -/

/-- The number of events that a job reports. -/
def Job.count : Job → Nat
  | invoke _ count => count
  | stop => 0

/-- What is done to a notifier. -/
inductive Notifier.Act
  | raise
  | register (callback : Option CallbackId)
deriving DecidableEq

namespace Notifier

/-- Does something to a notifier. -/
def perform (notifier : Notifier) : Act → Notifier × Option Job
  | .raise => notifier.raise
  | .register callback => notifier.setCallback callback

/-- There is nothing that a callback, if one is set, did not learn of. -/
def Flushed (notifier : Notifier) : Prop :=
  notifier.callback ≠ none → notifier.unnotified = 0

/-- An event that is raised is reported at once or counted, and nothing else is ever counted or
reported. -/
theorem count_perform (notifier : Notifier) (act : Act) :
    (notifier.perform act).2.elim 0 Job.count + (notifier.perform act).1.unnotified =
      notifier.unnotified + if act = .raise then 1 else 0 := by
  cases act with
  | raise =>
    simp only [perform, raise]
    split <;> simp [Job.count]
  | register callback =>
    simp only [perform, setCallback]
    split
    · split <;> simp [Job.count]
    · simp

theorem callback_raise (notifier : Notifier) : notifier.raise.1.callback = notifier.callback := by
  unfold raise
  split <;> rfl

theorem callback_setCallback (notifier : Notifier) (callback : Option CallbackId) :
    (notifier.setCallback callback).1.callback = callback := by
  unfold setCallback
  split
  · split <;> rfl
  · rfl

/-- Whatever is done, either all events are reported or there is no callback. -/
theorem flushed_perform (notifier : Notifier) (act : Act) : (notifier.perform act).1.Flushed := by
  intro hcallback
  cases act with
  | raise =>
    simp only [perform, raise] at hcallback ⊢
    split
    · rfl
    · next hnone => simp [hnone] at hcallback
  | register callback =>
    simp only [perform, setCallback] at hcallback ⊢
    split
    · split
      · rfl
      · next hzero => simpa using hzero
    · simp at hcallback

/-- A job reports at least one event, and it goes to the callback that is then set. -/
theorem job_perform {notifier : Notifier} {act : Act} {job : Job}
    (h : (notifier.perform act).2 = some job) :
    ∃ callback count, job = .invoke callback count ∧ 1 ≤ count ∧
      (notifier.perform act).1.callback = some callback := by
  cases act with
  | raise =>
    simp only [perform, callback_raise] at h ⊢
    unfold raise at h
    split at h
    · next callback hcallback =>
      cases h
      exact ⟨callback, _, rfl, by omega, hcallback⟩
    · cases h
  | register callback =>
    simp only [perform, callback_setCallback] at h ⊢
    unfold setCallback at h
    split at h
    · next id =>
      split at h
      · next hpos =>
        cases h
        exact ⟨id, _, rfl, hpos, rfl⟩
      · cases h
    · cases h

/-! ## Courses of a notifier -/

/-- What was done to a notifier, latest first, with the jobs that were queued thereby. -/
abbrev History := List (Act × Option Job)

namespace History

/-- The number of events. -/
def raised (history : History) : Nat := history.countP (·.1 = .raise)

/-- The number of events that jobs reported. -/
def dispatched (history : History) : Nat := (history.map (·.2.elim 0 Job.count)).sum

/-- The callback that was set last. -/
def registered : History → Option CallbackId
  | [] => none
  | (.raise, _) :: earlier => registered earlier
  | (.register callback, _) :: _ => callback

theorem dispatched_append (later earlier : History) :
    dispatched (later ++ earlier) = later.dispatched + earlier.dispatched := by
  unfold dispatched
  rw [List.map_append, List.sum_append]

end History

/-- Any course of events and callbacks, from a new notifier. -/
inductive Course : Notifier → History → Prop
  | start : Course {} []
  | perform {notifier : Notifier} {history : History} (h : Course notifier history) (act : Act) :
      Course (notifier.perform act).1 ((act, (notifier.perform act).2) :: history)

namespace Course

variable {notifier : Notifier} {history : History}

/-- Every event was reported or is still unnotified, and not both. -/
theorem balance (h : Course notifier history) :
    history.raised = history.dispatched + notifier.unnotified := by
  induction h with
  | start => rfl
  | @perform notifier history h act ih =>
    have hone := notifier.count_perform act
    unfold History.raised History.dispatched at ih ⊢
    rw [List.countP_cons, List.map_cons, List.sum_cons, ih]
    simp only [decide_eq_true_eq]
    omega

theorem callback (h : Course notifier history) : notifier.callback = history.registered := by
  induction h with
  | start => rfl
  | @perform notifier history h act ih =>
    cases act with
    | raise => exact notifier.callback_raise.trans ih
    | register callback => exact notifier.callback_setCallback callback

theorem flushed (h : Course notifier history) : notifier.Flushed := by
  cases h with
  | start =>
    intro hcallback
    simp at hcallback
  | perform h act => apply flushed_perform

/-- Every job that was queued reports at least one event to the callback that was set last. -/
theorem addressed (h : Course notifier history) {later earlier : History} {act : Act} {job : Job}
    (hsplit : history = later ++ (act, some job) :: earlier) :
    ∃ callback count, job = .invoke callback count ∧ 1 ≤ count ∧
      History.registered ((act, some job) :: earlier) = some callback := by
  induction h generalizing later with
  | start => cases later <;> cases hsplit
  | @perform notifier history h last ih =>
    cases later with
    | nil =>
      obtain ⟨hlast, rfl⟩ := List.cons.inj hsplit
      obtain ⟨rfl, hjob⟩ := Prod.mk.inj hlast
      obtain ⟨callback, count, hinvoke, hpos, hcallback⟩ := job_perform hjob
      refine ⟨callback, count, hinvoke, hpos, ?_⟩
      rw [← hcallback, (h.perform last).callback, hjob]
    | cons first later => exact ih (List.cons.inj hsplit).2

end Course

end Notifier

/-! ## The dispatch thread -/

/-- The job that a call was made for. -/
def Invocation.job (call : Invocation) : Job := .invoke call.callback call.count

namespace Dispatcher

variable {jobs queue later : List Job} {calls : List Invocation}

/-- The thread calls one callback after the other until it is told to stop. -/
theorem map_job_run (result : CallbackId → CallbackResult) (hjobs : .stop ∉ jobs)
    (hqueue : queue = jobs ++ .stop :: later) :
    (run result queue).map Invocation.job = jobs := by
  induction jobs generalizing queue with
  | nil => rw [hqueue]; rfl
  | cons job rest ih =>
    cases job with
    | stop => exact absurd List.mem_cons_self hjobs
    | invoke callback count =>
      rw [hqueue]
      show Job.invoke callback count :: (run result (rest ++ .stop :: later)).map Invocation.job = _
      rw [ih (fun h => hjobs (List.mem_cons_of_mem _ h)) rfl]

/-- The calls made so far are for the first jobs of the queue. -/
def Served (queue : List Job) (calls : List Invocation) : Prop :=
  calls.map Invocation.job <+: queue

/-- The thread has come to where it is told to stop. -/
def Ended (queue : List Job) (calls : List Invocation) : Prop :=
  queue[calls.length]? = some .stop

theorem getElem?_length (hqueue : queue = jobs ++ .stop :: later) :
    queue[jobs.length]? = some .stop := by
  simp [hqueue]

/-- A thread that is left alone ends. -/
theorem ended_run (result : CallbackId → CallbackResult) (hjobs : .stop ∉ jobs)
    (hqueue : queue = jobs ++ .stop :: later) : Ended queue (run result queue) := by
  have hlength : (run result queue).length = jobs.length := by
    rw [← map_job_run result hjobs hqueue, List.length_map]
  unfold Ended
  rw [hlength]
  apply getElem?_length hqueue

theorem Served.length_le (h : Served queue calls) (hqueue : queue = jobs ++ .stop :: later) :
    calls.length ≤ jobs.length := by
  apply Nat.le_of_not_lt
  intro hlt
  -- Otherwise one of the calls would be for the job that stops the thread.
  have hlen : jobs.length < (calls.map Invocation.job).length := by rwa [List.length_map]
  have hstop : (calls.map Invocation.job)[jobs.length] = .stop := by
    rw [h.getElem hlen]
    simp [hqueue]
  rw [List.getElem_map] at hstop
  cases hstop

/-- A thread that has ended made one call for each job before the stop, in their order. -/
theorem Served.map_job (h : Served queue calls) (hended : Ended queue calls) (hjobs : .stop ∉ jobs)
    (hqueue : queue = jobs ++ .stop :: later) : calls.map Invocation.job = jobs := by
  have hle := h.length_le hqueue
  have hlength : calls.length = jobs.length := by
    apply Nat.le_antisymm hle
    apply Nat.le_of_not_lt
    intro hlt
    unfold Ended at hended
    rw [hqueue, List.getElem?_append_left hlt] at hended
    exact hjobs (List.mem_of_getElem? hended)
  rw [List.prefix_iff_eq_take.1 h, List.length_map, hlength, hqueue, List.take_left]

/-- A thread that has not ended is not held up: there is a next call to be made, for a job before the
stop. -/
theorem Served.next (h : Served queue calls) (hended : ¬ Ended queue calls) (hjobs : .stop ∉ jobs)
    (hqueue : queue = jobs ++ .stop :: later) :
    calls.length < jobs.length ∧
      ∃ callback count, queue[calls.length]? = some (.invoke callback count) := by
  have hle := h.length_le hqueue
  have hlt : calls.length < jobs.length := by
    apply Nat.lt_of_le_of_ne hle
    intro heq
    apply hended
    unfold Ended
    rw [heq, getElem?_length hqueue]
  refine ⟨hlt, ?_⟩
  rw [hqueue, List.getElem?_append_left hlt, List.getElem?_eq_getElem hlt]
  cases hjob : jobs[calls.length] with
  | stop => exact absurd (hjob ▸ List.getElem_mem hlt) hjobs
  | invoke callback count => exact ⟨callback, count, rfl⟩

/-- A call is made for the next job. -/
theorem Served.invoke (h : Served queue calls) {call : Invocation}
    (hjob : queue[calls.length]? = some call.job) : Served queue (calls ++ [call]) := by
  obtain ⟨rest, rfl⟩ := h
  rw [List.getElem?_append_right (Nat.le_of_eq (List.length_map _)), List.length_map,
    Nat.sub_self] at hjob
  cases rest with
  | nil => cases hjob
  | cons next rest =>
    obtain rfl := Option.some.inj hjob
    refine ⟨rest, ?_⟩
    simp

end Dispatcher

end PubSub
