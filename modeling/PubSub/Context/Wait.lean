import PubSub.Context.Basic

/-!
# Waiting

A wait enrols the wait set with every source it is about, and then scans them. If none is ready it
blocks until its driver is signalled or its time is over, and scans again. At the end, however it
comes about, all enrolments are undone. `startWait` goes up to the first time that the wait blocks,
`resumeWait` from one time to the next, and `wait` through a given course of events.
-/

namespace PubSub

/-- A wait that blocks. -/
structure Session where
  waitSet : WaitSetId
  /-- The guard of the wait set. -/
  guard : GuardId
  handles : List (Option Source)
  enrolled : List Hook
  deadline : Option Nat

/-- How a wait ends. -/
structure WaitOutcome where
  result : Except Error Nat
  /-- The handles after the wait: those that are not ready are cleared. -/
  handles : List (Option Source)

/-- Where a wait stands. -/
inductive WaitProgress
  | finished (outcome : WaitOutcome)
  | blocked (session : Session)

namespace Session

/-- The guard of the wait set is among the handles. -/
def listsGuard (session : Session) : Bool :=
  session.handles.contains (some (.guard session.guard))

/-- The handles that are ready. -/
def keep (handles : List (Option Source)) (ready : List Bool) : List (Option Source) :=
  (handles.zip ready).map fun (handle, isReady) => if isReady then handle else none

end Session

/-- The sources to be enrolled: the guard of the wait set, unless it is listed, and the handles. -/
def waitSources (guard : GuardId) (handles : List (Option Source)) : List Source :=
  let listed := handles.filterMap id
  if listed.contains (.guard guard) then listed else .guard guard :: listed

/-- The number of handles other than the guard of the wait set. -/
def requestedHandles (guard : GuardId) (handles : List (Option Source)) : Nat :=
  (handles.filterMap id).countP (· ≠ .guard guard)

namespace Context

/-- Whether a source is ready. A guard that is found triggered is consumed. -/
def poll (ctx : Context) : Source → Bool × Context
  | .endpoint gid channel => ((ctx.graph.locals.find? gid).any (·.isReady channel), ctx)
  | .guard id =>
    let (triggered, board) := ctx.board.consume id
    (triggered, { ctx with board })

/-- Polls handles one after the other. -/
def scan (ctx : Context) : List (Option Source) → List Bool × Context
  | [] => ([], ctx)
  | none :: rest =>
    let (ready, ctx) := ctx.scan rest
    (false :: ready, ctx)
  | some source :: rest =>
    let (isReady, ctx) := ctx.poll source
    let (ready, ctx) := ctx.scan rest
    (isReady :: ready, ctx)

/-- Ends a wait: undoes the enrolments. -/
def finishWait (ctx : Context) (session : Session) (result : Except Error Nat)
    (ready : List Bool) : Context × WaitProgress :=
  ({ ctx with board := ctx.board.withdrawAll session.enrolled },
    .finished ⟨result, Session.keep session.handles ready⟩)

/-- One pass of a wait at time `now`: ready handles end it, then the guard of the wait set does if it
is not listed and triggered, and then the deadline. -/
def passWait (ctx : Context) (session : Session) (now : Nat) : Context × WaitProgress :=
  let (ready, ctx) := ctx.scan session.handles
  let count := ready.count true
  if 0 < count then ctx.finishWait session (.ok count) ready
  else
    let (cancelled, ctx) :=
      if session.listsGuard then (false, ctx) else ctx.poll (.guard session.guard)
    if cancelled then ctx.finishWait session (.ok 0) ready
    else if session.deadline.any (· ≤ now) then ctx.finishWait session (.error .timeout) ready
    else (ctx, .blocked session)

/-- Starts a wait at time `now`. A wait that is refused leaves its handles as they are. -/
def startWait (ctx : Context) (id : WaitSetId) (handles : List (Option Source))
    (timeout : Option Nat) (now : Nat) : Context × WaitProgress :=
  let refused (ctx : Context) (error : Error) := (ctx, WaitProgress.finished ⟨.error error, handles⟩)
  match ctx.board.waitSets.find? id with
  | none => refused ctx .badAlloc
  | some waitSet =>
    let requested := requestedHandles waitSet.guard handles
    if waitSet.maxHandles ≠ 0 ∧ waitSet.maxHandles < requested then
      refused ctx (.invalidArgument (.tooManyHandles requested waitSet.maxHandles))
    else match waitSet.reserve (requested + 1) with
      | .error error => refused ctx error
      | .ok waitSet =>
        let board := { ctx.board with waitSets := ctx.board.waitSets.insert id waitSet }
        match board.enrollAll id [] (waitSources waitSet.guard handles) with
        | (.error error, board) => refused { ctx with board } error
        | (.ok enrolled, board) =>
          let deadline := Wake.deadline? now timeout
          passWait { ctx with board }
            { waitSet := id, guard := waitSet.guard, handles, enrolled, deadline } now

/-- The driver of a blocked wait is signalled. -/
def isSignalled (ctx : Context) (session : Session) : Bool :=
  (ctx.board.waitSets.find? session.waitSet).any (·.driver.raised)

/-- Lowers the event of the driver and clears its pending slots. -/
def collect (ctx : Context) (session : Session) : Context :=
  match ctx.board.waitSets.find? session.waitSet with
  | none => ctx
  | some waitSet =>
    { ctx with board := ctx.board.setDriver session.waitSet waitSet.driver.collect.2 }

/-- Goes on with a blocked wait at time `now`: after its driver was signalled, or else because the
time of the driver is over. -/
def resumeWait (ctx : Context) (session : Session) (now : Nat) : Context × WaitProgress :=
  if ctx.isSignalled session then (ctx.collect session).passWait session now
  else ctx.passWait session now

/-- What happens while a wait blocks: what others do in the meantime, and when it goes on. -/
structure Interval where
  meanwhile : Context → Context
  resumed : Nat

/-- Follows a wait through intervals. It may still block at the end. -/
def followWait : Context × WaitProgress → List Interval → Context × WaitProgress
  | (ctx, .blocked session), interval :: rest =>
    followWait ((interval.meanwhile ctx).resumeWait session interval.resumed) rest
  | state, _ => state

/-- A wait that starts at time `now`, with what happens while it blocks. -/
def wait (ctx : Context) (id : WaitSetId) (handles : List (Option Source))
    (timeout : Option Nat) (now : Nat) (intervals : List Interval) : Context × WaitProgress :=
  followWait (ctx.startWait id handles timeout now) intervals

/-- Lets a wait go on at time `now`, if its driver is signalled or its deadline is over. -/
def advanceWait (ctx : Context) (now : Nat) : WaitProgress → Context × WaitProgress
  | .finished outcome => (ctx, .finished outcome)
  | .blocked session =>
    if ctx.isSignalled session || session.deadline.any (· ≤ now) then ctx.resumeWait session now
    else (ctx, .blocked session)

end Context

end PubSub
