import Mathlib.Logic.Function.Basic
import PubSub.Context.Operation
import PubSub.Context.Wait
import PubSub.Proofs.Wake.Driver

/-!
# Threads that wait and threads that notify

`Context.startWait` and `Context.signal` happen in one go.  Here they are taken apart into the steps
between which other threads can come in.  A `Call` is a wait under way: it enrols its sources one by
one, scans them, blocks, collects what was signalled and scans again, and undoes its enrolments at
the end.  A `Notifying` thread changes a source and then, with the hooks of the source locked,
signals the slot of each of them.  A `Context.Edit` is what an operation does apart from notifying
anybody.  `Threads` is a context with any number of all three, and `Threads.Reachable` are the states
that any order of their steps leads to.
-/

namespace PubSub

/-! ## What a wait does -/

/-- Where a wait stands.  The sources in `todo` are still to be enrolled, and an outcome is settled
while the enrolments are undone. -/
inductive Stage
  | enrolling (todo : List Source)
  /-- The source is claimed, but has no slot. -/
  | claimed (source : Source) (todo : List Source)
  /-- The hook has a slot, but is not attached. -/
  | registered (hook : Hook) (todo : List Source)
  | scanning (found : List Bool) (rest : List (Option Source))
  /-- The handles were scanned, and the guard of the wait set is next. -/
  | checking (found : List Bool)
  /-- Nothing was ready, and the deadline is next. -/
  | deciding (found : List Bool)
  | blocked
  /-- The event was seen raised, and is to be lowered. -/
  | woken
  /-- The words of the pending set before this one are taken. -/
  | draining (word : Nat)
  | leaving (outcome : WaitOutcome)
  /-- The hook is detached, but has its slot. -/
  | detached (hook : Hook) (outcome : WaitOutcome)
  /-- The slot is released, but the source is claimed. -/
  | released (source : Source) (outcome : WaitOutcome)

/-- A wait under way.  The hooks enrolled in its session are those that are attached. -/
structure Call where
  session : Session
  stage : Stage

/-- One step of the waits of a wait set.  A hook is attached and detached only while no thread has
the hooks of its source locked. -/
inductive Call.Step (locked : Source → Prop) (id : WaitSetId) :
    Context → Option Call → Context → Option Call → Prop
  | start {ctx : Context} {waitSet reserved : WaitSet} {handles : List (Option Source)}
      {deadline : Option Nat} (hfind : ctx.board.waitSets.find? id = some waitSet)
      (hfew : ¬ (waitSet.maxHandles ≠ 0 ∧
        waitSet.maxHandles < requestedHandles waitSet.guard handles))
      (hreserve : waitSet.reserve (requestedHandles waitSet.guard handles + 1) = .ok reserved) :
      Step locked id ctx none
        { ctx with board := { ctx.board with waitSets := ctx.board.waitSets.insert id reserved } }
        (some ⟨⟨id, reserved.guard, handles, [], deadline⟩,
          .enrolling (waitSources reserved.guard handles)⟩)
  | claim {ctx : Context} {session : Session} {source : Source} {todo : List Source}
      {board : Switchboard} (hclaim : ctx.board.claim source = some board) :
      Step locked id ctx (some ⟨session, .enrolling (source :: todo)⟩)
        { ctx with board } (some ⟨session, .claimed source todo⟩)
  | refuse {ctx : Context} {session : Session} {source : Source} {todo : List Source}
      (hclaim : ctx.board.claim source = none) :
      Step locked id ctx (some ⟨session, .enrolling (source :: todo)⟩)
        ctx (some ⟨session, .leaving ⟨.error (.invalidArgument .handleInUse), session.handles⟩⟩)
  | register {ctx : Context} {session : Session} {source : Source} {todo : List Source}
      {registration : Wake.Registration} {board : Switchboard}
      (hregister : ctx.board.register id = .ok (registration, board)) :
      Step locked id ctx (some ⟨session, .claimed source todo⟩)
        { ctx with board } (some ⟨session, .registered ⟨source, id, registration⟩ todo⟩)
  | giveBack {ctx : Context} {session : Session} {source : Source} {todo : List Source}
      {error : Error} (hregister : ctx.board.register id = .error error) :
      Step locked id ctx (some ⟨session, .claimed source todo⟩)
        { ctx with board := ctx.board.unclaim source }
        (some ⟨session, .leaving ⟨.error error, session.handles⟩⟩)
  | attach {ctx : Context} {session : Session} {hook : Hook} {todo : List Source}
      (hfree : ¬ locked hook.source) :
      Step locked id ctx (some ⟨session, .registered hook todo⟩)
        { ctx with board := ctx.board.attach hook }
        (some ⟨{ session with enrolled := session.enrolled ++ [hook] }, .enrolling todo⟩)
  | scan {ctx : Context} {session : Session} :
      Step locked id ctx (some ⟨session, .enrolling []⟩)
        ctx (some ⟨session, .scanning [] session.handles⟩)
  | skip {ctx : Context} {session : Session} {found : List Bool} {rest : List (Option Source)} :
      Step locked id ctx (some ⟨session, .scanning found (none :: rest)⟩)
        ctx (some ⟨session, .scanning (found ++ [false]) rest⟩)
  | poll {ctx : Context} {session : Session} {found : List Bool} {source : Source}
      {rest : List (Option Source)} :
      Step locked id ctx (some ⟨session, .scanning found (some source :: rest)⟩)
        (ctx.poll source).2 (some ⟨session, .scanning (found ++ [(ctx.poll source).1]) rest⟩)
  | ready {ctx : Context} {session : Session} {found : List Bool} (hcount : 0 < found.count true) :
      Step locked id ctx (some ⟨session, .scanning found []⟩)
        ctx (some ⟨session,
          .leaving ⟨.ok (found.count true), Session.keep session.handles found⟩⟩)
  | noneReady {ctx : Context} {session : Session} {found : List Bool}
      (hcount : found.count true = 0) :
      Step locked id ctx (some ⟨session, .scanning found []⟩)
        ctx (some ⟨session, .checking found⟩)
  | listed {ctx : Context} {session : Session} {found : List Bool}
      (hlists : session.listsGuard = true) :
      Step locked id ctx (some ⟨session, .checking found⟩) ctx (some ⟨session, .deciding found⟩)
  | cancelled {ctx : Context} {session : Session} {found : List Bool}
      (hlists : session.listsGuard = false)
      (hpoll : (ctx.poll (.guard session.guard)).1 = true) :
      Step locked id ctx (some ⟨session, .checking found⟩) (ctx.poll (.guard session.guard)).2
        (some ⟨session, .leaving ⟨.ok 0, Session.keep session.handles found⟩⟩)
  | goOn {ctx : Context} {session : Session} {found : List Bool}
      (hlists : session.listsGuard = false)
      (hpoll : (ctx.poll (.guard session.guard)).1 = false) :
      Step locked id ctx (some ⟨session, .checking found⟩) (ctx.poll (.guard session.guard)).2
        (some ⟨session, .deciding found⟩)
  | expire {ctx : Context} {session : Session} {found : List Bool}
      (hdeadline : session.deadline.isSome = true) :
      Step locked id ctx (some ⟨session, .deciding found⟩)
        ctx (some ⟨session, .leaving ⟨.error .timeout, Session.keep session.handles found⟩⟩)
  | block {ctx : Context} {session : Session} {found : List Bool} :
      Step locked id ctx (some ⟨session, .deciding found⟩) ctx (some ⟨session, .blocked⟩)
  | wake {ctx : Context} {session : Session} (hraised : ctx.isSignalled session = true) :
      Step locked id ctx (some ⟨session, .blocked⟩) ctx (some ⟨session, .woken⟩)
  | timeUp {ctx : Context} {session : Session} (hdeadline : session.deadline.isSome = true) :
      Step locked id ctx (some ⟨session, .blocked⟩)
        ctx (some ⟨session, .scanning [] session.handles⟩)
  | lower {ctx : Context} {session : Session} {waitSet : WaitSet}
      (hfind : ctx.board.waitSets.find? id = some waitSet) :
      Step locked id ctx (some ⟨session, .woken⟩)
        { ctx with board := ctx.board.setDriver id waitSet.driver.lower }
        (some ⟨session, .draining 0⟩)
  | takeWord {ctx : Context} {session : Session} {waitSet : WaitSet} {k : Nat}
      (hfind : ctx.board.waitSets.find? id = some waitSet)
      (hword : k < waitSet.driver.pending.words.length) :
      Step locked id ctx (some ⟨session, .draining k⟩)
        { ctx with board := ctx.board.setDriver id (waitSet.driver.takeWord k) }
        (some ⟨session, .draining (k + 1)⟩)
  | drained {ctx : Context} {session : Session} {waitSet : WaitSet} {k : Nat}
      (hfind : ctx.board.waitSets.find? id = some waitSet)
      (hword : waitSet.driver.pending.words.length ≤ k) :
      Step locked id ctx (some ⟨session, .draining k⟩)
        ctx (some ⟨session, .scanning [] session.handles⟩)
  | detach {ctx : Context} {session : Session} {outcome : WaitOutcome} {hook : Hook}
      {rest : List Hook} (henrolled : session.enrolled = hook :: rest)
      (hfree : ¬ locked hook.source) :
      Step locked id ctx (some ⟨session, .leaving outcome⟩)
        { ctx with board := ctx.board.detach hook.source hook.registration.id }
        (some ⟨{ session with enrolled := rest }, .detached hook outcome⟩)
  | release {ctx : Context} {session : Session} {outcome : WaitOutcome} {hook : Hook} :
      Step locked id ctx (some ⟨session, .detached hook outcome⟩)
        { ctx with board := ctx.board.release hook.waitSet hook.registration }
        (some ⟨session, .released hook.source outcome⟩)
  | unclaim {ctx : Context} {session : Session} {outcome : WaitOutcome} {source : Source} :
      Step locked id ctx (some ⟨session, .released source outcome⟩)
        { ctx with board := ctx.board.unclaim source } (some ⟨session, .leaving outcome⟩)
  | finish {ctx : Context} {session : Session} {outcome : WaitOutcome}
      (henrolled : session.enrolled = []) :
      Step locked id ctx (some ⟨session, .leaving outcome⟩) ctx none

/-! ## What a notifier does -/

/-- What can happen at a local endpoint. -/
inductive Incident
  | message (message : Message)
  | gained
  | lost
  | incompatibleQos (policy : Qos.PolicyKind)
  | incompatibleType

namespace Incident

/-- The channel on which it shows. -/
def channel : Incident → Channel
  | message _ => .data
  | gained | lost => .status .matched
  | incompatibleQos _ => .status .incompatibleQos
  | incompatibleType => .status .incompatibleType

/-- The core after the incident, its notifiers aside. -/
def apply : Incident → Core → Core
  | message m, core => core.enqueue m
  | gained, core => { core with matched := core.matched.gain }
  | lost, core => { core with matched := core.matched.lose }
  | incompatibleQos policy, core =>
    { core with incompatibleQos := core.incompatibleQos.add policy }
  | incompatibleType, core => { core with incompatibleType := core.incompatibleType.add }

end Incident

/-- Where a notifier stands. -/
inductive Notifying
  | idle
  /-- The core changed, and the push callback is next. -/
  | calling (gid : Gid) (channel : Channel)
  /-- The hooks of the source are still to be locked. -/
  | pending (source : Source)
  /-- The hooks of the source are locked, and the slots of these are to be marked. -/
  | marking (source : Source) (todo : List Hook)
  /-- The slot of the hook was marked first, and the event is to be raised. -/
  | raising (hook : Hook) (todo : List Hook)

namespace Notifying

/-- The thread has the hooks of the source locked. -/
def Holds : Notifying → Source → Prop
  | marking source _, s => source = s
  | raising hook _, s => hook.source = s
  | _, _ => False

/-- The thread changed the source and has not finished the notification of its hooks. -/
def Unfinished : Notifying → Source → Prop
  | idle, _ => False
  | calling gid channel, s => .endpoint gid channel = s
  | pending source, s => source = s
  | marking source _, s => source = s
  | raising hook _, s => hook.source = s

end Notifying

/-- Calls the push callback of a channel, or counts the event. -/
def Context.callBack (ctx : Context) (gid : Gid) (channel : Channel) : Context :=
  match ctx.graph.locals.find? gid with
  | none => ctx
  | some core =>
    let (notifier, job) := (core.notifier channel).raise
    { ctx with graph := ctx.graph.modifyCore gid (·.setNotifier channel notifier) }.dispatch job

/-- One step of a notifier.  A guard that is triggered already is left alone. -/
inductive Notifying.Step (locked : Source → Prop) :
    Context → Notifying → Context → Notifying → Prop
  | trigger {ctx : Context} {id : GuardId} (hclear : ctx.board.isTriggered id = false) :
      Step locked ctx .idle
        { ctx with board := { ctx.board with guards := ctx.board.guards.set id true } }
        (.pending (.guard id))
  | change {ctx : Context} {gid : Gid} {incident : Incident} :
      Step locked ctx .idle
        { ctx with graph := ctx.graph.modifyCore gid incident.apply }
        (.calling gid incident.channel)
  | call {ctx : Context} {gid : Gid} {channel : Channel} :
      Step locked ctx (.calling gid channel)
        (ctx.callBack gid channel) (.pending (.endpoint gid channel))
  | lock {ctx : Context} {source : Source} (hfree : ¬ locked source) :
      Step locked ctx (.pending source)
        ctx (.marking source (ctx.board.hooks.filter (·.source = source)))
  | markNew {ctx : Context} {source : Source} {hook : Hook} {todo : List Hook} {waitSet : WaitSet}
      (hfind : ctx.board.waitSets.find? hook.waitSet = some waitSet)
      (hnew : (waitSet.driver.mark hook.registration.slot).1 = false) :
      Step locked ctx (.marking source (hook :: todo))
        { ctx with board :=
            ctx.board.setDriver hook.waitSet (waitSet.driver.mark hook.registration.slot).2 }
        (.raising hook todo)
  | markOld {ctx : Context} {source : Source} {hook : Hook} {todo : List Hook} {waitSet : WaitSet}
      (hfind : ctx.board.waitSets.find? hook.waitSet = some waitSet)
      (hold : (waitSet.driver.mark hook.registration.slot).1 = true) :
      Step locked ctx (.marking source (hook :: todo))
        { ctx with board :=
            ctx.board.setDriver hook.waitSet (waitSet.driver.mark hook.registration.slot).2 }
        (.marking source todo)
  | raise {ctx : Context} {hook : Hook} {todo : List Hook} {waitSet : WaitSet}
      (hfind : ctx.board.waitSets.find? hook.waitSet = some waitSet) :
      Step locked ctx (.raising hook todo)
        { ctx with board := ctx.board.setDriver hook.waitSet waitSet.driver.raise }
        (.marking hook.source todo)
  | unlock {ctx : Context} {source : Source} :
      Step locked ctx (.marking source []) ctx .idle

/-! ## What operations do besides -/

/-- A poll of the source would find it ready. -/
def Context.IsReady (ctx : Context) (source : Source) : Prop := (ctx.poll source).1 = true

/-- One step of an operation.  Whoever is to learn of it is told by a notifier later.  A wait set is
dropped only while it is free. -/
inductive Context.Edit (free : WaitSetId → Prop) : Context → Context → Prop
  /-- Something is taken, numbered, registered, added to the graph or removed from it, and no source
  becomes ready by that. -/
  | aside {ctx ctx' : Context} (hboard : ctx'.board = ctx.board)
      (hready : ∀ source, ctx'.IsReady source → ctx.IsReady source) : Edit free ctx ctx'
  | createGuard (ctx : Context) : Edit free ctx ctx.createGuard.2
  | createWaitSet (ctx : Context) (maxHandles : Nat) :
      Edit free ctx (ctx.createWaitSet maxHandles).2
  | dropWaitSet (ctx : Context) {id : WaitSetId} (hfree : free id) :
      Edit free ctx (ctx.dropWaitSet id)

/-! ## All threads together -/

/-- A context with a wait under way at some of the wait sets, and with notifiers. -/
structure Threads where
  ctx : Context
  calls : WaitSetId → Option Call
  notifiers : Nat → Notifying

namespace Threads

/-- Some notifier has the hooks of the source locked. -/
def Locked (threads : Threads) (source : Source) : Prop :=
  ∃ n, (threads.notifiers n).Holds source

/-- There is no wait of the wait set under way. -/
def Free (threads : Threads) (id : WaitSetId) : Prop := threads.calls id = none

/-- One step of one thread. -/
inductive Step : Threads → Threads → Prop
  | call {threads : Threads} {id : WaitSetId} {ctx : Context} {call : Option Call}
      (h : Call.Step threads.Locked id threads.ctx (threads.calls id) ctx call) :
      Step threads { threads with ctx, calls := Function.update threads.calls id call }
  | notify {threads : Threads} {n : Nat} {ctx : Context} {notifying : Notifying}
      (h : Notifying.Step threads.Locked threads.ctx (threads.notifiers n) ctx notifying) :
      Step threads
        { threads with ctx, notifiers := Function.update threads.notifiers n notifying }
  | edit {threads : Threads} {ctx : Context} (h : Context.Edit threads.Free threads.ctx ctx) :
      Step threads { threads with ctx }

/-- The states that any order of steps leads to, from a context that operations led to. -/
inductive Reachable : Threads → Prop
  | start {ctx : Context} (h : ctx.Reachable) : Reachable ⟨ctx, fun _ => none, fun _ => .idle⟩
  | step {threads threads' : Threads} (h : Reachable threads) (hstep : Step threads threads') :
      Reachable threads'

end Threads

end PubSub
