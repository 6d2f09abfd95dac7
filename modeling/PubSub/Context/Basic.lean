import PubSub.Environment
import PubSub.Graph.Basic
import PubSub.Wait.Switchboard

/-!
# Contexts

A `Context` is the root of everything: the graph, the identifiers to be handed out, the queue of the
dispatch thread, and the switchboard of waits. An event at an endpoint goes to its push callback and
to whoever waits for it (`Context.signal`); a change of the graph triggers a guard condition.
-/

namespace PubSub

/-- The name of this middleware. -/
def implementationName : String := "rmw_hdds_cpp"

/-- Refuses handles of another middleware. -/
def checkImplementation (found : String) : Except Error Unit :=
  if found = implementationName then .ok ()
  else .error (.incorrectImplementation implementationName found)

/-- The profile that decides on policies left open where no peer is known. -/
def fallbackProfile : Qos.Profile := .standard

/-- What a context is created with. -/
structure Options where
  domainId : Nat
  enclave : String
  discoveryRange : DiscoveryRange
  discoveryPeers : List String
  /-- The instance number inside identifiers; without one the process picks the next. -/
  instanceId : Option UInt32
  waitSetCapacity : Nat
  qosProfilePath : Option String
deriving DecidableEq

namespace Options

/-- The options that settings ask for. -/
def ofSettings (settings : Settings) : Options where
  domainId := settings.domainId
  enclave := settings.enclave
  discoveryRange := settings.discoveryRange
  discoveryPeers := settings.discoveryPeers
  instanceId := none
  waitSetCapacity := settings.waitSetCapacity
  qosProfilePath := settings.qosProfilePath

/-- Refuses a domain id out of range, a relative enclave, and wait sets without slots. -/
def validate (options : Options) : Except Error Unit :=
  if maxDomainId < options.domainId then
    .error (.invalidArgument (.domainTooLarge options.domainId maxDomainId))
  else if options.enclave.toList.head? ≠ some '/' then
    .error (.invalidArgument (.relativeEnclave options.enclave))
  else if options.waitSetCapacity = 0 then .error (.invalidArgument .noWaitSetCapacity)
  else .ok ()

end Options

/-- The process in which contexts live. -/
structure Host where
  id : UInt32
  /-- The instance number of the next context that does not bring its own. -/
  nextInstance : UInt32
deriving DecidableEq

/-- A process without contexts. -/
def Host.start (id : UInt32) : Host := ⟨id, 1⟩

/-- A middleware context. -/
structure Context where
  options : Options
  instanceId : UInt32
  gids : GidSource
  graph : Graph
  dispatcher : Dispatcher
  board : Switchboard

/-- The guard that is triggered when the graph changes. -/
def graphGuard : GuardId := 0

namespace Context

/-- A new context of a process. -/
def create (host : Host) (options : Options) : Except Error (Context × Host) := do
  options.validate
  let (instanceId, nextInstance) :=
    match options.instanceId with
    | some id => (id, host.nextInstance)
    | none => (host.nextInstance, host.nextInstance + 1)
  return (
    { options
      instanceId
      gids := .start host.id instanceId
      graph := .empty
      dispatcher := .start
      board := { Switchboard.empty with guards := [false] } },
    { host with nextInstance })

/-- A new context of a process with the settings of its environment. -/
def ofEnvironment (host : Host) (env : Environment) : Except Error (Context × Host) := do
  create host (.ofSettings (← Settings.read env))

/-- A fresh identifier. -/
def mint (ctx : Context) : Gid × Context :=
  (ctx.gids.mint.1, { ctx with gids := ctx.gids.mint.2 })

/-- Queues a job, if there is one. -/
def dispatch (ctx : Context) : Option Job → Context
  | some job => { ctx with dispatcher := ctx.dispatcher.push job }
  | none => ctx

/-- An event at a channel of a local endpoint, whose core changes by `f`: the push callback is called
or the event counted, and those who wait are signalled. -/
def signal (ctx : Context) (gid : Gid) (channel : Channel) (f : Core → Core) : Context :=
  match ctx.graph.locals.find? gid with
  | none => ctx
  | some core =>
    let (notifier, job) := (core.notifier channel).raise
    let graph := ctx.graph.modifyCore gid fun core => (f core).setNotifier channel notifier
    let ctx := { ctx with graph }.dispatch job
    { ctx with board := ctx.board.notify (.endpoint gid channel) }

/-- Queues a message at a local endpoint. -/
def deliver (ctx : Context) (gid : Gid) (message : Message) : Context :=
  ctx.signal gid .data (·.enqueue message)

/-- Tells a local endpoint about a counterpart. -/
def fire (ctx : Context) : Notice → Context
  | .gained gid =>
    ctx.signal gid (.status .matched) fun core => { core with matched := core.matched.gain }
  | .lost gid =>
    ctx.signal gid (.status .matched) fun core => { core with matched := core.matched.lose }
  | .incompatibleQos gid policy =>
    ctx.signal gid (.status .incompatibleQos) fun core =>
      { core with incompatibleQos := core.incompatibleQos.add policy }
  | .incompatibleType gid =>
    ctx.signal gid (.status .incompatibleType) fun core =>
      { core with incompatibleType := core.incompatibleType.add }

/-- Triggers a guard. -/
def trigger (ctx : Context) (id : GuardId) : Context :=
  { ctx with board := ctx.board.trigger id }

/-- After a change of the graph: the notices are delivered one by one, then the graph's guard is
triggered. -/
def announce (ctx : Context) (notices : List Notice) : Context :=
  (notices.foldl fire ctx).trigger graphGuard

/-- Replaces the graph after a change. -/
def change (ctx : Context) (graph : Graph) (notices : List Notice) : Context :=
  { ctx with graph }.announce notices

/-- A new guard condition. -/
def createGuard (ctx : Context) : GuardId × Context :=
  (ctx.board.newGuard.1, { ctx with board := ctx.board.newGuard.2 })

/-- A new wait set. -/
def createWaitSet (ctx : Context) (maxHandles : Nat) : Except Error WaitSetId × Context :=
  match ctx.board.newWaitSet maxHandles ctx.options.waitSetCapacity with
  | .ok (id, board) => (.ok id, { ctx with board })
  | .error error => (.error error, ctx)

/-- Drops a wait set. -/
def dropWaitSet (ctx : Context) (id : WaitSetId) : Context :=
  { ctx with board := ctx.board.dropWaitSet id }

/-- Ends the context: the dispatch thread runs the jobs queued so far and stops, and the graph is
cleared. The result is a report without errors. -/
def shutdown (ctx : Context) : TeardownReport × Context :=
  let ctx := { ctx with dispatcher := ctx.dispatcher.stop }
  match ctx.graph.clear with
  | (0, _) => (.empty, ctx)
  | (_, graph) => (.empty, ctx.change graph [])

end Context

end PubSub
