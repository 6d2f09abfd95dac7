import PubSub.Context.Entity

/-!
# Events and callbacks

An event handle observes one status book of a publisher or a subscription. Both the books and the
queues of endpoints take push callbacks.
-/

namespace PubSub

/-- A status event of an endpoint. -/
structure EventHandle where
  gid : Gid
  kind : EventKind
  slot : StatusSlot
deriving DecidableEq

/-- The event handle of a kind, if it is supported and belongs to this kind of endpoint. -/
def Handle.createEvent (handle : Handle) (kind : EventKind) : Except Error EventHandle := do
  let slot ← kind.slot
  if kind.onPublisher ≠ (handle.kind = .publisher : Bool) then
    throw (.invalidArgument (.foreignEvent kind.title handle.kind.title))
  return ⟨handle.gid, kind, slot⟩

namespace Context

/-- Takes the status of an event; the counts of changes start anew. -/
def takeStatus (ctx : Context) (event : EventHandle) : Option EventStatus × Context :=
  match ctx.graph.locals.find? event.gid with
  | none => (none, ctx)
  | some core =>
    (some (core.status event.slot),
      { ctx with graph := ctx.graph.modifyCore event.gid (·.takeStatus event.slot) })

/-- Sets or clears the push callback of a channel. Events that no callback learnt of are reported to
a new one at once. -/
def setCallback (ctx : Context) (gid : Gid) (channel : Channel) (callback : Option CallbackId) :
    Context :=
  match ctx.graph.locals.find? gid with
  | none => ctx
  | some core =>
    let (notifier, job) := (core.notifier channel).setCallback callback
    let graph := ctx.graph.modifyCore gid (·.setNotifier channel notifier)
    { ctx with graph }.dispatch job

end Context

end PubSub
