import PubSub.Context.Discovery
import PubSub.Context.Event
import PubSub.Context.Message

/-!
# Operations

Everything that can be done with a context one step at a time, waiting aside: `Operation.perform`
gives the reply and the context afterwards. A context is `Reachable` if some course of operations
leads to it from a new one.
-/

namespace PubSub

/-- One thing to do with a context. -/
inductive Operation
  | announceNode (gid : Gid) (info : NodeInfo)
  | withdrawNode (gid : Gid)
  | announceEndpoint (remote : RemoteEndpoint)
  | withdrawEndpoint (gid : Gid)
  | createNode (name nodeNamespace : String)
  | destroyNode (node : Node)
  | createEndpoint (node : Node) (kind : EndpointKind) (name typeName : String)
      (qos : Qos.Profile) (ignoresLocal : Bool)
  | destroyEndpoint (handle : Handle)
  | publish (gid : Gid) (payload : List UInt8)
  | take (gid : Gid)
  | takeSequence (gid : Gid) (count : Nat)
  | sendRequest (gid : Gid) (payload : List UInt8)
  | takeRequest (gid : Gid)
  | sendResponse (gid : Gid) (request : RequestId) (payload : List UInt8)
  | takeResponse (gid : Gid)
  | takeStatus (event : EventHandle)
  | setCallback (gid : Gid) (channel : Channel) (callback : Option CallbackId)
  | createGuard
  | trigger (guard : GuardId)
  | createWaitSet (maxHandles : Nat)
  | dropWaitSet (id : WaitSetId)

/-- What an operation gives back. -/
inductive Reply
  | done
  | flag (value : Bool)
  | number (value : Nat)
  | node (node : Node)
  | endpoint (handle : Handle)
  | message (message : Option Message)
  | messages (messages : List Message)
  | request (request : Option (RequestId × List UInt8))
  | status (status : Option EventStatus)
  | guard (id : GuardId)
  | waitSet (id : WaitSetId)

namespace Operation

/-- A reply of a kind, for an operation that may fail. -/
def reply {α : Type} (make : α → Reply) (result : Except Error α × Context) :
    Except Error Reply × Context :=
  (result.1.map make, result.2)

/-- A reply of a kind, for an operation that does not fail. -/
def succeed {α : Type} (make : α → Reply) (result : α × Context) :
    Except Error Reply × Context :=
  (.ok (make result.1), result.2)

/-- Performs an operation. -/
def perform (ctx : Context) : Operation → Except Error Reply × Context
  | announceNode gid info => reply .flag (ctx.announceNode gid info)
  | withdrawNode gid => succeed .flag (ctx.withdrawNode gid)
  | announceEndpoint remote => reply (fun _ => .done) (ctx.announceEndpoint remote)
  | withdrawEndpoint gid => reply .flag (ctx.withdrawEndpoint gid)
  | createNode name nodeNamespace => reply .node (ctx.createNode name nodeNamespace)
  | destroyNode node => reply (fun _ => .done) (ctx.destroyNode node)
  | createEndpoint node kind name typeName qos ignoresLocal =>
    reply .endpoint (ctx.createEndpoint node kind name typeName qos ignoresLocal)
  | destroyEndpoint handle => reply (fun _ => .done) (ctx.destroyEndpoint handle)
  | publish gid payload => succeed .number (ctx.publish gid payload)
  | take gid => succeed .message (ctx.take gid)
  | takeSequence gid count => reply .messages (ctx.takeSequence gid count)
  | sendRequest gid payload => succeed .number (ctx.sendRequest gid payload)
  | takeRequest gid => succeed .request (ctx.takeRequest gid)
  | sendResponse gid request payload =>
    reply (fun _ => .done) (ctx.sendResponse gid request payload)
  | takeResponse gid => succeed .request (ctx.takeResponse gid)
  | takeStatus event => succeed .status (ctx.takeStatus event)
  | setCallback gid channel callback => (.ok .done, ctx.setCallback gid channel callback)
  | createGuard => succeed .guard ctx.createGuard
  | trigger guard => (.ok .done, ctx.trigger guard)
  | createWaitSet maxHandles => reply .waitSet (ctx.createWaitSet maxHandles)
  | dropWaitSet id => (.ok .done, ctx.dropWaitSet id)

/-- The context after operations one after the other. -/
def run (ctx : Context) (operations : List Operation) : Context :=
  operations.foldl (fun ctx operation => (perform ctx operation).2) ctx

end Operation

/-- Some course of operations leads from a new context of some process to this one. -/
def Context.Reachable (ctx : Context) : Prop :=
  ∃ host options start next operations,
    Context.create host options = .ok (start, next) ∧ Operation.run start operations = ctx

end PubSub
