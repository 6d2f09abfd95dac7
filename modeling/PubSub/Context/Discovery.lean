import PubSub.Context.Basic

/-!
# What discovery reports

Remote nodes and endpoints, as the transport announces and withdraws them. They take part in matching
and in all queries, but have no queue here.
-/

namespace PubSub

/-- A remote endpoint as it is announced. -/
structure RemoteEndpoint where
  gid : Gid
  kind : EndpointKind
  name : String
  typeName : String
  nodeName : String
  nodeNamespace : String
  qos : Qos.Profile
deriving DecidableEq

/-- The record of a remote endpoint. -/
def RemoteEndpoint.toEndpoint (remote : RemoteEndpoint) : Endpoint where
  kind := remote.kind
  name := remote.name
  typeName := remote.typeName
  nodeName := remote.nodeName
  nodeNamespace := remote.nodeNamespace
  qos := remote.qos
  isLocal := false

namespace Context

/-- Records a node. The result tells whether anything changed. -/
def announceNode (ctx : Context) (gid : Gid) (info : NodeInfo) : Except Error Bool × Context :=
  if info.name.isEmpty || info.nodeNamespace.isEmpty then
    (.error (.invalidArgument .emptyRemoteNodeName), ctx)
  else match ctx.graph.addNode gid info with
    | some graph => (.ok true, ctx.change graph [])
    | none => (.ok false, ctx)

/-- Forgets a node, but not its endpoints. The result tells whether anything changed. -/
def withdrawNode (ctx : Context) (gid : Gid) : Bool × Context :=
  match ctx.graph.removeNode gid with
  | some graph => (true, ctx.change graph [])
  | none => (false, ctx)

/-- Records a remote endpoint, whose policies have to be decided. -/
def announceEndpoint (ctx : Context) (remote : RemoteEndpoint) : Except Error Unit × Context :=
  if remote.name.isEmpty || remote.typeName.isEmpty then
    (.error (.invalidArgument .emptyRemoteEndpointName), ctx)
  else if remote.qos.hasBestAvailable then
    (.error (.invalidArgument (.bestAvailableRemote remote.gid)), ctx)
  else match ctx.graph.addEndpoint remote.gid remote.toEndpoint none with
    | .ok (graph, notices) => (.ok (), ctx.change graph notices)
    | .error error => (.error error, ctx)

/-- Forgets a remote endpoint. Local ones are refused. The result tells whether anything changed. -/
def withdrawEndpoint (ctx : Context) (gid : Gid) : Except Error Bool × Context :=
  if ctx.graph.locals.contains gid then (.error (.invalidArgument (.withdrawnLocal gid)), ctx)
  else match ctx.graph.removeEndpoint gid with
    | some (graph, notices) => (.ok true, ctx.change graph notices)
    | none => (.ok false, ctx)

end Context

end PubSub
