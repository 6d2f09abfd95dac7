import PubSub.Context.Basic

/-!
# Nodes and local endpoints

Nodes are registered in the graph for as long as they live, and so are the endpoints created from
them. An endpoint's policies are settled when it is created and do not change afterwards. Either is
retired once: when its owner destroys it, or else when its owner drops it (`Owned`).
-/

namespace PubSub

/-- A node of this context. -/
structure Node where
  gid : Gid
  name : String
  nodeNamespace : String
deriving DecidableEq

/-- An endpoint of this context. -/
structure Handle where
  gid : Gid
  kind : EndpointKind
  name : String
  typeName : String
  /-- The profile in effect. -/
  qos : Qos.Profile
deriving DecidableEq

namespace Context

/-- Creates a node. -/
def createNode (ctx : Context) (name nodeNamespace : String) : Except Error Node × Context :=
  if name.isEmpty then (.error (.invalidArgument .emptyNodeName), ctx)
  else if nodeNamespace.toList.head? ≠ some '/' then
    (.error (.invalidArgument (.relativeNamespace nodeNamespace)), ctx)
  else
    let (gid, ctx) := ctx.mint
    let node : Node := ⟨gid, name, nodeNamespace⟩
    match ctx.graph.addNode gid ⟨name, nodeNamespace, ctx.options.enclave⟩ with
    | some graph => (.ok node, ctx.change graph [])
    | none => (.ok node, ctx)

/-- Destroys a node, unless it is gone from the graph already. -/
def destroyNode (ctx : Context) (node : Node) : Except Error Unit × Context :=
  match ctx.graph.removeNode node.gid with
  | some graph => (.ok (), ctx.change graph [])
  | none => (.error (.failed (.nodeWithdrawn node.gid)), ctx)

/-- The profile of a new endpoint: what is left open is chosen to suit the counterparts known now. -/
def resolveFor (ctx : Context) (kind : EndpointKind) (name typeName : String)
    (qos : Qos.Profile) : Qos.Profile :=
  Qos.resolve qos kind.role (ctx.graph.peerQos kind name typeName) fallbackProfile

/-- Creates an endpoint of a node. -/
def createEndpoint (ctx : Context) (node : Node) (kind : EndpointKind) (name typeName : String)
    (qos : Qos.Profile) (ignoresLocal : Bool) : Except Error Handle × Context :=
  if name.isEmpty || typeName.isEmpty then (.error (.invalidArgument .emptyEndpointName), ctx)
  else match qos.validate with
    | .error error => (.error error, ctx)
    | .ok () =>
      let qos := ctx.resolveFor kind name typeName qos
      let (gid, ctx) := ctx.mint
      let record : Endpoint :=
        { kind, name, typeName, nodeName := node.name, nodeNamespace := node.nodeNamespace, qos,
          isLocal := true }
      let core : Core := { kind, ignoresLocal, capacity := qos.queueCapacity }
      match ctx.graph.addEndpoint gid record (some core) with
      | .ok (graph, notices) => (.ok ⟨gid, kind, name, typeName, qos⟩, ctx.change graph notices)
      | .error error => (.error error, ctx)

/-- Destroys an endpoint, unless it is gone from the graph already. -/
def destroyEndpoint (ctx : Context) (handle : Handle) : Except Error Unit × Context :=
  match ctx.graph.removeEndpoint handle.gid with
  | some (graph, notices) => (.ok (), ctx.change graph notices)
  | none => (.error (.failed (.endpointRemoved handle.kind.title handle.gid)), ctx)

end Context

/-- A node or an endpoint in the hands of its owner. -/
structure Owned (α : Type) where
  value : α
  /-- It was removed from the graph already. -/
  retired : Bool := false

namespace Owned

variable {α : Type} (remove : Context → α → Except Error Unit × Context)

/-- Removes it from the graph, unless that was done before. -/
def retire (owned : Owned α) (ctx : Context) : Except Error Unit × Owned α × Context :=
  if owned.retired then (.ok (), owned, ctx)
  else
    let (result, ctx) := remove ctx owned.value
    (result, { owned with retired := true }, ctx)

/-- Its owner drops it. Nobody learns of an error. -/
def drop (owned : Owned α) (ctx : Context) : Context := (owned.retire remove ctx).2.2

/-- Its owner destroys it, and drops it thereby. -/
def destroy (owned : Owned α) (ctx : Context) : Except Error Unit × Context :=
  let (result, owned, ctx) := owned.retire remove ctx
  (result, owned.drop remove ctx)

theorem drop_of_retired {owned : Owned α} (h : owned.retired = true) (ctx : Context) :
    owned.drop remove ctx = ctx := by
  unfold drop retire
  rw [if_pos h]

end Owned

end PubSub
