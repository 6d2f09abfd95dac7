import PubSub.Endpoint.Core
import PubSub.Qos.Compatibility
import PubSub.Table

/-!
# The discovery graph

A `Graph` records every node and endpoint that is known, local or remote, and for each endpoint the
counterparts it is matched with. `relate` says how two endpoints stand to each other. Adding and
removing endpoints keeps the match sets up to date and yields notices for the local endpoints
concerned, which are delivered afterwards.
-/

namespace PubSub

/-- A node as discovery knows it. -/
structure NodeInfo where
  name : String
  nodeNamespace : String
  enclave : String
deriving DecidableEq, Repr

/-- An endpoint as discovery knows it. -/
structure Endpoint where
  kind : EndpointKind
  /-- The topic or service. -/
  name : String
  typeName : String
  nodeName : String
  nodeNamespace : String
  qos : Qos.Profile
  isLocal : Bool
  /-- The counterparts it is matched with. -/
  peers : List Gid := []
deriving DecidableEq

/-- How two counterparts on the same name stand to each other. -/
inductive Relation
  | matched
  | incompatibleQos (policy : Qos.PolicyKind)
  | incompatibleType
deriving DecidableEq

/-- The report on the offer of one of two topic endpoints to the other. -/
def Endpoint.report (a b : Endpoint) : Qos.Report :=
  if a.kind = .publisher then Qos.check a.qos b.qos else Qos.check b.qos a.qos

/-- How two endpoints stand to each other, if they have to do with each other at all: they are
counterparts on the same name, and at least one of them is local. Services match clients whatever
their profiles. -/
def Endpoint.relate (a b : Endpoint) : Option Relation :=
  if b.kind ≠ a.kind.counterpart ∨ b.name ≠ a.name ∨ (!a.isLocal ∧ !b.isLocal) then none
  else if a.typeName ≠ b.typeName then some .incompatibleType
  else if a.kind.isTopic ∧ (a.report b).verdict = .incompatible then
    some (.incompatibleQos (a.report b).firstPolicy)
  else some .matched

/-- What a local endpoint is told about a counterpart. -/
inductive Notice
  | gained (endpoint : Gid)
  | lost (endpoint : Gid)
  | incompatibleQos (endpoint : Gid) (policy : Qos.PolicyKind)
  | incompatibleType (endpoint : Gid)
deriving DecidableEq

/-- The notices about a relation for the topic endpoints in a list. -/
def Relation.notices (relation : Relation) (endpoints : List Gid) : List Notice :=
  endpoints.map fun gid =>
    match relation with
    | .matched => .gained gid
    | .incompatibleQos policy => .incompatibleQos gid policy
    | .incompatibleType => .incompatibleType gid

/-- Everything that discovery knows. -/
structure Graph where
  /-- The number of changes so far. In a history of fewer than `2 ^ 63` operations it fits into 64 bits
  (`Context.Course.counters_fit`). -/
  version : Nat
  nodes : Table Gid NodeInfo
  endpoints : Table Gid Endpoint
  /-- The cores of the local endpoints. -/
  locals : Table Gid Core

namespace Graph

/-- The graph in which nothing is known. -/
def empty : Graph := ⟨0, .empty, .empty, .empty⟩

/-- The graph with a node, unless it is known already with the same data. -/
def addNode (graph : Graph) (gid : Gid) (info : NodeInfo) : Option Graph :=
  if graph.nodes.find? gid = some info then none
  else some { graph with nodes := graph.nodes.insert gid info, version := graph.version + 1 }

/-- The graph without a node, if it is known. -/
def removeNode (graph : Graph) (gid : Gid) : Option Graph :=
  if graph.nodes.contains gid then
    some { graph with nodes := graph.nodes.erase gid, version := graph.version + 1 }
  else none

/-- The notices about a new endpoint and one that is known. -/
def pairNotices (gid : Gid) (new : Endpoint) (otherGid : Gid) (other : Endpoint) : List Notice :=
  match new.relate other with
  | some relation =>
    if new.kind.isTopic then
      relation.notices
        ((if new.isLocal then [gid] else []) ++ (if other.isLocal then [otherGid] else []))
    else []
  | none => []

/-- The known endpoints that a new one is matched with. -/
def matchesOf (graph : Graph) (new : Endpoint) : List Gid :=
  (graph.endpoints.entries.filter fun e => new.relate e.2 = some .matched).map Prod.fst

/-- Adds an endpoint, which is local if it comes with a core: the graph afterwards, and the notices
about its counterparts. An identifier can be in use only once. -/
def addEndpoint (graph : Graph) (gid : Gid) (new : Endpoint) (core : Option Core) :
    Except Error (Graph × List Notice) :=
  if graph.endpoints.contains gid then .error (.invalidArgument (.duplicateEndpoint gid))
  else
    let new := { new with isLocal := core.isSome, peers := [] }
    let others := graph.endpoints.map fun _ other =>
      if new.relate other = some .matched then { other with peers := other.peers ++ [gid] }
      else other
    .ok
      ({ graph with
          version := graph.version + 1
          endpoints := others.insert gid { new with peers := graph.matchesOf new }
          locals :=
            match core with
            | some core => graph.locals.insert gid core
            | none => graph.locals },
        graph.endpoints.entries.flatMap fun e => pairNotices gid new e.1 e.2)

/-- Removes an endpoint, if it is known: the graph afterwards, and the notices for the counterparts
that it was matched with. -/
def removeEndpoint (graph : Graph) (gid : Gid) : Option (Graph × List Notice) :=
  match graph.endpoints.find? gid with
  | none => none
  | some record =>
    let others := (graph.endpoints.erase gid).map fun otherGid other =>
      if otherGid ∈ record.peers then { other with peers := other.peers.erase gid } else other
    let isLocal (peer : Gid) := (others.find? peer).any (·.isLocal)
    some
      ({ graph with
          version := graph.version + 1
          endpoints := others
          locals := graph.locals.erase gid },
        if record.kind.isTopic then (record.peers.filter isLocal).map .lost else [])

/-- Removes everything, if there is anything: the graph afterwards, and how much was removed. -/
def clear (graph : Graph) : Nat × Graph :=
  let count := graph.nodes.size + graph.endpoints.size
  if count = 0 then (0, graph)
  else (count, ⟨graph.version + 1, .empty, .empty, .empty⟩)

/-- The local endpoints that an endpoint is matched with. -/
def localPeers (graph : Graph) (gid : Gid) : List Gid :=
  match graph.endpoints.find? gid with
  | none => []
  | some record => record.peers.filter fun peer => (graph.endpoints.find? peer).any (·.isLocal)

/-- The number of counterparts of an endpoint. -/
def matchedCount (graph : Graph) (gid : Gid) : Except Error Nat :=
  match graph.endpoints.find? gid with
  | some record => .ok record.peers.length
  | none => .error (.invalidArgument (.unknownEndpoint gid))

/-- The profiles of the counterparts known on a name with a type. -/
def peerQos (graph : Graph) (kind : EndpointKind) (name typeName : String) : List Qos.Profile :=
  (graph.endpoints.values.filter fun other =>
    other.kind = kind.counterpart && other.name = name && other.typeName = typeName).map (·.qos)

/-- The graph with the core of a local endpoint changed. -/
def modifyCore (graph : Graph) (gid : Gid) (f : Core → Core) : Graph :=
  { graph with locals := graph.locals.modify gid f }

end Graph

end PubSub
