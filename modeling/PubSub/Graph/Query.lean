import PubSub.Graph.Basic

/-!
# Queries on the graph

The answers do not depend on the order in which the graph keeps its entries: names and types come in
alphabetical order, nodes by name, namespace and enclave, and endpoints by identifier.
-/

namespace PubSub

/-- The distinct texts of a list in alphabetical order. -/
def sortedTexts (texts : List String) : List String :=
  texts.eraseDups.mergeSort fun a b => decide (a ≤ b)

/-- Names with the types that occur with each of them. -/
abbrev NamesAndTypes := List (String × List String)

/-- The names of some endpoints, each with its types. -/
def namesAndTypes (endpoints : List Endpoint) : NamesAndTypes :=
  (sortedTexts (endpoints.map (·.name))).map fun name =>
    (name, sortedTexts ((endpoints.filter (·.name = name)).map (·.typeName)))

/-- Nodes in the order of their names, then of their namespaces and of their enclaves. -/
def NodeInfo.le (a b : NodeInfo) : Bool :=
  if a.name ≠ b.name then decide (a.name ≤ b.name)
  else if a.nodeNamespace ≠ b.nodeNamespace then decide (a.nodeNamespace ≤ b.nodeNamespace)
  else decide (a.enclave ≤ b.enclave)

/-- An endpoint together with its identifier. -/
structure EndpointInfo where
  gid : Gid
  endpoint : Endpoint
deriving DecidableEq

namespace Graph

variable (graph : Graph)

/-- The topics and their types. -/
def topicNamesAndTypes : NamesAndTypes :=
  namesAndTypes (graph.endpoints.values.filter (·.kind.isTopic))

/-- The services and their types. -/
def serviceNamesAndTypes : NamesAndTypes :=
  namesAndTypes (graph.endpoints.values.filter (!·.kind.isTopic))

/-- The namespace without the slashes at its end. -/
def trimSlashes (nodeNamespace : String) : String :=
  String.ofList (nodeNamespace.toList.reverse.dropWhile (· = '/')).reverse

/-- The names and types of the endpoints of one kind that belong to a node. -/
def namesAndTypesByNode (kind : EndpointKind) (nodeName nodeNamespace : String) :
    Except Error NamesAndTypes :=
  if graph.nodes.values.any fun n => n.name = nodeName && n.nodeNamespace = nodeNamespace then
    .ok (namesAndTypes (graph.endpoints.values.filter fun e =>
      e.kind = kind && e.nodeName = nodeName && e.nodeNamespace = nodeNamespace))
  else .error (.invalidArgument (.unknownNode (trimSlashes nodeNamespace) nodeName))

/-- The number of endpoints of one kind on a name. -/
def count (kind : EndpointKind) (name : String) : Nat :=
  graph.endpoints.values.countP fun e => e.kind = kind && e.name = name

/-- The endpoints of one kind on a name, in the order of their identifiers. -/
def endpointInfos (kind : EndpointKind) (name : String) : List EndpointInfo :=
  ((graph.endpoints.entries.filter fun e => e.2.kind = kind && e.2.name = name).map fun e =>
    ⟨e.1, e.2⟩).mergeSort fun a b => decide (a.gid ≤ b.gid)

/-- All nodes in order. -/
def nodeInfos : List NodeInfo :=
  graph.nodes.values.mergeSort NodeInfo.le

/-- The names and namespaces of all nodes in order. -/
def nodeNames : List (String × String) :=
  graph.nodeInfos.map fun n => (n.name, n.nodeNamespace)

end Graph

end PubSub
