import PubSub.Graph.Query
import PubSub.Proofs.Context.Publish

/-!
# Which nodes are registered

The table of nodes has one entry for each identifier, and whoever names the identifier writes to it:
the context when it creates and destroys a node, and discovery when it announces and withdraws one.
The table says of each identifier what the latest of these said (`Context.Course.find?_nodes`).  So a
node of the context stays registered for as long as it lives only if discovery leaves its identifier
alone, which nothing makes it do.
-/

namespace PubSub

/-! ## What leaves the nodes alone -/

/-- The contexts have the same nodes and the same options. -/
structure Context.SameNodes (ctx ctx' : Context) : Prop where
  nodes : ctx'.graph.nodes = ctx.graph.nodes
  options : ctx'.options = ctx.options

namespace Context.SameNodes

variable {ctx ctx' ctx'' : Context}

theorem refl (ctx : Context) : SameNodes ctx ctx := ⟨rfl, rfl⟩

theorem trans (h : SameNodes ctx ctx') (h' : SameNodes ctx' ctx'') : SameNodes ctx ctx'' :=
  ⟨h'.nodes.trans h.nodes, h'.options.trans h.options⟩

theorem dispatch (ctx : Context) (job : Option Job) : SameNodes ctx (ctx.dispatch job) := by
  cases job <;> exact ⟨rfl, rfl⟩

theorem signal (ctx : Context) (gid : Gid) (channel : Channel) (f : Core → Core) :
    SameNodes ctx (ctx.signal gid channel f) := by
  refine ⟨nodes_signal .., ?_⟩
  unfold Context.signal
  split
  · rfl
  · exact (dispatch _ _).options

theorem announce (ctx : Context) (notices : List Notice) :
    SameNodes ctx (ctx.announce notices) := by
  have hfires : SameNodes ctx (notices.foldl fire ctx) := by
    induction notices generalizing ctx with
    | nil => exact refl ctx
    | cons notice rest ih =>
      have hfire : SameNodes ctx (ctx.fire notice) := by cases notice <;> exact signal ..
      exact hfire.trans (ih _)
  exact hfires.trans ⟨rfl, rfl⟩

/-- After a change of the graph the nodes are those of the changed graph. -/
theorem change (ctx : Context) (graph : Graph) (notices : List Notice) :
    SameNodes { ctx with graph } (ctx.change graph notices) :=
  announce { ctx with graph } notices

theorem deliverAll (ctx : Context) (receivers : List Gid) (message : Message) :
    SameNodes ctx (ctx.deliverAll receivers message) := by
  unfold Context.deliverAll
  induction receivers generalizing ctx with
  | nil => exact refl ctx
  | cons gid rest ih => exact (signal ..).trans (ih _)

theorem take (ctx : Context) (gid : Gid) : SameNodes ctx (ctx.take gid).2 := by
  unfold Context.take
  split <;> exact ⟨rfl, rfl⟩

theorem takeUpTo (ctx : Context) (gid : Gid) (count : Nat) :
    SameNodes ctx (ctx.takeUpTo gid count).2 := by
  induction count generalizing ctx with
  | zero => exact refl ctx
  | succ count ih =>
    have htake := take ctx gid
    unfold Context.takeUpTo
    split
    · next ctx' heq => rwa [heq] at htake
    · next message ctx' heq =>
      rw [heq] at htake
      exact htake.trans (ih ctx')

theorem setCallback (ctx : Context) (gid : Gid) (channel : Channel)
    (callback : Option CallbackId) : SameNodes ctx (ctx.setCallback gid channel callback) := by
  unfold Context.setCallback
  split
  · exact refl ctx
  · dsimp only
    exact ⟨(dispatch ..).nodes, (dispatch ..).options⟩

theorem addEndpoint {gid : Gid} {new : Endpoint} {core : Option Core} {graph : Graph}
    {notices : List Notice} (hadd : ctx.graph.addEndpoint gid new core = .ok (graph, notices)) :
    SameNodes ctx (ctx.change graph notices) := by
  obtain ⟨-, hnodes, -⟩ := Graph.addEndpoint_eq_ok hadd
  exact (show SameNodes ctx { ctx with graph } from ⟨hnodes, rfl⟩).trans (change ..)

theorem removeEndpoint {gid : Gid} {graph : Graph} {notices : List Notice}
    (hrem : ctx.graph.removeEndpoint gid = some (graph, notices)) :
    SameNodes ctx (ctx.change graph notices) := by
  obtain ⟨-, -, hnodes, -⟩ := Graph.removeEndpoint_eq_some hrem
  exact (show SameNodes ctx { ctx with graph } from ⟨hnodes, rfl⟩).trans (change ..)

/-! ## Waits -/

theorem poll (ctx : Context) (source : Source) : SameNodes ctx (ctx.poll source).2 := by
  cases source <;> exact ⟨rfl, rfl⟩

theorem scan (ctx : Context) (handles : List (Option Source)) :
    SameNodes ctx (ctx.scan handles).2 := by
  induction handles generalizing ctx with
  | nil => exact refl ctx
  | cons handle rest ih =>
    cases handle with
    | none => exact ih ctx
    | some source => exact (poll ctx source).trans (ih _)

theorem passWait (ctx : Context) (session : Session) (now : Nat) :
    SameNodes ctx (ctx.passWait session now).1 := by
  have hscan := scan ctx session.handles
  unfold Context.passWait
  dsimp only
  split_ifs <;> exact ⟨hscan.nodes, hscan.options⟩

theorem startWait (ctx : Context) (id : WaitSetId) (handles : List (Option Source))
    (timeout : Option Nat) (now : Nat) :
    SameNodes ctx (ctx.startWait id handles timeout now).1 := by
  unfold Context.startWait
  dsimp only
  split
  · exact refl ctx
  · split
    · exact refl ctx
    · split
      · exact refl ctx
      · split
        · exact ⟨rfl, rfl⟩
        · exact ⟨(passWait ..).nodes, (passWait ..).options⟩

theorem resumeWait (ctx : Context) (session : Session) (now : Nat) :
    SameNodes ctx (ctx.resumeWait session now).1 := by
  have hcollect : SameNodes ctx (ctx.collect session) := by
    unfold Context.collect
    split <;> exact ⟨rfl, rfl⟩
  unfold Context.resumeWait
  split
  · exact hcollect.trans (passWait ..)
  · exact passWait ..

end Context.SameNodes

/-! ## What an act says about a node -/

/-- What an act says about the node of an identifier, if it is about it: that there is one, and which,
or that there is none. -/
def Act.word (enclave : String) (gid : Gid) : Act → Option (Option NodeInfo)
  | ⟨.announceNode named info, .ok _⟩ => if named = gid then some (some info) else none
  | ⟨.withdrawNode named, _⟩ => if named = gid then some none else none
  | ⟨.createNode name nodeNamespace, .ok (.node node)⟩ =>
    if node.gid = gid then some (some ⟨name, nodeNamespace, enclave⟩) else none
  | ⟨.destroyNode node, _⟩ => if node.gid = gid then some none else none
  | _ => none

namespace Graph

variable {graph : Graph} {gid named : Gid} {info : NodeInfo}

theorem find?_addNode {graph' : Graph} (hadd : graph.addNode named info = some graph') :
    graph'.nodes.find? gid = if named = gid then some info else graph.nodes.find? gid := by
  unfold addNode at hadd
  split at hadd <;> cases hadd
  rw [Table.find?_insert]
  simp only [eq_comm]

/-- A node that is not added is there already. -/
theorem find?_of_addNode_eq_none (hadd : graph.addNode named info = none) :
    graph.nodes.find? gid = if named = gid then some info else graph.nodes.find? gid := by
  unfold addNode at hadd
  split at hadd
  · next hfind =>
    split
    · next heq => rw [← heq, hfind]
    · rfl
  · cases hadd

theorem find?_removeNode {graph' : Graph} (hrem : graph.removeNode named = some graph') :
    graph'.nodes.find? gid = if named = gid then none else graph.nodes.find? gid := by
  unfold removeNode at hrem
  split at hrem <;> cases hrem
  rw [Table.find?_erase]
  simp only [eq_comm]

/-- A node that is not removed is not there. -/
theorem find?_of_removeNode_eq_none (hrem : graph.removeNode named = none) :
    graph.nodes.find? gid = if named = gid then none else graph.nodes.find? gid := by
  unfold removeNode at hrem
  split at hrem
  · cases hrem
  · next hno =>
    split
    · next heq => simpa [Table.contains, heq] using hno
    · rfl

end Graph

/-- The nodes after an act are those that it says, and otherwise those before it. -/
structure Act.Told (act : Act) (ctx ctx' : Context) : Prop where
  options : ctx'.options = ctx.options
  nodes : ∀ gid, ctx'.graph.nodes.find? gid =
    (act.word ctx.options.enclave gid).getD (ctx.graph.nodes.find? gid)

namespace Act.Told

variable {act : Act} {ctx ctx' : Context} {graph : Graph}

/-- An act that is about no node. -/
theorem of_sameNodes (h : ctx.SameNodes ctx')
    (hword : ∀ gid, act.word ctx.options.enclave gid = none) : act.Told ctx ctx' where
  options := h.options
  nodes gid := by rw [hword, h.nodes, Option.getD_none]

/-- An act that is about one node. -/
theorem of_nodes {named : Gid} {said : Option NodeInfo} (hoptions : ctx'.options = ctx.options)
    (hword : ∀ gid, act.word ctx.options.enclave gid = if named = gid then some said else none)
    (hnodes : ∀ gid, ctx'.graph.nodes.find? gid =
      if named = gid then said else ctx.graph.nodes.find? gid) : act.Told ctx ctx' where
  options := hoptions
  nodes gid := by
    rw [hnodes, hword]
    split <;> rfl

end Act.Told

/-- An act that is refused says nothing. -/
theorem Act.word_refused {ctx : Context} {operation : Operation} (hbad : ¬ operation.Sensible ctx)
    (enclave : String) (gid : Gid) (error : Error) :
    Act.word enclave gid ⟨operation, .error error⟩ = none := by
  cases operation with
  | withdrawNode | destroyNode => exact absurd trivial hbad
  | _ => rfl

namespace Operation

/-- What an operation says about nodes is so afterwards. -/
theorem Does.told {ctx ctx' : Context} {operation : Operation} {reply : Except Error Reply}
    (h : operation.Does ctx reply ctx') : Act.Told ⟨operation, reply⟩ ctx ctx' := by
  have hnext (gid : Gid) : ctx.SameNodes (ctx.nextSequence gid).2 := ⟨rfl, rfl⟩
  have hmint : ctx.SameNodes ctx.mint.2 := ⟨rfl, rfl⟩
  have hnodes (ctx : Context) (graph : Graph) := (Context.SameNodes.change ctx graph []).nodes
  have hoptions (ctx : Context) (graph : Graph) := (Context.SameNodes.change ctx graph []).options
  cases h with
  | refused hbad => exact .of_sameNodes (.refl _) fun gid => Act.word_refused hbad ..
  | announceNode _ hadd =>
    refine .of_nodes (hoptions ..) (fun gid => rfl) fun gid => ?_
    rw [hnodes, Graph.find?_addNode hadd]
  | announceKnownNode hadd =>
    exact .of_nodes rfl (fun gid => rfl) fun gid => Graph.find?_of_addNode_eq_none hadd
  | createNode _ hadd =>
    refine .of_nodes (hoptions ctx.mint.2 _) (fun gid => rfl) fun gid => ?_
    rw [hnodes, Graph.find?_addNode hadd]
  | createKnownNode hadd =>
    exact .of_nodes rfl (fun gid => rfl) fun gid => Graph.find?_of_addNode_eq_none hadd
  | withdrawNode hrem | destroyNode hrem =>
    refine .of_nodes (hoptions ..) (fun gid => rfl) fun gid => ?_
    rw [hnodes, Graph.find?_removeNode hrem]
  | withdrawUnknownNode hrem | destroyUnknownNode hrem =>
    exact .of_nodes rfl (fun gid => rfl) fun gid => Graph.find?_of_removeNode_eq_none hrem
  | announceEndpoint _ hadd => exact .of_sameNodes (.addEndpoint hadd) fun gid => rfl
  | createEndpoint _ _ hadd =>
    exact .of_sameNodes (hmint.trans (.addEndpoint hadd)) fun gid => rfl
  | withdrawEndpoint _ hrem | destroyEndpoint hrem =>
    exact .of_sameNodes (.removeEndpoint hrem) fun gid => rfl
  | createKnownEndpoint => exact .of_sameNodes hmint fun gid => rfl
  | publish gid | sendRequest gid =>
    exact .of_sameNodes ((hnext gid).trans (.deliverAll ..)) fun gid => rfl
  | take gid | takeRequest gid | takeResponse gid =>
    exact .of_sameNodes (.take ctx gid) fun gid => rfl
  | takeSequence gid count => exact .of_sameNodes (.takeUpTo ctx gid count) fun gid => rfl
  | sendResponse => exact .of_sameNodes (.signal ..) fun gid => rfl
  | setCallback => exact .of_sameNodes (.setCallback ctx ..) fun gid => rfl
  | announceKnownEndpoint | withdrawUnknownEndpoint | destroyUnknownEndpoint | sendResponseToNone
  | sendResponseToOther | takeStatus | takeNoStatus | createGuard | trigger | createWaitSet
  | createNoWaitSet | dropWaitSet => exact .of_sameNodes ⟨rfl, rfl⟩ fun gid => rfl

theorem told (operation : Operation) (ctx : Context) :
    Act.Told ⟨operation, (operation.perform ctx).1⟩ ctx (operation.perform ctx).2 :=
  (operation.does ctx).told

end Operation

/-! ## What the history says about a node -/

/-- The latest of the acts that are about a node decides. -/
theorem Context.Course.find?_nodes {ctx : Context} {history : List Act} (h : Course ctx history)
    (gid : Gid) :
    ctx.graph.nodes.find? gid = (history.findSome? (Act.word ctx.options.enclave gid)).join := by
  induction h with
  | create hcreate =>
    rw [graph_create hcreate]
    rfl
  | @perform ctx history _ operation _ ih =>
    have htold := operation.told ctx
    rw [htold.nodes, htold.options, List.findSome?_cons, ih]
    cases Act.word ctx.options.enclave gid ⟨operation, (operation.perform ctx).1⟩ <;> rfl
  | @startWait ctx _ _ id handles timeout now ih =>
    have hsame := SameNodes.startWait ctx id handles timeout now
    rw [hsame.nodes, hsame.options, ih]
  | @resumeWait ctx _ _ session now ih =>
    have hsame := SameNodes.resumeWait ctx session now
    rw [hsame.nodes, hsame.options, ih]

/-- What was recorded is what the operation replied to some context. -/
theorem Context.Course.exists_perform {ctx : Context} {history : List Act} (h : Course ctx history)
    {act : Act} (hmem : act ∈ history) :
    ∃ before, act.reply = (act.operation.perform before).1 := by
  induction h with
  | create => cases hmem
  | perform _ operation _ ih =>
    rcases List.mem_cons.1 hmem with rfl | hmem
    · exact ⟨_, rfl⟩
    · exact ih hmem
  | startWait _ _ _ _ _ ih | resumeWait _ _ _ ih => exact ih hmem

/-! ## Registered nodes -/

namespace Graph

variable {graph : Graph} {gid : Gid} {info : NodeInfo}

theorem mem_values_of_find? (h : graph.nodes.find? gid = some info) :
    info ∈ graph.nodes.values :=
  List.mem_map.2 ⟨(gid, info), Table.find?_eq_some_iff.1 h, rfl⟩

/-- A registered node is listed. -/
theorem mem_nodeInfos_of_find? (h : graph.nodes.find? gid = some info) :
    info ∈ graph.nodeInfos :=
  List.mem_mergeSort.2 (mem_values_of_find? h)

/-- The endpoints of a registered node can be asked for. -/
theorem exists_namesAndTypesByNode (h : graph.nodes.find? gid = some info) (kind : EndpointKind) :
    ∃ answer, graph.namesAndTypesByNode kind info.name info.nodeNamespace = .ok answer := by
  unfold namesAndTypesByNode
  have hany : (graph.nodes.values.any fun n =>
      n.name = info.name && n.nodeNamespace = info.nodeNamespace) = true :=
    List.any_eq_true.2 ⟨info, mem_values_of_find? h, by simp⟩
  rw [if_pos hany]
  exact ⟨_, rfl⟩

end Graph

/-- A node can be destroyed if its identifier is registered. -/
theorem Context.fst_destroyNode (ctx : Context) (node : Node) :
    (ctx.destroyNode node).1 =
      match ctx.graph.nodes.find? node.gid with
      | some _ => .ok ()
      | none => .error (.failed (.nodeWithdrawn node.gid)) := by
  unfold destroyNode Graph.removeNode Table.contains
  cases ctx.graph.nodes.find? node.gid <;> rfl

/-- For a node that was created, and whatever happened since: its identifier is registered with the
node's own data, unless an act since then was about it, in which case the latest one decides.  As long
as it is registered, it is listed, its endpoints can be asked for, and it can be destroyed. -/
theorem Context.Course.node_registered {ctx : Context} {since earlier : List Act}
    {name nodeNamespace : String} {node : Node}
    (h : Course ctx (since ++ ⟨.createNode name nodeNamespace, .ok (.node node)⟩ :: earlier)) :
    node.name = name ∧ node.nodeNamespace = nodeNamespace ∧
    ctx.graph.nodes.find? node.gid =
      (since.findSome? (Act.word ctx.options.enclave node.gid)).getD
        (some ⟨name, nodeNamespace, ctx.options.enclave⟩) ∧
    (∀ info, ctx.graph.nodes.find? node.gid = some info →
      info ∈ ctx.graph.nodeInfos ∧
      (∀ kind, ∃ answer,
        ctx.graph.namesAndTypesByNode kind info.name info.nodeNamespace = .ok answer) ∧
      (ctx.destroyNode node).1 = .ok ()) ∧
    (ctx.graph.nodes.find? node.gid = none →
      (ctx.destroyNode node).1 = .error (.failed (.nodeWithdrawn node.gid))) := by
  have hnode : node.name = name ∧ node.nodeNamespace = nodeNamespace := by
    obtain ⟨before, hreply⟩ := h.exists_perform (List.mem_append_right _ List.mem_cons_self)
    have hcreated : (before.createNode name nodeNamespace).1.map Reply.node = .ok (.node node) :=
      hreply.symm
    unfold createNode at hcreated
    split at hcreated
    · cases hcreated
    · split at hcreated
      · cases hcreated
      · dsimp only at hcreated
        split at hcreated <;> cases hcreated <;> exact ⟨rfl, rfl⟩
  refine ⟨hnode.1, hnode.2, ?_, fun info hinfo => ⟨?_, ?_, ?_⟩, fun hnone => ?_⟩
  · have hword : Act.word ctx.options.enclave node.gid
        ⟨.createNode name nodeNamespace, .ok (.node node)⟩ =
          some (some ⟨name, nodeNamespace, ctx.options.enclave⟩) := if_pos rfl
    rw [h.find?_nodes, List.findSome?_append, List.findSome?_cons, hword]
    cases since.findSome? (Act.word ctx.options.enclave node.gid) <;> rfl
  · exact Graph.mem_nodeInfos_of_find? hinfo
  · exact Graph.exists_namesAndTypesByNode hinfo
  · rw [fst_destroyNode, hinfo]
  · rw [fst_destroyNode, hnone]

/-- A node that was created is registered with its own data after another one was announced, and with
other data once they were announced for its identifier.  Either way it can be destroyed. -/
theorem Context.Course.exists_node_registered :
    (∃ ctx node, Course ctx [⟨.announceNode (.mint 9 1 1) ⟨"other", "/", "/"⟩, .ok (.flag true)⟩,
        ⟨.createNode "talker" "/", .ok (.node node)⟩] ∧
      ctx.graph.nodes.find? node.gid = some ⟨"talker", "/", "/"⟩ ∧
      ⟨"talker", "/", "/"⟩ ∈ ctx.graph.nodeInfos ∧ (ctx.destroyNode node).1 = .ok ()) ∧
    ∃ ctx node, Course ctx [⟨.announceNode node.gid ⟨"speaker", "/", "/"⟩, .ok (.flag true)⟩,
        ⟨.announceNode (.mint 9 1 1) ⟨"other", "/", "/"⟩, .ok (.flag true)⟩,
        ⟨.createNode "talker" "/", .ok (.node node)⟩] ∧
      ctx.graph.nodes.find? node.gid = some ⟨"speaker", "/", "/"⟩ ∧
      ⟨"speaker", "/", "/"⟩ ∈ ctx.graph.nodeInfos ∧ (ctx.destroyNode node).1 = .ok () := by
  have hcreate := @Course.create (.start 7) _
    { domainId := 0, enclave := "/", discoveryRange := .localhost, discoveryPeers := [],
      instanceId := none, waitSetCapacity := 4, qosProfilePath := none } _ rfl
  have hother := (hcreate.perform (.createNode "talker" "/") trivial).perform
    (.announceNode (.mint 9 1 1) ⟨"other", "/", "/"⟩) trivial
  have hrenamed := hother.perform (.announceNode (.mint 7 1 1) ⟨"speaker", "/", "/"⟩) trivial
  constructor
  · obtain ⟨-, -, hfind, hregistered, -⟩ := @node_registered _ [_] _ _ _ _ hother
    have h := hregistered _ hfind
    exact ⟨_, ⟨.mint 7 1 1, "talker", "/"⟩, hother, hfind, h.1, h.2.2⟩
  · obtain ⟨-, -, hfind, hregistered, -⟩ := @node_registered _ [_, _] _ _ _ _ hrenamed
    have h := hregistered _ hfind
    exact ⟨_, ⟨.mint 7 1 1, "talker", "/"⟩, hrenamed, hfind, h.1, h.2.2⟩

/-- Discovery withdraws a node of the context: it lives, but is not registered any more. -/
theorem Context.Course.exists_live_not_registered : ∃ ctx node,
    Course ctx [⟨.withdrawNode node.gid, .ok (.flag true)⟩,
      ⟨.createNode "talker" "/", .ok (.node node)⟩] ∧
    ctx.graph.nodes.find? node.gid = none ∧ ctx.graph.nodeInfos = [] ∧
    ctx.graph.namesAndTypesByNode .publisher "talker" "/" =
      .error (.invalidArgument (.unknownNode "" "talker")) ∧
    (ctx.destroyNode node).1 = .error (.failed (.nodeWithdrawn node.gid)) := by
  have hcreate := @Course.create (.start 7) _
    { domainId := 0, enclave := "/", discoveryRange := .localhost, discoveryPeers := [],
      instanceId := none, waitSetCapacity := 4, qosProfilePath := none } _ rfl
  have hcourse := (hcreate.perform (.createNode "talker" "/") trivial).perform
    (.withdrawNode (.mint 7 1 1)) trivial
  exact ⟨_, ⟨.mint 7 1 1, "talker", "/"⟩, hcourse, rfl, List.mergeSort_nil, rfl, rfl⟩

end PubSub
