import PubSub.Proofs.Context.Publish
import PubSub.Proofs.Wait.Guards
import PubSub.Proofs.Wait.Pass

/-!
# What counts as a change

The graph counts its changes and has a guard that is triggered by each.  `Operation.Alters` says of
every operation, without performing it, whether it is going to change the nodes or the endpoints.
`Context.Arises.changes_told` ties the three together: the tables differ after just those operations,
and then one more change was counted and the guard is triggered, while otherwise neither the count nor
the guard moved.  What fails does not even touch a queue or a status.
-/

namespace PubSub

/-! ## Changes of the graph -/

/-- There is another node or endpoint, one less, or one that is not the same, and the change was
counted. -/
structure Graph.Advances (graph graph' : Graph) : Prop where
  version : graph'.version = graph.version + 1
  differs : graph'.nodes ≠ graph.nodes ∨ graph'.endpoints ≠ graph.endpoints

namespace Graph.Advances

variable {graph graph' : Graph} {gid : Gid} {info : NodeInfo} {notices : List Notice}

/-- What is found in one table and not in the other sets them apart. -/
theorem of_find?_nodes (gid : Gid) (hversion : graph'.version = graph.version + 1)
    (hfind : graph'.nodes.find? gid ≠ graph.nodes.find? gid) : graph.Advances graph' :=
  ⟨hversion, Or.inl fun heq => hfind (congrArg (·.find? gid) heq)⟩

theorem of_find?_endpoints (gid : Gid) (hversion : graph'.version = graph.version + 1)
    (hfind : graph'.endpoints.find? gid ≠ graph.endpoints.find? gid) : graph.Advances graph' :=
  ⟨hversion, Or.inr fun heq => hfind (congrArg (·.find? gid) heq)⟩

theorem addNode (h : graph.addNode gid info = some graph') : graph.Advances graph' := by
  unfold Graph.addNode at h
  split at h
  · cases h
  · next hnew =>
    obtain rfl := Option.some.inj h
    refine .of_find?_nodes gid rfl ?_
    rw [Table.find?_insert, if_pos rfl]
    exact Ne.symm hnew

theorem removeNode (h : graph.removeNode gid = some graph') : graph.Advances graph' := by
  unfold Graph.removeNode at h
  split at h
  · next hknown =>
    obtain rfl := Option.some.inj h
    refine .of_find?_nodes gid rfl ?_
    rw [Table.find?_erase, if_pos rfl]
    rintro heq
    rw [Table.contains, ← heq] at hknown
    cases hknown
  · cases h

theorem addEndpoint {new : Endpoint} {core : Option Core}
    (h : graph.addEndpoint gid new core = .ok (graph', notices)) : graph.Advances graph' := by
  obtain ⟨hfree, -, hversion, -⟩ := addEndpoint_eq_ok h
  refine .of_find?_endpoints gid hversion ?_
  rw [find?_addEndpoint_new h, hfree]
  exact Option.some_ne_none _

theorem removeEndpoint (h : graph.removeEndpoint gid = some (graph', notices)) :
    graph.Advances graph' := by
  obtain ⟨gone, hgone, -, hversion, hfind, -⟩ := removeEndpoint_eq_some h
  refine .of_find?_endpoints gid hversion ?_
  rw [hfind, if_pos rfl, hgone]
  exact (Option.some_ne_none _).symm

/-- Clearing is a change unless the graph is empty. -/
theorem clear (h : 0 < graph.nodes.size + graph.endpoints.size) :
    graph.Advances graph.clear.2 := by
  unfold Graph.clear
  rw [if_neg (Nat.ne_of_gt h)]
  refine ⟨rfl, ?_⟩
  by_contra hsame
  obtain ⟨hnodes, hendpoints⟩ := not_or.1 hsame
  rw [not_ne_iff] at hnodes hendpoints
  rw [← hnodes, ← hendpoints] at h
  exact Nat.lt_irrefl 0 h

end Graph.Advances

/-! ## Two contexts, before and after -/

namespace Context

/-- The nodes or the endpoints with their match sets are not the same. -/
def Differs (ctx ctx' : Context) : Prop :=
  ctx'.graph.nodes ≠ ctx.graph.nodes ∨ ctx'.graph.endpoints ≠ ctx.graph.endpoints

/-- The graph is another, which is counted once and has triggered the guard. -/
structure Changed (ctx ctx' : Context) : Prop where
  differs : ctx.Differs ctx'
  version : ctx'.graph.version = ctx.graph.version + 1
  guard : ctx'.board.isTriggered graphGuard = true

/-- Nodes, endpoints, the count of changes and the guard are as they were. -/
structure Unchanged (ctx ctx' : Context) : Prop where
  nodes : ctx'.graph.nodes = ctx.graph.nodes
  endpoints : ctx'.graph.endpoints = ctx.graph.endpoints
  version : ctx'.graph.version = ctx.graph.version
  guard : ctx'.board.isTriggered graphGuard = ctx.board.isTriggered graphGuard

/-- The guard of the graph and the count of changes tell whether the graph is another. -/
structure TellsChange (ctx ctx' : Context) : Prop where
  changed : ctx.Differs ctx' →
    ctx'.graph.version = ctx.graph.version + 1 ∧ ctx'.board.isTriggered graphGuard = true
  unchanged : ¬ ctx.Differs ctx' → ctx'.graph.version = ctx.graph.version ∧
    ctx'.board.isTriggered graphGuard = ctx.board.isTriggered graphGuard

variable {ctx ctx' ctx'' : Context}

theorem Unchanged.not_differs (h : ctx.Unchanged ctx') : ¬ ctx.Differs ctx' := by
  rintro (hnodes | hendpoints)
  · exact hnodes h.nodes
  · exact hendpoints h.endpoints

theorem Changed.tellsChange (h : ctx.Changed ctx') : ctx.TellsChange ctx' :=
  ⟨fun _ => ⟨h.version, h.guard⟩, fun hnot => absurd h.differs hnot⟩

theorem Unchanged.tellsChange (h : ctx.Unchanged ctx') : ctx.TellsChange ctx' :=
  ⟨fun hdiffers => absurd hdiffers h.not_differs, fun _ => ⟨h.version, h.guard⟩⟩

end Context

theorem Switchboard.isTriggered_trigger {board : Switchboard} {guard : GuardId}
    (h : guard < board.guards.length) : (board.trigger guard).isTriggered guard = true := by
  unfold Switchboard.trigger
  split
  · next htriggered => exact htriggered
  · show (board.guards.set guard true).getD guard false = true
    rw [List.getD_eq_getElem?_getD, List.getElem?_set_self h]
    rfl

/-- A guard has no part in the triggering of another. -/
theorem Switchboard.isTriggered_trigger_of_ne {guard other : GuardId} (board : Switchboard)
    (h : guard ≠ other) : (board.trigger guard).isTriggered other = board.isTriggered other := by
  unfold Switchboard.trigger
  split
  · rfl
  · show (board.guards.set guard true).getD other false = board.guards.getD other false
    simp only [List.getD_eq_getElem?_getD, List.getElem?_set_ne h]

/-- The graph takes over another with one change more. -/
theorem Context.Guarded.changed {ctx : Context} (h : ctx.Guarded) (base : Context)
    (hboard : base.board = ctx.board) {graph : Graph} (hadvances : ctx.graph.Advances graph)
    (notices : List Notice) : ctx.Changed (base.change graph notices) := by
  have hfires : ∀ (notices : List Notice) (c : Context),
      (notices.foldl fire c).graph.version = c.graph.version ∧
      (notices.foldl fire c).graph.nodes = c.graph.nodes ∧
      (notices.foldl fire c).board.guards = c.board.guards := by
    intro notices
    induction notices with
    | nil => exact fun c => ⟨rfl, rfl, rfl⟩
    | cons notice rest ih =>
      intro c
      obtain ⟨hversion, hnodes, hguards⟩ := ih (c.fire notice)
      rw [List.foldl_cons, hversion, hnodes, hguards]
      cases notice <;> exact ⟨version_signal .., nodes_signal .., guards_signal ..⟩
  obtain ⟨hversion, hnodes, hguards⟩ := hfires notices { base with graph }
  refine ⟨?_, hversion.trans hadvances.version, ?_⟩
  · have hendpoints := (still_change base graph notices).endpoints
    have hnodes : (base.change graph notices).graph.nodes = graph.nodes := hnodes
    rw [Differs, hnodes, hendpoints]
    exact hadvances.differs
  · refine Switchboard.isTriggered_trigger ?_
    rw [hguards]
    exact hboard ▸ h.exists_guard

/-! ## What leaves everything as it is -/

namespace Context.Unchanged

variable {ctx ctx' ctx'' : Context}

theorem refl (ctx : Context) : Unchanged ctx ctx := ⟨rfl, rfl, rfl, rfl⟩

theorem trans (h : Unchanged ctx ctx') (h' : Unchanged ctx' ctx'') : Unchanged ctx ctx'' :=
  ⟨h'.nodes.trans h.nodes, h'.endpoints.trans h.endpoints, h'.version.trans h.version,
    h'.guard.trans h.guard⟩

theorem of_eq (hgraph : ctx'.graph = ctx.graph) (hguards : ctx'.board.guards = ctx.board.guards) :
    Unchanged ctx ctx' :=
  ⟨congrArg (·.nodes) hgraph, congrArg (·.endpoints) hgraph, congrArg (·.version) hgraph,
    congrArg (·.getD graphGuard false) hguards⟩

/-- Cores are no part of what discovery knows. -/
theorem modifyCore (ctx : Context) (gid : Gid) (f : Core → Core) :
    Unchanged ctx { ctx with graph := ctx.graph.modifyCore gid f } :=
  ⟨rfl, rfl, rfl, rfl⟩

theorem deliverAll (ctx : Context) (receivers : List Gid) (message : Message) :
    Unchanged ctx (ctx.deliverAll receivers message) :=
  ⟨nodes_deliverAll .., (kept_deliverAll ..).endpoints, version_deliverAll ..,
    congrArg (·.getD graphGuard false) (guards_deliverAll ..)⟩

theorem take (ctx : Context) (gid : Gid) : Unchanged ctx (ctx.take gid).2 := by
  unfold Context.take
  split
  · exact refl ctx
  · exact modifyCore ..

theorem takeUpTo (ctx : Context) (gid : Gid) (count : Nat) :
    Unchanged ctx (ctx.takeUpTo gid count).2 := by
  induction count generalizing ctx with
  | zero => exact refl ctx
  | succ count ih =>
    have htake := take ctx gid
    unfold Context.takeUpTo
    split
    · next ctx' heq => rwa [heq] at htake
    · next message ctx' heq =>
      rw [heq] at htake
      exact htake.trans (ih ctx')

theorem setCallback (ctx : Context) (gid : Gid) (channel : Channel)
    (callback : Option CallbackId) : Unchanged ctx (ctx.setCallback gid channel callback) := by
  unfold Context.setCallback
  split
  · exact refl ctx
  · next core hcore =>
    have hmodified := modifyCore ctx gid
      (·.setNotifier channel ((core.notifier channel).setCallback callback).1)
    exact hmodified.trans (of_eq (graph_dispatch ..) (congrArg (·.guards) (board_dispatch ..)))

theorem createGuard (ctx : Context) (h : ctx.Guarded) : Unchanged ctx ctx.createGuard.2 := by
  refine ⟨rfl, rfl, rfl, ?_⟩
  show (ctx.board.guards ++ [false]).getD graphGuard false = ctx.board.guards.getD graphGuard false
  simp only [List.getD_eq_getElem?_getD, List.getElem?_append_left h.exists_guard]

theorem createWaitSet (ctx : Context) (h : ctx.Guarded) {maxHandles : Nat} {id : WaitSetId}
    {board : Switchboard}
    (hnew : ctx.board.newWaitSet maxHandles ctx.options.waitSetCapacity = .ok (id, board)) :
    Unchanged ctx { ctx with board } := by
  unfold Switchboard.newWaitSet at hnew
  cases hcreate : Wake.Driver.create
      (WaitSet.initialCapacity maxHandles ctx.options.waitSetCapacity) with
  | error error =>
    rw [hcreate] at hnew
    cases hnew
  | ok driver =>
    rw [hcreate] at hnew
    cases hnew
    exact ⟨rfl, rfl, rfl, (createGuard ctx h).guard⟩

theorem trigger (ctx : Context) {guard : GuardId} (h : guard ≠ graphGuard) :
    Unchanged ctx (ctx.trigger guard) :=
  ⟨rfl, rfl, rfl, Switchboard.isTriggered_trigger_of_ne ctx.board h⟩

/-! ### Waits for other things -/

theorem poll (ctx : Context) {source : Source} (h : source ≠ .guard graphGuard) :
    Unchanged ctx (ctx.poll source).2 := by
  cases source with
  | endpoint gid channel => exact refl ctx
  | guard g =>
    refine ⟨rfl, rfl, rfl, ?_⟩
    have hne : g ≠ graphGuard := fun heq => h (heq ▸ rfl)
    show (ctx.board.guards.set g false).getD graphGuard false = ctx.board.guards.getD graphGuard false
    simp only [List.getD_eq_getElem?_getD, List.getElem?_set_ne hne]

theorem scan (ctx : Context) {handles : List (Option Source)}
    (h : some (.guard graphGuard) ∉ handles) : Unchanged ctx (ctx.scan handles).2 := by
  induction handles generalizing ctx with
  | nil => exact refl ctx
  | cons handle rest ih =>
    obtain ⟨hne, hrest⟩ := not_or.1 (mt List.mem_cons.2 h)
    cases handle with
    | none => exact ih ctx hrest
    | some source => exact (poll ctx fun heq => hne (heq ▸ rfl)).trans (ih _ hrest)

theorem withdrawAll (ctx : Context) (hooks : List Hook) :
    Unchanged ctx { ctx with board := ctx.board.withdrawAll hooks } :=
  of_eq rfl (Switchboard.guards_withdrawAll ..)

theorem passWait (ctx : Context) {session : Session} (hguard : session.guard ≠ graphGuard)
    (h : some (.guard graphGuard) ∉ session.handles) (now : Nat) :
    Unchanged ctx (ctx.passWait session now).1 := by
  have hscan := scan ctx h
  have hown : Unchanged ctx ((ctx.scan session.handles).2.poll (.guard session.guard)).2 :=
    hscan.trans (poll _ fun heq => hguard (Source.guard.inj heq))
  unfold Context.passWait
  dsimp only
  split_ifs
  · exact hscan.trans (withdrawAll ..)
  · exact hscan.trans (withdrawAll ..)
  · exact hscan.trans (withdrawAll ..)
  · exact hscan
  · exact hown.trans (withdrawAll ..)
  · exact hown.trans (withdrawAll ..)
  · exact hown

theorem startWait (ctx : Context) (hguarded : ctx.Guarded) (id : WaitSetId)
    {handles : List (Option Source)} (h : some (.guard graphGuard) ∉ handles)
    (timeout : Option Nat) (now : Nat) :
    Unchanged ctx (ctx.startWait id handles timeout now).1 := by
  unfold Context.startWait
  dsimp only
  split
  · exact refl ctx
  · next waitSet hfind =>
    split
    · exact refl ctx
    · split
      · exact refl ctx
      · next reserved hreserve =>
        have hguard : reserved.guard ≠ graphGuard := by
          have hown := hguarded.own_ne id waitSet hfind
          rcases WaitSet.reserve_eq_ok hreserve with rfl | ⟨capacity, rfl⟩ <;> exact hown
        have hguards := Switchboard.guards_enrollAll
          { ctx.board with waitSets := ctx.board.waitSets.insert id reserved } id []
          (waitSources reserved.guard handles)
        split
        · next error board heq =>
          rw [heq] at hguards
          exact of_eq rfl hguards
        · next enrolled board heq =>
          rw [heq] at hguards
          have henrolled : Unchanged ctx { ctx with board } := of_eq rfl hguards
          exact henrolled.trans (passWait _ hguard h now)

theorem resumeWait (ctx : Context) {session : Session} (hguard : session.guard ≠ graphGuard)
    (h : some (.guard graphGuard) ∉ session.handles) (now : Nat) :
    Unchanged ctx (ctx.resumeWait session now).1 := by
  have hcollect : Unchanged ctx (ctx.collect session) :=
    of_eq (graph_collect ..) (guards_collect ..)
  unfold Context.resumeWait
  split
  · exact hcollect.trans (passWait _ hguard h now)
  · exact passWait ctx hguard h now

end Context.Unchanged

/-! ## Which operations alter the graph -/

/-- The operation is going to change the nodes or the endpoints. -/
def Operation.Alters (ctx : Context) : Operation → Prop
  | announceNode gid info =>
    info.name ≠ "" ∧ info.nodeNamespace ≠ "" ∧ ctx.graph.nodes.find? gid ≠ some info
  | withdrawNode gid => ctx.graph.nodes.find? gid ≠ none
  | announceEndpoint remote =>
    remote.name ≠ "" ∧ remote.typeName ≠ "" ∧ remote.qos.hasBestAvailable = false ∧
      ctx.graph.endpoints.find? remote.gid = none
  | withdrawEndpoint gid =>
    ctx.graph.locals.find? gid = none ∧ ctx.graph.endpoints.find? gid ≠ none
  | createNode name nodeNamespace =>
    name ≠ "" ∧ nodeNamespace.toList.head? = some '/' ∧
      ctx.graph.nodes.find? ctx.mint.1 ≠ some ⟨name, nodeNamespace, ctx.options.enclave⟩
  | destroyNode node => ctx.graph.nodes.find? node.gid ≠ none
  | createEndpoint _ _ name typeName qos _ =>
    name ≠ "" ∧ typeName ≠ "" ∧ qos.validate = .ok () ∧
      ctx.graph.endpoints.find? ctx.mint.1 = none
  | destroyEndpoint handle => ctx.graph.endpoints.find? handle.gid ≠ none
  | _ => False

/-- What is found after an operation agrees with what it was going to alter: the graph is another or
as it was, and after an error nothing at all happened, but that an identifier may have been used up. -/
structure Context.Accounted {α : Type} (ctx : Context) (alters : Prop)
    (result : Except Error α × Context) : Prop where
  changed : alters → ctx.Changed result.2
  unchanged : ¬ alters → ctx.Unchanged result.2
  failed : ∀ error, result.1 = .error error →
    ¬ alters ∧ result.2 = { ctx with gids := result.2.gids }

namespace Context.Accounted

variable {α : Type} {ctx ctx' : Context} {alters : Prop} {a : α} {error : Error}

theorem of_changed (h : ctx.Changed ctx') (halters : alters) :
    ctx.Accounted alters (Except.ok a, ctx') :=
  ⟨fun _ => h, fun hnot => absurd halters hnot, fun _ herror => nomatch herror⟩

theorem of_unchanged (h : ctx.Unchanged ctx') (hnot : ¬ alters) :
    ctx.Accounted alters (Except.ok a, ctx') :=
  ⟨fun halters => absurd halters hnot, fun _ => h, fun _ herror => nomatch herror⟩

theorem of_error (h : ctx' = { ctx with gids := ctx'.gids }) (hnot : ¬ alters) :
    ctx.Accounted alters ((Except.error error : Except Error α), ctx') := by
  refine ⟨fun halters => absurd halters hnot, fun _ => ?_, fun _ _ => ⟨hnot, h⟩⟩
  rw [h]
  exact .of_eq rfl rfl

end Context.Accounted

namespace Graph

variable {graph : Graph} {gid : Gid} {info : NodeInfo}

theorem addNode_eq_none_iff :
    graph.addNode gid info = none ↔ graph.nodes.find? gid = some info := by
  unfold addNode
  split <;> simp_all

theorem removeNode_eq_none_iff : graph.removeNode gid = none ↔ graph.nodes.find? gid = none := by
  unfold removeNode Table.contains
  cases graph.nodes.find? gid <;> simp

theorem removeEndpoint_eq_none_iff :
    graph.removeEndpoint gid = none ↔ graph.endpoints.find? gid = none := by
  unfold removeEndpoint
  cases graph.endpoints.find? gid <;> simp

theorem find?_ne_of_addNode {graph' : Graph} (hadd : graph.addNode gid info = some graph') :
    graph.nodes.find? gid ≠ some info := by
  intro hknown
  cases hadd.symm.trans (addNode_eq_none_iff.2 hknown)

theorem find?_ne_of_removeNode {graph' : Graph} (hrem : graph.removeNode gid = some graph') :
    graph.nodes.find? gid ≠ none := by
  intro hunknown
  cases hrem.symm.trans (removeNode_eq_none_iff.2 hunknown)

theorem find?_ne_of_removeEndpoint {result : Graph × List Notice}
    (hrem : graph.removeEndpoint gid = some result) : graph.endpoints.find? gid ≠ none := by
  intro hunknown
  cases hrem.symm.trans (removeEndpoint_eq_none_iff.2 hunknown)

end Graph

namespace Operation

/-- What makes no sense alters nothing. -/
theorem Alters.sensible {ctx : Context} {operation : Operation} (h : operation.Alters ctx) :
    operation.Sensible ctx := by
  cases operation with
  | announceNode => exact ⟨h.1, h.2.1⟩
  | announceEndpoint => exact ⟨h.1, h.2.1, h.2.2.1⟩
  | withdrawEndpoint => exact h.1
  | createNode => exact ⟨h.1, h.2.1⟩
  | createEndpoint => exact ⟨h.1, h.2.1, h.2.2.1⟩
  | takeSequence => exact h.elim
  | _ => trivial

/-- Whatever an operation does agrees with what it was going to alter. -/
theorem Does.accounted {ctx ctx' : Context} {operation : Operation} {reply : Except Error Reply}
    (hdoes : operation.Does ctx reply ctx') (h : ctx.Guarded)
    (hother : operation ≠ .trigger graphGuard) :
    ctx.Accounted (operation.Alters ctx) (reply, ctx') := by
  cases hdoes with
  | refused hbad => exact .of_error rfl fun halters => hbad halters.sensible
  | announceNode hsensible hadd =>
    exact .of_changed (h.changed ctx rfl (.addNode hadd) [])
      ⟨hsensible.1, hsensible.2, Graph.find?_ne_of_addNode hadd⟩
  | announceKnownNode hadd =>
    exact .of_unchanged (.refl ctx) fun halters => halters.2.2 (Graph.addNode_eq_none_iff.1 hadd)
  | createNode hsensible hadd =>
    exact .of_changed (h.changed ctx.mint.2 rfl (.addNode hadd) [])
      ⟨hsensible.1, hsensible.2, Graph.find?_ne_of_addNode hadd⟩
  | createKnownNode hadd =>
    exact .of_unchanged (.of_eq rfl rfl) fun halters => halters.2.2 (Graph.addNode_eq_none_iff.1 hadd)
  | withdrawNode hrem | destroyNode hrem =>
    exact .of_changed (h.changed ctx rfl (.removeNode hrem) []) (Graph.find?_ne_of_removeNode hrem)
  | withdrawUnknownNode hrem =>
    exact .of_unchanged (.refl ctx) fun halters => halters (Graph.removeNode_eq_none_iff.1 hrem)
  | destroyUnknownNode hrem =>
    exact .of_error rfl fun halters => halters (Graph.removeNode_eq_none_iff.1 hrem)
  | announceEndpoint hsensible hadd =>
    exact .of_changed (h.changed ctx rfl (.addEndpoint hadd) _)
      ⟨hsensible.1, hsensible.2.1, hsensible.2.2, (Graph.addEndpoint_eq_ok hadd).1⟩
  | announceKnownEndpoint hadd =>
    exact .of_error rfl fun halters => Graph.find?_ne_of_addEndpoint_error hadd halters.2.2.2
  | createEndpoint hsensible hhandle hadd =>
    subst hhandle
    exact .of_changed (h.changed ctx.mint.2 rfl (.addEndpoint hadd) _)
      ⟨hsensible.1, hsensible.2.1, hsensible.2.2, (Graph.addEndpoint_eq_ok hadd).1⟩
  | createKnownEndpoint hadd =>
    exact .of_error rfl fun halters => Graph.find?_ne_of_addEndpoint_error hadd halters.2.2.2
  | withdrawEndpoint hremote hrem =>
    exact .of_changed (h.changed ctx rfl (.removeEndpoint hrem) _)
      ⟨hremote, Graph.find?_ne_of_removeEndpoint hrem⟩
  | withdrawUnknownEndpoint hrem =>
    exact .of_unchanged (.refl ctx) fun halters =>
      halters.2 (Graph.removeEndpoint_eq_none_iff.1 hrem)
  | destroyEndpoint hrem =>
    exact .of_changed (h.changed ctx rfl (.removeEndpoint hrem) _)
      (Graph.find?_ne_of_removeEndpoint hrem)
  | destroyUnknownEndpoint hrem =>
    exact .of_error rfl fun halters => halters (Graph.removeEndpoint_eq_none_iff.1 hrem)
  | publish gid | sendRequest gid =>
    have hnumbered : ctx.Unchanged (ctx.nextSequence gid).2 := .modifyCore ..
    exact .of_unchanged (hnumbered.trans (.deliverAll ..)) id
  | take gid | takeRequest gid | takeResponse gid => exact .of_unchanged (.take ctx gid) id
  | takeSequence gid count => exact .of_unchanged (.takeUpTo ctx gid count) id
  | @sendResponse _ request => exact .of_unchanged (.deliverAll ctx [request.writer] _) id
  | sendResponseToNone | takeNoStatus => exact .of_unchanged (.refl ctx) id
  | sendResponseToOther | createNoWaitSet => exact .of_error rfl id
  | takeStatus => exact .of_unchanged (.modifyCore ..) id
  | setCallback gid channel callback => exact .of_unchanged (.setCallback ctx gid channel callback) id
  | createGuard => exact .of_unchanged (.createGuard ctx h) id
  | trigger guard => exact .of_unchanged (.trigger ctx fun heq => hother (heq ▸ rfl)) id
  | createWaitSet hnew => exact .of_unchanged (.createWaitSet ctx h hnew) id
  | dropWaitSet id => exact .of_unchanged (.of_eq rfl rfl) fun halters => halters

end Operation

/-- Every operation agrees with what it was going to alter. -/
theorem Context.Guarded.accounted_perform {ctx : Context} (h : ctx.Guarded) (operation : Operation)
    (hother : operation ≠ .trigger graphGuard) :
    ctx.Accounted (operation.Alters ctx) (operation.perform ctx) :=
  (operation.does ctx).accounted h hother

namespace Context

variable {ctx : Context} {alters : Prop}

/-- The tables differ if and only if they were going to be altered. -/
theorem Accounted.differs_iff {α : Type} {result : Except Error α × Context}
    (h : ctx.Accounted alters result) : ctx.Differs result.2 ↔ alters :=
  ⟨fun hdiffers => by_contra fun hnot => (h.unchanged hnot).not_differs hdiffers,
    fun halters => (h.changed halters).differs⟩

theorem Accounted.tellsChange {α : Type} {result : Except Error α × Context}
    (h : ctx.Accounted alters result) : ctx.TellsChange result.2 := by
  by_cases halters : alters
  · exact (h.changed halters).tellsChange
  · exact (h.unchanged halters).tellsChange

/-- To end a context clears its graph, unless nothing is known. -/
theorem Guarded.accounted_shutdown (h : ctx.Guarded) :
    ctx.Accounted (0 < ctx.graph.nodes.size + ctx.graph.endpoints.size)
      ((Except.ok ctx.shutdown.1 : Except Error TeardownReport), ctx.shutdown.2) := by
  unfold Context.shutdown
  dsimp only
  by_cases hempty : ctx.graph.nodes.size + ctx.graph.endpoints.size = 0
  · have hclear : ctx.graph.clear = (0, ctx.graph) := if_pos hempty
    rw [hclear]
    exact .of_unchanged (.of_eq rfl rfl) (hempty ▸ Nat.lt_irrefl 0)
  · have hpos : 0 < ctx.graph.nodes.size + ctx.graph.endpoints.size := Nat.pos_of_ne_zero hempty
    have hadvances := Graph.Advances.clear hpos
    split
    · next graph hclear =>
      unfold Graph.clear at hclear
      rw [if_neg hempty] at hclear
      exact absurd (congrArg Prod.fst hclear) hempty
    · next graph hne hclear =>
      rw [hclear] at hadvances
      exact .of_changed (h.changed { ctx with dispatcher := ctx.dispatcher.stop } rfl hadvances [])
        hpos

/-- What its owner drops is removed as if it were destroyed, or was removed before. -/
theorem Guarded.tellsChange_drop {α : Type} {remove : Context → α → Except Error Unit × Context}
    (h : ∀ value, ctx.TellsChange (remove ctx value).2) (owned : Owned α) :
    ctx.TellsChange (owned.drop remove ctx) := by
  obtain ⟨value, retired⟩ := owned
  cases retired with
  | false => exact h value
  | true => exact (Unchanged.refl ctx).tellsChange

end Context

/-! ## Changes are told -/

/-- In a context that arose in any way, every operation alters the nodes and the endpoints just where
`Alters` says so.  If they differ, one more change was counted and the guard of the graph is
triggered, and if they do not, the count and the guard are as before.  An operation that fails changes
nothing at all, except that it may have used up an identifier.  The same holds when nodes and endpoints
are dropped by their owners and when the context is ended; waits for other things than the graph alter
nothing. -/
theorem Context.Arises.changes_told {ctx : Context} (h : ctx.Arises) :
    (∀ operation : Operation, operation ≠ .trigger graphGuard →
      (ctx.Differs (operation.perform ctx).2 ↔ operation.Alters ctx) ∧
      ctx.TellsChange (operation.perform ctx).2 ∧
      ∀ error, (operation.perform ctx).1 = .error error →
        ¬ ctx.Differs (operation.perform ctx).2 ∧
        (operation.perform ctx).2 = { ctx with gids := (operation.perform ctx).2.gids }) ∧
    ((∀ node : Owned Node, ctx.TellsChange (node.drop destroyNode ctx)) ∧
      ∀ endpoint : Owned Handle, ctx.TellsChange (endpoint.drop destroyEndpoint ctx)) ∧
    ((ctx.Differs ctx.shutdown.2 ↔ 0 < ctx.graph.nodes.size + ctx.graph.endpoints.size) ∧
      ctx.TellsChange ctx.shutdown.2) ∧
    (∀ id handles timeout now, some (.guard graphGuard) ∉ handles →
      ctx.Unchanged (ctx.startWait id handles timeout now).1 ∧
      (ctx.startWait id handles timeout now).1.graph = ctx.graph) ∧
    ∀ session now, session.guard ≠ graphGuard → some (.guard graphGuard) ∉ session.handles →
      ctx.Unchanged (ctx.resumeWait session now).1 ∧
      (ctx.resumeWait session now).1.graph = ctx.graph := by
  have hguarded := h.guarded
  refine ⟨fun operation hother => ?_, ⟨?_, ?_⟩, ?_, ?_, ?_⟩
  · have haccounted := hguarded.accounted_perform operation hother
    refine ⟨haccounted.differs_iff, haccounted.tellsChange, fun error herror => ?_⟩
    obtain ⟨hnot, hsame⟩ := haccounted.failed error herror
    exact ⟨mt haccounted.differs_iff.1 hnot, hsame⟩
  · exact Guarded.tellsChange_drop fun node =>
      (hguarded.accounted_perform (.destroyNode node) nofun).tellsChange
  · exact Guarded.tellsChange_drop fun handle =>
      (hguarded.accounted_perform (.destroyEndpoint handle) nofun).tellsChange
  · exact ⟨hguarded.accounted_shutdown.differs_iff, hguarded.accounted_shutdown.tellsChange⟩
  · intro id handles timeout now hnot
    exact ⟨.startWait ctx hguarded id hnot timeout now, graph_startWait ..⟩
  · intro session now hguard hnot
    exact ⟨.resumeWait ctx hguard hnot now, graph_resumeWait ..⟩

/-- A node is created, one without a name is refused, and a wait for nothing passes the graph by. -/
theorem Context.Arises.exists_changes_told : ∃ ctx : Context, ctx.Arises ∧
    ((Operation.createNode "talker" "/").perform ctx).2.graph.version = ctx.graph.version + 1 ∧
    ((Operation.createNode "talker" "/").perform ctx).2.board.isTriggered graphGuard = true ∧
    ((Operation.createNode "" "/").perform ctx).2.graph.version = ctx.graph.version ∧
    ((Operation.createNode "" "/").perform ctx).2.board.isTriggered graphGuard = false ∧
    ((Operation.createNode "" "/").perform ctx).2.graph.locals = ctx.graph.locals ∧
    (ctx.startWait 0 [] none 0).1.board.isTriggered graphGuard = false := by
  have harises := @Arises.create (.start 7) _
    { domainId := 0, enclave := "/", discoveryRange := .localhost, discoveryPeers := [],
      instanceId := none, waitSetCapacity := 4, qosProfilePath := none } _ rfl
  obtain ⟨hperform, -, -, hwait, -⟩ := changes_told harises
  obtain ⟨hdiffers, htells, -⟩ := hperform (.createNode "talker" "/") nofun
  obtain ⟨-, htells', hfailed⟩ := hperform (.createNode "" "/") nofun
  obtain ⟨hsame, heq⟩ := hfailed _ rfl
  have hchanged := htells.changed (hdiffers.2 ⟨by decide, rfl, nofun⟩)
  have hunchanged := htells'.unchanged hsame
  exact ⟨_, harises, hchanged.1, hchanged.2, hunchanged.1, hunchanged.2,
    congrArg (·.graph.locals) heq, (hwait 0 [] none 0 nofun).1.guard⟩

end PubSub
