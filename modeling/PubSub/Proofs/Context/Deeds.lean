import PubSub.Context.Operation

/-!
# What an operation does

`Operation.Does` lists all that an operation can come to: what it found in the graph, what it replies,
and the context that it leaves.  What is true of every operation is shown by cases of this list, so
that the program is followed once (`Operation.does`).
-/

namespace PubSub

/-- A profile is not refused because an endpoint is known. -/
theorem Qos.Profile.validate_ne_duplicateEndpoint (profile : Qos.Profile) (gid : Gid) :
    profile.validate ≠ .error (.invalidArgument (.duplicateEndpoint gid)) := by
  unfold validate
  split
  · nofun
  · split <;> nofun

/-- The core of a new local endpoint. -/
def Endpoint.freshCore (record : Endpoint) (ignoresLocal : Bool) : Core :=
  { kind := record.kind, ignoresLocal, capacity := record.qos.queueCapacity }

/-- The record of a new endpoint of a node. -/
def Handle.record (handle : Handle) (node : Node) : Endpoint where
  kind := handle.kind
  name := handle.name
  typeName := handle.typeName
  nodeName := node.name
  nodeNamespace := node.nodeNamespace
  qos := handle.qos
  isLocal := true

/-- The handle of an endpoint that is created now. -/
def Context.nextHandle (ctx : Context) (kind : EndpointKind) (name typeName : String)
    (qos : Qos.Profile) : Handle :=
  ⟨ctx.mint.1, kind, name, typeName, ctx.resolveFor kind name typeName qos⟩

namespace Operation

/-- What is asked for makes sense. -/
def Sensible (ctx : Context) : Operation → Prop
  | announceNode _ info => info.name ≠ "" ∧ info.nodeNamespace ≠ ""
  | announceEndpoint remote =>
    remote.name ≠ "" ∧ remote.typeName ≠ "" ∧ remote.qos.hasBestAvailable = false
  | withdrawEndpoint gid => ctx.graph.locals.find? gid = none
  | createNode name nodeNamespace => name ≠ "" ∧ nodeNamespace.toList.head? = some '/'
  | createEndpoint _ _ name typeName qos _ =>
    name ≠ "" ∧ typeName ≠ "" ∧ qos.validate = .ok ()
  | takeSequence _ count => count ≠ 0
  | _ => True

/-- What an operation can do to a context. -/
inductive Does (ctx : Context) : Operation → Except Error Reply → Context → Prop
  | refused {operation : Operation} {error : Error} (hbad : ¬ operation.Sensible ctx)
      (hother : ∀ gid, error ≠ .invalidArgument (.duplicateEndpoint gid)) :
      Does ctx operation (.error error) ctx
  | announceNode {gid : Gid} {info : NodeInfo} {graph : Graph}
      (hsensible : Sensible ctx (.announceNode gid info))
      (hadd : ctx.graph.addNode gid info = some graph) :
      Does ctx (.announceNode gid info) (.ok (.flag true)) (ctx.change graph [])
  | announceKnownNode {gid : Gid} {info : NodeInfo} (hadd : ctx.graph.addNode gid info = none) :
      Does ctx (.announceNode gid info) (.ok (.flag false)) ctx
  | withdrawNode {gid : Gid} {graph : Graph} (hrem : ctx.graph.removeNode gid = some graph) :
      Does ctx (.withdrawNode gid) (.ok (.flag true)) (ctx.change graph [])
  | withdrawUnknownNode {gid : Gid} (hrem : ctx.graph.removeNode gid = none) :
      Does ctx (.withdrawNode gid) (.ok (.flag false)) ctx
  | announceEndpoint {remote : RemoteEndpoint} {graph : Graph} {notices : List Notice}
      (hsensible : Sensible ctx (.announceEndpoint remote))
      (hadd : ctx.graph.addEndpoint remote.gid remote.toEndpoint none = .ok (graph, notices)) :
      Does ctx (.announceEndpoint remote) (.ok .done) (ctx.change graph notices)
  | announceKnownEndpoint {remote : RemoteEndpoint} {error : Error}
      (hadd : ctx.graph.addEndpoint remote.gid remote.toEndpoint none = .error error) :
      Does ctx (.announceEndpoint remote) (.error error) ctx
  | withdrawEndpoint {gid : Gid} {graph : Graph} {notices : List Notice}
      (hremote : ctx.graph.locals.find? gid = none)
      (hrem : ctx.graph.removeEndpoint gid = some (graph, notices)) :
      Does ctx (.withdrawEndpoint gid) (.ok (.flag true)) (ctx.change graph notices)
  | withdrawUnknownEndpoint {gid : Gid} (hrem : ctx.graph.removeEndpoint gid = none) :
      Does ctx (.withdrawEndpoint gid) (.ok (.flag false)) ctx
  | createNode {name nodeNamespace : String} {graph : Graph}
      (hsensible : Sensible ctx (.createNode name nodeNamespace))
      (hadd : ctx.graph.addNode ctx.mint.1 ⟨name, nodeNamespace, ctx.options.enclave⟩ =
        some graph) :
      Does ctx (.createNode name nodeNamespace) (.ok (.node ⟨ctx.mint.1, name, nodeNamespace⟩))
        (ctx.mint.2.change graph [])
  /-- The next identifier has such a node already. -/
  | createKnownNode {name nodeNamespace : String}
      (hadd : ctx.graph.addNode ctx.mint.1 ⟨name, nodeNamespace, ctx.options.enclave⟩ = none) :
      Does ctx (.createNode name nodeNamespace) (.ok (.node ⟨ctx.mint.1, name, nodeNamespace⟩))
        ctx.mint.2
  | destroyNode {node : Node} {graph : Graph}
      (hrem : ctx.graph.removeNode node.gid = some graph) :
      Does ctx (.destroyNode node) (.ok .done) (ctx.change graph [])
  | destroyUnknownNode {node : Node} (hrem : ctx.graph.removeNode node.gid = none) :
      Does ctx (.destroyNode node) (.error (.failed (.nodeWithdrawn node.gid))) ctx
  | createEndpoint {node : Node} {kind : EndpointKind} {name typeName : String} {qos : Qos.Profile}
      {ignoresLocal : Bool} {handle : Handle} {graph : Graph} {notices : List Notice}
      (hsensible : Sensible ctx (.createEndpoint node kind name typeName qos ignoresLocal))
      (hhandle : handle = ctx.nextHandle kind name typeName qos)
      (hadd : ctx.graph.addEndpoint handle.gid (handle.record node)
        (some ((handle.record node).freshCore ignoresLocal)) = .ok (graph, notices)) :
      Does ctx (.createEndpoint node kind name typeName qos ignoresLocal) (.ok (.endpoint handle))
        (ctx.mint.2.change graph notices)
  /-- The next identifier has an endpoint already, and is lost. -/
  | createKnownEndpoint {node : Node} {kind : EndpointKind} {name typeName : String}
      {qos : Qos.Profile} {ignoresLocal : Bool} {record : Endpoint} {core : Option Core}
      {error : Error} (hadd : ctx.graph.addEndpoint ctx.mint.1 record core = .error error) :
      Does ctx (.createEndpoint node kind name typeName qos ignoresLocal) (.error error) ctx.mint.2
  | destroyEndpoint {handle : Handle} {graph : Graph} {notices : List Notice}
      (hrem : ctx.graph.removeEndpoint handle.gid = some (graph, notices)) :
      Does ctx (.destroyEndpoint handle) (.ok .done) (ctx.change graph notices)
  | destroyUnknownEndpoint {handle : Handle}
      (hrem : ctx.graph.removeEndpoint handle.gid = none) :
      Does ctx (.destroyEndpoint handle)
        (.error (.failed (.endpointRemoved handle.kind.title handle.gid))) ctx
  | publish (gid : Gid) (payload : List UInt8) :
      Does ctx (.publish gid payload)
        (.ok (.number ((ctx.nextSequence gid).2.receivers gid).length))
        ((ctx.nextSequence gid).2.deliverAll ((ctx.nextSequence gid).2.receivers gid)
          ⟨payload, gid, (ctx.nextSequence gid).1⟩)
  | take (gid : Gid) : Does ctx (.take gid) (.ok (.message (ctx.take gid).1)) (ctx.take gid).2
  | takeSequence (gid : Gid) (count : Nat) :
      Does ctx (.takeSequence gid count) (.ok (.messages (ctx.takeUpTo gid count).1))
        (ctx.takeUpTo gid count).2
  | sendRequest (gid : Gid) (payload : List UInt8) :
      Does ctx (.sendRequest gid payload) (.ok (.number (ctx.nextSequence gid).1))
        ((ctx.nextSequence gid).2.deliverAll ((ctx.nextSequence gid).2.graph.localPeers gid)
          ⟨payload, gid, (ctx.nextSequence gid).1⟩)
  | takeRequest (gid : Gid) :
      Does ctx (.takeRequest gid) (.ok (.request (ctx.takeRequest gid).1)) (ctx.take gid).2
  | sendResponse {gid : Gid} {request : RequestId} {payload : List UInt8} {core : Core}
      (hcore : ctx.graph.locals.find? request.writer = some core) (hkind : core.kind = .client) :
      Does ctx (.sendResponse gid request payload) (.ok .done)
        (ctx.deliver request.writer ⟨payload, gid, request.sequence⟩)
  /-- The client is gone. -/
  | sendResponseToNone {gid : Gid} {request : RequestId} {payload : List UInt8}
      (hnone : ctx.graph.locals.find? request.writer = none) :
      Does ctx (.sendResponse gid request payload) (.ok .done) ctx
  | sendResponseToOther {gid : Gid} {request : RequestId} {payload : List UInt8} {core : Core}
      (hcore : ctx.graph.locals.find? request.writer = some core) (hkind : core.kind ≠ .client) :
      Does ctx (.sendResponse gid request payload)
        (.error (.invalidArgument (.notAClient request.writer))) ctx
  | takeResponse (gid : Gid) :
      Does ctx (.takeResponse gid) (.ok (.request (ctx.takeResponse gid).1)) (ctx.take gid).2
  | takeStatus {event : EventHandle} {core : Core}
      (hcore : ctx.graph.locals.find? event.gid = some core) :
      Does ctx (.takeStatus event) (.ok (.status (some (core.status event.slot))))
        { ctx with graph := ctx.graph.modifyCore event.gid (·.takeStatus event.slot) }
  | takeNoStatus {event : EventHandle} (hnone : ctx.graph.locals.find? event.gid = none) :
      Does ctx (.takeStatus event) (.ok (.status none)) ctx
  | setCallback (gid : Gid) (channel : Channel) (callback : Option CallbackId) :
      Does ctx (.setCallback gid channel callback) (.ok .done)
        (ctx.setCallback gid channel callback)
  | createGuard : Does ctx .createGuard (.ok (.guard ctx.createGuard.1)) ctx.createGuard.2
  | trigger (guard : GuardId) : Does ctx (.trigger guard) (.ok .done) (ctx.trigger guard)
  | createWaitSet {maxHandles : Nat} {id : WaitSetId} {board : Switchboard}
      (hnew : ctx.board.newWaitSet maxHandles ctx.options.waitSetCapacity = .ok (id, board)) :
      Does ctx (.createWaitSet maxHandles) (.ok (.waitSet id)) { ctx with board }
  | createNoWaitSet {maxHandles : Nat} {error : Error}
      (hnew : ctx.board.newWaitSet maxHandles ctx.options.waitSetCapacity = .error error) :
      Does ctx (.createWaitSet maxHandles) (.error error) ctx
  | dropWaitSet (id : WaitSetId) : Does ctx (.dropWaitSet id) (.ok .done) (ctx.dropWaitSet id)

variable (ctx : Context)

theorem does_announceNode (gid : Gid) (info : NodeInfo) :
    Does ctx (.announceNode gid info) ((ctx.announceNode gid info).1.map .flag)
      (ctx.announceNode gid info).2 := by
  unfold Context.announceNode
  split
  · next hempty =>
    refine .refused (fun ⟨hname, hnamespace⟩ => ?_) nofun
    simp [hname, hnamespace] at hempty
  · next hfull =>
    split
    · next graph hadd => exact .announceNode (by simpa [Sensible] using hfull) hadd
    · next hadd => exact .announceKnownNode hadd

theorem does_withdrawNode (gid : Gid) :
    Does ctx (.withdrawNode gid) (.ok (.flag (ctx.withdrawNode gid).1)) (ctx.withdrawNode gid).2 := by
  unfold Context.withdrawNode
  split
  · next graph hrem => exact .withdrawNode hrem
  · next hrem => exact .withdrawUnknownNode hrem

theorem does_announceEndpoint (remote : RemoteEndpoint) :
    Does ctx (.announceEndpoint remote) ((ctx.announceEndpoint remote).1.map fun _ => .done)
      (ctx.announceEndpoint remote).2 := by
  unfold Context.announceEndpoint
  split
  · next hempty =>
    refine .refused (fun ⟨hname, htype, _⟩ => ?_) nofun
    simp [hname, htype] at hempty
  · next hfull =>
    split
    · next hopen => exact .refused (fun ⟨_, _, hconcrete⟩ => by simp [hconcrete] at hopen) nofun
    · next hconcrete =>
      split
      · next graph notices hadd =>
        simp only [Bool.or_eq_true, String.isEmpty_iff, not_or] at hfull
        exact .announceEndpoint ⟨hfull.1, hfull.2, Bool.eq_false_iff.2 hconcrete⟩ hadd
      · next error hadd => exact .announceKnownEndpoint hadd

theorem does_withdrawEndpoint (gid : Gid) :
    Does ctx (.withdrawEndpoint gid) ((ctx.withdrawEndpoint gid).1.map .flag)
      (ctx.withdrawEndpoint gid).2 := by
  unfold Context.withdrawEndpoint
  split
  · next hlocal =>
    refine .refused (fun hremote => ?_) nofun
    rw [Table.contains, show ctx.graph.locals.find? gid = none from hremote] at hlocal
    cases hlocal
  · next hlocal =>
    have hremote : ctx.graph.locals.find? gid = none := by simpa [Table.contains] using hlocal
    split
    · next graph notices hrem => exact .withdrawEndpoint hremote hrem
    · next hrem => exact .withdrawUnknownEndpoint hrem

theorem does_createNode (name nodeNamespace : String) :
    Does ctx (.createNode name nodeNamespace) ((ctx.createNode name nodeNamespace).1.map .node)
      (ctx.createNode name nodeNamespace).2 := by
  unfold Context.createNode
  split
  · next hempty =>
    exact .refused (fun ⟨hname, _⟩ => hname (String.isEmpty_iff.1 hempty)) nofun
  · next hname =>
    split
    · next hrelative => exact .refused (fun ⟨_, habsolute⟩ => hrelative habsolute) nofun
    · next habsolute =>
      dsimp only
      split
      · next graph hadd =>
        have hfull : name ≠ "" := fun heq => hname (String.isEmpty_iff.2 heq)
        exact .createNode ⟨hfull, Decidable.not_not.1 habsolute⟩ hadd
      · next hadd => exact .createKnownNode hadd

theorem does_destroyNode (node : Node) :
    Does ctx (.destroyNode node) ((ctx.destroyNode node).1.map fun _ => .done)
      (ctx.destroyNode node).2 := by
  unfold Context.destroyNode
  split
  · next graph hrem => exact .destroyNode hrem
  · next hrem => exact .destroyUnknownNode hrem

theorem does_createEndpoint (node : Node) (kind : EndpointKind) (name typeName : String)
    (qos : Qos.Profile) (ignoresLocal : Bool) :
    Does ctx (.createEndpoint node kind name typeName qos ignoresLocal)
      ((ctx.createEndpoint node kind name typeName qos ignoresLocal).1.map .endpoint)
      (ctx.createEndpoint node kind name typeName qos ignoresLocal).2 := by
  unfold Context.createEndpoint
  split
  · next hempty =>
    refine .refused (fun ⟨hname, htype, _⟩ => ?_) nofun
    simp [hname, htype] at hempty
  · next hfull =>
    split
    · next error hinvalid =>
      refine .refused (fun ⟨_, _, hvalid⟩ => ?_) fun gid heq => ?_
      · cases hvalid.symm.trans hinvalid
      · exact qos.validate_ne_duplicateEndpoint gid (heq ▸ hinvalid)
    · next hvalid =>
      dsimp only
      split
      · next graph notices hadd =>
        simp only [Bool.or_eq_true, String.isEmpty_iff, not_or] at hfull
        exact .createEndpoint ⟨hfull.1, hfull.2, hvalid⟩ rfl hadd
      · next error hadd => exact .createKnownEndpoint hadd

theorem does_destroyEndpoint (handle : Handle) :
    Does ctx (.destroyEndpoint handle) ((ctx.destroyEndpoint handle).1.map fun _ => .done)
      (ctx.destroyEndpoint handle).2 := by
  unfold Context.destroyEndpoint
  split
  · next graph notices hrem => exact .destroyEndpoint hrem
  · next hrem => exact .destroyUnknownEndpoint hrem

theorem does_takeSequence (gid : Gid) (count : Nat) :
    Does ctx (.takeSequence gid count) ((ctx.takeSequence gid count).1.map .messages)
      (ctx.takeSequence gid count).2 := by
  unfold Context.takeSequence
  split
  · next hzero => exact .refused (fun hcount => hcount hzero) nofun
  · exact .takeSequence gid count

theorem does_sendResponse (gid : Gid) (request : RequestId) (payload : List UInt8) :
    Does ctx (.sendResponse gid request payload)
      ((ctx.sendResponse gid request payload).1.map fun _ => .done)
      (ctx.sendResponse gid request payload).2 := by
  unfold Context.sendResponse
  split
  · next hnone => exact .sendResponseToNone hnone
  · next core hcore =>
    split
    · next hkind => exact .sendResponseToOther hcore hkind
    · next hkind => exact .sendResponse hcore (Decidable.not_not.1 hkind)

theorem does_takeStatus (event : EventHandle) :
    Does ctx (.takeStatus event) (.ok (.status (ctx.takeStatus event).1))
      (ctx.takeStatus event).2 := by
  unfold Context.takeStatus
  split
  · next hnone => exact .takeNoStatus hnone
  · next core hcore => exact .takeStatus hcore

theorem does_createWaitSet (maxHandles : Nat) :
    Does ctx (.createWaitSet maxHandles) ((ctx.createWaitSet maxHandles).1.map .waitSet)
      (ctx.createWaitSet maxHandles).2 := by
  unfold Context.createWaitSet
  split
  · next id board hnew => exact .createWaitSet hnew
  · next error hnew => exact .createNoWaitSet hnew

/-- Every operation does one of these things. -/
theorem does (operation : Operation) :
    Does ctx operation (operation.perform ctx).1 (operation.perform ctx).2 := by
  cases operation with
  | announceNode gid info => exact does_announceNode ctx gid info
  | withdrawNode gid => exact does_withdrawNode ctx gid
  | announceEndpoint remote => exact does_announceEndpoint ctx remote
  | withdrawEndpoint gid => exact does_withdrawEndpoint ctx gid
  | createNode name nodeNamespace => exact does_createNode ctx name nodeNamespace
  | destroyNode node => exact does_destroyNode ctx node
  | createEndpoint node kind name typeName qos ignoresLocal =>
    exact does_createEndpoint ctx node kind name typeName qos ignoresLocal
  | destroyEndpoint handle => exact does_destroyEndpoint ctx handle
  | publish gid payload => exact .publish gid payload
  | take gid => exact .take gid
  | takeSequence gid count => exact does_takeSequence ctx gid count
  | sendRequest gid payload => exact .sendRequest gid payload
  | takeRequest gid => exact .takeRequest gid
  | sendResponse gid request payload => exact does_sendResponse ctx gid request payload
  | takeResponse gid => exact .takeResponse gid
  | takeStatus event => exact does_takeStatus ctx event
  | setCallback gid channel callback => exact .setCallback gid channel callback
  | createGuard => exact .createGuard
  | trigger guard => exact .trigger guard
  | createWaitSet maxHandles => exact does_createWaitSet ctx maxHandles
  | dropWaitSet id => exact .dropWaitSet id

end Operation

end PubSub
