import PubSub.Proofs.Context.Course
import PubSub.Proofs.Endpoint.Ledger
import PubSub.Proofs.Wait.Threads

/-!
# Operations and queues

Messages are sent and taken, and nothing else moves them.  The other operations leave the queues as
they are, but for a new endpoint, which has an empty one, and for one that goes
(`Operation.Quiet.calm`).  What is taken comes from the front (`Context.queue_eq_take`).
-/

namespace PubSub

/-! ## Boxes -/

namespace Graph

theorem isSome_find?_of_box {graph graph' : Graph} {k : Gid} (h : graph'.box k = graph.box k) :
    (graph'.locals.find? k).isSome = (graph.locals.find? k).isSome := by
  have hsome := congrArg Option.isSome h
  unfold box at hsome
  rwa [Option.isSome_map, Option.isSome_map] at hsome

/-- Where the boxes are the same, so are the queues of the cores and their bounds. -/
theorem find?_of_box {graph graph' : Graph} {k : Gid} {core' : Core}
    (h : graph'.box k = graph.box k) (hcore' : graph'.locals.find? k = some core') :
    ∃ core, graph.locals.find? k = some core ∧ core.box = core'.box := by
  unfold box at h
  rw [hcore'] at h
  exact Option.map_eq_some_iff.1 h.symm

end Graph

namespace Context

theorem still_callBack (ctx : Context) (gid : Gid) (channel : Channel) :
    ctx.graph.Still (ctx.callBack gid channel).graph := by
  unfold callBack
  split
  · exact .refl _
  · simp only [graph_dispatch]
    exact .modifyCore _ _ fun core _ => ⟨.setNotifier .., core.box_setNotifier ..⟩

end Context

/-! ## Operations that add or remove a queue -/

namespace Graph

variable {graph graph' : Graph} {gid : Gid} {notices : List Notice}

theorem box_addEndpoint {new : Endpoint} {core : Option Core}
    (hadd : graph.addEndpoint gid new core = .ok (graph', notices)) (k : Gid) :
    graph'.box k = if k = gid ∧ core.isSome then core.map Core.box else graph.box k := by
  obtain ⟨-, -, -, -, hlocals, -⟩ := addEndpoint_eq_ok hadd
  unfold box
  rw [hlocals]
  split <;> rfl

theorem box_removeEndpoint (hrem : graph.removeEndpoint gid = some (graph', notices)) (k : Gid) :
    graph'.box k = if k = gid then none else graph.box k := by
  obtain ⟨-, -, -, -, -, hlocals, -⟩ := removeEndpoint_eq_some hrem
  unfold box
  rw [hlocals]
  split <;> rfl

/-- An endpoint with a queue is known. -/
def Known (graph : Graph) : Prop :=
  ∀ k, (graph.locals.find? k).isSome → (graph.endpoints.find? k).isSome

namespace Known

theorem kept (h : graph.Known) (hkept : graph.Kept graph') : graph'.Known := by
  intro k hk
  rw [hkept.isSome_locals] at hk
  rw [hkept.endpoints]
  exact h k hk

theorem modifyCore (h : graph.Known) (gid : Gid) (f : Core → Core) :
    (graph.modifyCore gid f).Known := by
  intro k hk
  refine h k ?_
  rw [find?_modifyCore] at hk
  split at hk
  · simpa using hk
  · exact hk

theorem addEndpoint (h : graph.Known) {new : Endpoint} {core : Option Core}
    (hadd : graph.addEndpoint gid new core = .ok (graph', notices)) : graph'.Known := by
  obtain ⟨-, -, -, hfind, hlocals, -⟩ := addEndpoint_eq_ok hadd
  intro k hk
  rw [hfind]
  split
  · rfl
  · next hne =>
    rw [hlocals, if_neg fun hnew => hne hnew.1] at hk
    rw [Option.isSome_map]
    exact h k hk

theorem removeEndpoint (h : graph.Known)
    (hrem : graph.removeEndpoint gid = some (graph', notices)) : graph'.Known := by
  obtain ⟨gone, -, -, -, hfind, hlocals, -⟩ := removeEndpoint_eq_some hrem
  intro k hk
  rw [hlocals] at hk
  rw [hfind]
  split at hk
  · cases hk
  · next hne =>
    rw [if_neg hne, Option.isSome_map]
    exact h k hk

end Known

end Graph

/-! ## Operations that move no messages -/

namespace Operation

/-- The operation moves no messages. -/
def Quiet : Operation → Prop
  | publish .. | take _ | takeSequence .. | sendRequest .. | takeRequest _ | sendResponse ..
  | takeResponse _ => False
  | _ => True

/-- The endpoint that a reply hands out. -/
def created : Except Error Reply → Option Handle
  | .ok (.endpoint handle) => some handle
  | _ => none

/-- What an operation that moves no messages does to the queues. -/
inductive Calm (before after : Graph) : Operation → Except Error Reply → Prop
  | still {operation : Operation} {reply : Except Error Reply}
      (hbox : ∀ k, after.box k = before.box k) (hreply : created reply = none) :
      Calm before after operation reply
  /-- A new endpoint has an empty queue. -/
  | created {node : Node} {kind : EndpointKind} {name typeName : String} {qos : Qos.Profile}
      {ignoresLocal : Bool} {handle : Handle} (hsettled : Ledger.Settled handle.qos)
      (hnew : before.endpoints.find? handle.gid = none)
      (hbox : ∀ k, after.box k =
        if k = handle.gid then some (handle.qos.queueCapacity, []) else before.box k) :
      Calm before after (createEndpoint node kind name typeName qos ignoresLocal)
        (.ok (.endpoint handle))
  | destroyed {handle : Handle}
      (hbox : ∀ k, after.box k = if k = handle.gid then none else before.box k) :
      Calm before after (destroyEndpoint handle) (.ok .done)

end Operation

namespace Operation

variable {operation : Operation} {reply : Except Error Reply} {ctx ctx' : Context}

theorem Does.calm (hdoes : operation.Does ctx reply ctx') (h : operation.Quiet) :
    Calm ctx.graph ctx'.graph operation reply := by
  have hchange (base : Context) (graph : Graph) (notices : List Notice) :
      (base.change graph notices).graph.box = graph.box :=
    funext (base.still_change graph notices).box
  cases hdoes with
  | refused | announceKnownNode | withdrawUnknownNode | announceKnownEndpoint
  | withdrawUnknownEndpoint | createKnownNode | createKnownEndpoint | destroyUnknownNode
  | destroyUnknownEndpoint | takeNoStatus | createGuard | trigger | createWaitSet
  | createNoWaitSet | dropWaitSet => exact .still (fun k => rfl) rfl
  | announceNode _ hadd | createNode _ hadd =>
    exact .still (fun k => by rw [hchange, (Graph.Still.addNode hadd).box]) rfl
  | withdrawNode hrem | destroyNode hrem =>
    exact .still (fun k => by rw [hchange, (Graph.Still.removeNode hrem).box]) rfl
  | announceEndpoint _ hadd =>
    refine .still (fun k => ?_) rfl
    rw [hchange, Graph.box_addEndpoint hadd, if_neg fun hnew => Bool.false_ne_true hnew.2]
  | withdrawEndpoint hremote hrem =>
    refine .still (fun k => ?_) rfl
    rw [hchange, Graph.box_removeEndpoint hrem]
    split
    · next heq =>
      rw [heq, Graph.box, hremote]
      rfl
    · rfl
  | createEndpoint hsensible hhandle hadd =>
    subst hhandle
    refine .created ⟨_, _, _, hsensible.2.2, rfl⟩ (Graph.addEndpoint_eq_ok hadd).1 fun k => ?_
    rw [hchange, Graph.box_addEndpoint hadd]
    simp only [Option.isSome_some, and_true]
    rfl
  | destroyEndpoint hrem =>
    exact .destroyed fun k => by rw [hchange, Graph.box_removeEndpoint hrem]
  | takeStatus => exact .still (Graph.Still.takeStatus ..).box rfl
  | setCallback gid channel callback =>
    exact .still (ctx.still_setCallback gid channel callback).box rfl
  | publish | take | takeSequence | sendRequest | takeRequest | sendResponse | sendResponseToNone
  | sendResponseToOther | takeResponse => exact h.elim

theorem Quiet.calm (h : operation.Quiet) (ctx : Context) :
    Calm ctx.graph (operation.perform ctx).2.graph operation (operation.perform ctx).1 :=
  (operation.does ctx).calm h

/-- Only creating an endpoint hands one out. -/
theorem Does.eq_createEndpoint {handle : Handle} (hdoes : operation.Does ctx reply ctx')
    (hcreated : created reply = some handle) :
    ∃ node kind name typeName qos ignoresLocal,
      operation = .createEndpoint node kind name typeName qos ignoresLocal := by
  cases hdoes with
  | createEndpoint => exact ⟨_, _, _, _, _, _, rfl⟩
  | _ => cases hcreated

/-- Sending and taking hands out no endpoint. -/
theorem created_of_not_quiet (operation : Operation) (hloud : ¬ operation.Quiet) (ctx : Context) :
    created (operation.perform ctx).1 = none := by
  refine Option.eq_none_iff_forall_ne_some.2 fun handle hcreated => hloud ?_
  obtain ⟨_, _, _, _, _, _, rfl⟩ := (operation.does ctx).eq_createEndpoint hcreated
  trivial

theorem Does.known (hdoes : operation.Does ctx reply ctx') (h : operation.Quiet)
    (hknown : ctx.graph.Known) : ctx'.graph.Known := by
  have hchange {base : Context} {graph : Graph} {notices : List Notice} (hgraph : graph.Known) :
      (base.change graph notices).graph.Known :=
    hgraph.kept (base.still_change graph notices).toKept
  cases hdoes with
  | refused | announceKnownNode | withdrawUnknownNode | announceKnownEndpoint
  | withdrawUnknownEndpoint | createKnownNode | createKnownEndpoint | destroyUnknownNode
  | destroyUnknownEndpoint | takeNoStatus | createGuard | trigger | createWaitSet
  | createNoWaitSet | dropWaitSet => exact hknown
  | announceNode _ hadd | createNode _ hadd =>
    exact hchange (hknown.kept (Graph.Still.addNode hadd).toKept)
  | withdrawNode hrem | destroyNode hrem =>
    exact hchange (hknown.kept (Graph.Still.removeNode hrem).toKept)
  | announceEndpoint _ hadd | createEndpoint _ _ hadd => exact hchange (hknown.addEndpoint hadd)
  | withdrawEndpoint _ hrem | destroyEndpoint hrem => exact hchange (hknown.removeEndpoint hrem)
  | takeStatus => exact hknown.modifyCore _ _
  | setCallback gid channel callback =>
    exact hknown.kept (ctx.still_setCallback gid channel callback).toKept
  | publish | take | takeSequence | sendRequest | takeRequest | sendResponse | sendResponseToNone
  | sendResponseToOther | takeResponse => exact h.elim

theorem Quiet.known (h : operation.Quiet) (hknown : ctx.graph.Known) :
    (operation.perform ctx).2.graph.Known :=
  (operation.does ctx).known h hknown

end Operation

/-! ## Sending and taking -/

theorem Graph.queue_eq_box (graph : Graph) (k : Gid) :
    graph.queue k = ((graph.box k).map Prod.snd).getD [] := by
  unfold queue box
  rw [Option.map_map]
  rfl

theorem Core.snd_dequeue_of_none {core : Core} (h : core.dequeue.1 = none) :
    core.dequeue.2 = core := by
  unfold dequeue at h ⊢
  split at h
  · rfl
  · cases h

namespace Context

theorem take_eq {ctx : Context} {gid : Gid} {core : Core}
    (hcore : ctx.graph.locals.find? gid = some core) :
    ctx.take gid = (core.dequeue.1,
      { ctx with graph := ctx.graph.modifyCore gid fun _ => core.dequeue.2 }) := by
  unfold take
  rw [hcore]

/-- Nothing is taken where there is no endpoint. -/
theorem take_eq_none {ctx : Context} {gid : Gid}
    (hnone : ctx.graph.locals.find? gid = none) : ctx.take gid = (none, ctx) := by
  unfold take
  rw [hnone]

/-- What is taken comes from the front of the queue, and no other queue changes. -/
theorem queue_eq_take (ctx : Context) (gid k : Gid) :
    ctx.graph.queue k =
      (if k = gid then (ctx.take gid).1.toList else []) ++ (ctx.take gid).2.graph.queue k := by
  cases hfind : ctx.graph.locals.find? gid with
  | none =>
    rw [take_eq_none hfind]
    split <;> rfl
  | some core =>
    rw [take_eq hfind]
    unfold Graph.queue
    dsimp only
    rw [Graph.find?_modifyCore]
    split
    · next heq =>
      rw [heq, hfind]
      unfold Core.dequeue
      cases hinbox : core.inbox <;> simp [hinbox]
    · rfl

theorem queue_eq_takeUpTo (ctx : Context) (gid : Gid) (count : Nat) (k : Gid) :
    ctx.graph.queue k =
      (if k = gid then (ctx.takeUpTo gid count).1 else []) ++
        (ctx.takeUpTo gid count).2.graph.queue k := by
  induction count generalizing ctx with
  | zero =>
    unfold takeUpTo
    split <;> rfl
  | succ count ih =>
    have htake := ctx.queue_eq_take gid k
    unfold takeUpTo
    generalize ctx.take gid = taken at htake
    obtain ⟨_ | message, ctx'⟩ := taken
    · exact htake
    · rw [htake, ih ctx']
      split <;> simp

/-- Nothing is taken from an empty queue only. -/
theorem queue_eq_nil_of_take {ctx ctx' : Context} {gid : Gid} (h : ctx.take gid = (none, ctx')) :
    ctx.graph.queue gid = [] := by
  unfold Graph.queue
  cases hfind : ctx.graph.locals.find? gid with
  | none => rfl
  | some core =>
    rw [take_eq hfind] at h
    cases hinbox : core.inbox with
    | nil => exact hinbox
    | cons message rest =>
      unfold Core.dequeue at h
      rw [hinbox] at h
      cases (Prod.mk.inj h).1

/-- What is taken at once are the first messages of the queue. -/
theorem fst_takeUpTo (ctx : Context) (gid : Gid) (count : Nat) :
    (ctx.takeUpTo gid count).1 = (ctx.graph.queue gid).take count := by
  induction count generalizing ctx with
  | zero => rw [List.take_zero]; rfl
  | succ count ih =>
    have htake := ctx.queue_eq_take gid gid
    unfold takeUpTo
    cases hpop : ctx.take gid with
    | mk first ctx' =>
      cases first with
      | none => rw [queue_eq_nil_of_take hpop, List.take_nil]
      | some message =>
        rw [hpop, if_pos rfl] at htake
        rw [htake]
        exact congrArg (message :: ·) (ih ctx')

/-- The rest of the queue stays. -/
theorem queue_takeUpTo (ctx : Context) (gid : Gid) (count : Nat) :
    (ctx.takeUpTo gid count).2.graph.queue gid = (ctx.graph.queue gid).drop count := by
  have htake := ctx.queue_eq_takeUpTo gid count gid
  rw [if_pos rfl, fst_takeUpTo] at htake
  have hall := htake.symm.trans (List.take_append_drop count _).symm
  exact List.append_cancel_left hall

theorem queue_deliver_of_ne (ctx : Context) {gid k : Gid} (hne : k ≠ gid) (message : Message) :
    (ctx.deliver gid message).graph.queue k = ctx.graph.queue k := by
  have hfind := ctx.find?_locals_signal gid .data (·.enqueue message) k
  rw [if_neg hne] at hfind
  unfold Graph.queue deliver
  rw [hfind]

theorem queue_deliverAll_of_notMem (ctx : Context) {receivers : List Gid} {k : Gid}
    (hnot : k ∉ receivers) (message : Message) :
    (ctx.deliverAll receivers message).graph.queue k = ctx.graph.queue k := by
  unfold deliverAll
  induction receivers generalizing ctx with
  | nil => rfl
  | cons gid rest ih =>
    obtain ⟨hne, hrest⟩ := not_or.1 (mt List.mem_cons.2 hnot)
    exact (ih _ hrest).trans (ctx.queue_deliver_of_ne hne message)

end Context

end PubSub
