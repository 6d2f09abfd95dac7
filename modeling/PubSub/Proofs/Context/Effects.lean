import PubSub.Proofs.Context.Course
import PubSub.Proofs.Context.Notices

/-!
# What an act amounts to

An operation does much that endpoints, statuses and callbacks do not notice: it hands out
identifiers, records nodes, moves messages and wakes waits.  `Context.Alike` relates contexts that
differ in nothing else, and `Act.Effect` lists the few things that are left: messages delivered, a
status taken, a callback set, and an endpoint added or removed.  Every operation has one of these
effects (`Operation.effect`), and waiting has none.
-/

namespace PubSub

/-! ## Contexts that look alike -/

/-- The core without what sending and taking messages changes. -/
def Core.outline (core : Core) : Core := { core with inbox := [], sent := 0 }

theorem Core.outline_dequeue (core : Core) : core.dequeue.2.outline = core.outline := by
  unfold Core.dequeue
  split <;> rfl

theorem Core.notifier_outline (core : Core) (channel : Channel) :
    core.outline.notifier channel = core.notifier channel := by
  rcases channel with _ | (_ | _ | _) <;> rfl

/-- The outline of a local endpoint. -/
def Graph.outline (graph : Graph) (gid : Gid) : Option Core :=
  (graph.locals.find? gid).map Core.outline

theorem Graph.outline_modifyCore (graph : Graph) (gid : Gid) {f : Core → Core}
    (hf : ∀ core, graph.locals.find? gid = some core → (f core).outline = core.outline) (k : Gid) :
    (graph.modifyCore gid f).outline k = graph.outline k := by
  unfold outline
  rw [find?_modifyCore]
  split
  · next heq =>
    subst heq
    cases hcore : graph.locals.find? k with
    | none => rfl
    | some core => exact congrArg some (hf core hcore)
  · rfl

/-- The contexts have the same endpoints, with the same statuses and callbacks, and the same jobs
queued for the dispatch thread. -/
structure Context.Alike (ctx ctx' : Context) : Prop where
  endpoints : ctx'.graph.endpoints = ctx.graph.endpoints
  outline : ∀ k, ctx'.graph.outline k = ctx.graph.outline k
  dispatcher : ctx'.dispatcher = ctx.dispatcher

namespace Context.Alike

variable {ctx ctx' ctx'' : Context}

theorem refl (ctx : Context) : Alike ctx ctx := ⟨rfl, fun _ => rfl, rfl⟩

theorem trans (h : Alike ctx ctx') (h' : Alike ctx' ctx'') : Alike ctx ctx'' :=
  ⟨h'.endpoints.trans h.endpoints, fun k => (h'.outline k).trans (h.outline k),
    h'.dispatcher.trans h.dispatcher⟩

/-- Only the endpoints, the locals and the dispatcher matter. -/
theorem of_eq (hendpoints : ctx'.graph.endpoints = ctx.graph.endpoints)
    (hlocals : ctx'.graph.locals = ctx.graph.locals) (hdispatcher : ctx'.dispatcher = ctx.dispatcher) :
    Alike ctx ctx' :=
  ⟨hendpoints, fun k => by rw [Graph.outline, Graph.outline, hlocals], hdispatcher⟩

/-! ### Nodes -/

theorem addNode {gid : Gid} {info : NodeInfo} {graph : Graph}
    (hadd : ctx.graph.addNode gid info = some graph) : Alike ctx (ctx.change graph []) := by
  unfold Graph.addNode at hadd
  split at hadd <;> cases hadd
  exact of_eq rfl rfl rfl

theorem removeNode {gid : Gid} {graph : Graph} (hrem : ctx.graph.removeNode gid = some graph) :
    Alike ctx (ctx.change graph []) := by
  unfold Graph.removeNode at hrem
  split at hrem <;> cases hrem
  exact of_eq rfl rfl rfl

/-! ### Messages -/

theorem nextSequence (ctx : Context) (gid : Gid) : Alike ctx (ctx.nextSequence gid).2 :=
  ⟨rfl, Graph.outline_modifyCore ctx.graph gid fun _ _ => rfl, rfl⟩

theorem take (ctx : Context) (gid : Gid) : Alike ctx (ctx.take gid).2 := by
  unfold Context.take
  split
  · exact refl ctx
  · next core hcore =>
    refine ⟨rfl, Graph.outline_modifyCore ctx.graph gid fun core' hcore' => ?_, rfl⟩
    obtain rfl : core = core' := Option.some.inj (hcore.symm.trans hcore')
    exact core.outline_dequeue

theorem takeUpTo (ctx : Context) (gid : Gid) (count : Nat) :
    Alike ctx (ctx.takeUpTo gid count).2 := by
  induction count generalizing ctx with
  | zero => exact refl ctx
  | succ count ih =>
    have htake := take ctx gid
    unfold Context.takeUpTo
    split
    · next ctx' heq => rwa [heq] at htake
    · next message ctx' heq =>
      rw [heq] at htake
      exact htake.trans (ih ctx')

/-! ### Waits -/

theorem poll (ctx : Context) (source : Source) : Alike ctx (ctx.poll source).2 := by
  cases source <;> exact of_eq rfl rfl rfl

theorem scan (ctx : Context) (handles : List (Option Source)) : Alike ctx (ctx.scan handles).2 := by
  induction handles generalizing ctx with
  | nil => exact refl ctx
  | cons handle rest ih =>
    cases handle with
    | none => exact ih ctx
    | some source => exact (poll ctx source).trans (ih _)

theorem passWait (ctx : Context) (session : Session) (now : Nat) :
    Alike ctx (ctx.passWait session now).1 := by
  have hscan := scan ctx session.handles
  have hpoll := poll (ctx.scan session.handles).2 (.guard session.guard)
  have hboard (ctx : Context) (board : Switchboard) : Alike ctx { ctx with board } :=
    of_eq rfl rfl rfl
  unfold Context.passWait
  dsimp only
  split_ifs
  · exact hscan.trans (hboard ..)
  · exact hscan.trans (hboard ..)
  · exact hscan.trans (hboard ..)
  · exact hscan
  · exact hscan.trans (hpoll.trans (hboard ..))
  · exact hscan.trans (hpoll.trans (hboard ..))
  · exact hscan.trans hpoll

theorem startWait (ctx : Context) (id : WaitSetId) (handles : List (Option Source))
    (timeout : Option Nat) (now : Nat) : Alike ctx (ctx.startWait id handles timeout now).1 := by
  have hboard (board : Switchboard) : Alike ctx { ctx with board } := of_eq rfl rfl rfl
  unfold Context.startWait
  dsimp only
  split
  · exact refl ctx
  · split
    · exact refl ctx
    · split
      · exact refl ctx
      · split
        · exact hboard _
        · exact (hboard _).trans (passWait ..)

theorem collect (ctx : Context) (session : Session) : Alike ctx (ctx.collect session) := by
  unfold Context.collect
  split <;> exact of_eq rfl rfl rfl

theorem resumeWait (ctx : Context) (session : Session) (now : Nat) :
    Alike ctx (ctx.resumeWait session now).1 := by
  unfold Context.resumeWait
  split
  · exact (collect ctx session).trans (passWait ..)
  · exact passWait ctx session now

end Context.Alike

/-! ## Endpoints that are created -/

namespace Context

/-- An endpoint is created under the next identifier, with its policies settled, or nothing but the
identifier is used up. -/
theorem createEndpoint_cases (ctx : Context) (node : Node) (kind : EndpointKind)
    (name typeName : String) (qos : Qos.Profile) (ignoresLocal : Bool) :
    (∃ error, (ctx.createEndpoint node kind name typeName qos ignoresLocal).1 = .error error ∧
      Alike ctx (ctx.createEndpoint node kind name typeName qos ignoresLocal).2 ∧
      ¬ (name ≠ "" ∧ typeName ≠ "" ∧ qos.validate = .ok () ∧
        ctx.graph.endpoints.find? ctx.mint.1 = none)) ∨
    ∃ graph notices,
      ctx.graph.addEndpoint (ctx.nextHandle kind name typeName qos).gid
        ((ctx.nextHandle kind name typeName qos).record node)
        (some (((ctx.nextHandle kind name typeName qos).record node).freshCore ignoresLocal)) =
          .ok (graph, notices) ∧
      ctx.createEndpoint node kind name typeName qos ignoresLocal =
        (.ok (ctx.nextHandle kind name typeName qos), ctx.mint.2.change graph notices) := by
  have hdoes := Operation.does_createEndpoint ctx node kind name typeName qos ignoresLocal
  generalize ctx.createEndpoint node kind name typeName qos ignoresLocal = result at hdoes ⊢
  obtain ⟨error | handle, ctx'⟩ := result
  · refine Or.inl ⟨error, rfl, ?_⟩
    cases hdoes with
    | refused hbad => exact ⟨.refl _, fun h => hbad ⟨h.1, h.2.1, h.2.2.1⟩⟩
    | createKnownEndpoint hadd =>
      exact ⟨.of_eq rfl rfl rfl, fun h => Graph.find?_ne_of_addEndpoint_error hadd h.2.2.2⟩
  · cases hdoes with
    | createEndpoint _ hhandle hadd =>
      subst hhandle
      exact Or.inr ⟨_, _, hadd, rfl⟩

end Context

/-! ## Effects -/

/-- The status that was taken, and whose it was. -/
def Act.returned : Act → Option (Gid × EventStatus)
  | ⟨.takeStatus event, .ok (.status (some status))⟩ => some (event.gid, status)
  | _ => none

/-- What an act does to endpoints, statuses and callbacks. -/
inductive Act.Effect (ctx : Context) : Act → Context → Prop
  | none {act : Act} {ctx' : Context} (h : ctx.Alike ctx') (hreturned : act.returned = .none) :
      Effect ctx act ctx'
  | delivered {act : Act} {mid : Context} (h : ctx.Alike mid) (hreturned : act.returned = .none)
      (receivers : List Gid) (message : Message) :
      Effect ctx act (mid.deliverAll receivers message)
  | taken {event : EventHandle} {core : Core}
      (hcore : ctx.graph.locals.find? event.gid = some core) :
      Effect ctx ⟨.takeStatus event, .ok (.status (some (core.status event.slot)))⟩
        { ctx with graph := ctx.graph.modifyCore event.gid (·.takeStatus event.slot) }
  | registered (gid : Gid) (channel : Channel) (callback : Option CallbackId) :
      Effect ctx ⟨.setCallback gid channel callback, .ok .done⟩
        (ctx.setCallback gid channel callback)
  | created {node : Node} {kind : EndpointKind} {name typeName : String} {qos : Qos.Profile}
      {ignoresLocal : Bool} {handle : Handle} {graph : Graph} {notices : List Notice}
      (hhandle : handle = ctx.nextHandle kind name typeName qos)
      (hadd : ctx.graph.addEndpoint handle.gid (handle.record node)
        (some ((handle.record node).freshCore ignoresLocal)) = .ok (graph, notices)) :
      Effect ctx ⟨.createEndpoint node kind name typeName qos ignoresLocal, .ok (.endpoint handle)⟩
        (ctx.mint.2.change graph notices)
  | announced {remote : RemoteEndpoint} {graph : Graph} {notices : List Notice}
      (hadd : ctx.graph.addEndpoint remote.gid remote.toEndpoint .none = .ok (graph, notices)) :
      Effect ctx ⟨.announceEndpoint remote, .ok .done⟩ (ctx.change graph notices)
  | destroyed {handle : Handle} {graph : Graph} {notices : List Notice}
      (hrem : ctx.graph.removeEndpoint handle.gid = some (graph, notices)) :
      Effect ctx ⟨.destroyEndpoint handle, .ok .done⟩ (ctx.change graph notices)
  | withdrawn {gid : Gid} {graph : Graph} {notices : List Notice}
      (hremote : ctx.graph.locals.find? gid = .none)
      (hrem : ctx.graph.removeEndpoint gid = some (graph, notices)) :
      Effect ctx ⟨.withdrawEndpoint gid, .ok (.flag true)⟩ (ctx.change graph notices)

theorem Act.returned_error (operation : Operation) (error : Error) :
    Act.returned ⟨operation, .error error⟩ = none := by
  cases operation <;> rfl

namespace Operation

theorem Does.effect {ctx ctx' : Context} {operation : Operation} {reply : Except Error Reply}
    (h : operation.Does ctx reply ctx') : Act.Effect ctx ⟨operation, reply⟩ ctx' := by
  have hmint : ctx.Alike ctx.mint.2 := .of_eq rfl rfl rfl
  cases h with
  | refused => exact .none (.refl ctx) (Act.returned_error ..)
  | announceKnownNode | withdrawUnknownNode | announceKnownEndpoint | withdrawUnknownEndpoint
  | destroyUnknownNode | destroyUnknownEndpoint | sendResponseToNone | sendResponseToOther
  | takeNoStatus | createNoWaitSet => exact .none (.refl ctx) rfl
  | announceNode _ hadd => exact .none (.addNode hadd) rfl
  | createNode _ hadd => exact .none (hmint.trans (.addNode hadd)) rfl
  | withdrawNode hrem | destroyNode hrem => exact .none (.removeNode hrem) rfl
  | createKnownNode | createKnownEndpoint => exact .none hmint rfl
  | announceEndpoint _ hadd => exact .announced hadd
  | withdrawEndpoint hremote hrem => exact .withdrawn hremote hrem
  | createEndpoint _ hhandle hadd => exact .created hhandle hadd
  | destroyEndpoint hrem => exact .destroyed hrem
  | publish gid | sendRequest gid => exact .delivered (.nextSequence ctx gid) rfl _ _
  | take gid | takeRequest gid | takeResponse gid => exact .none (.take ctx gid) rfl
  | takeSequence gid count => exact .none (.takeUpTo ctx gid count) rfl
  | @sendResponse gid request payload =>
    exact .delivered (.refl ctx) rfl [request.writer] ⟨payload, gid, request.sequence⟩
  | takeStatus hcore => exact .taken hcore
  | setCallback gid channel callback => exact .registered gid channel callback
  | createGuard | trigger | createWaitSet | dropWaitSet => exact .none (.of_eq rfl rfl rfl) rfl

/-- Every operation has one of the effects. -/
theorem effect (ctx : Context) (operation : Operation) :
    Act.Effect ctx ⟨operation, (operation.perform ctx).1⟩ (operation.perform ctx).2 :=
  (operation.does ctx).effect

end Operation

end PubSub
