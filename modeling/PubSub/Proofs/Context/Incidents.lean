import Mathlib.Logic.Relation
import PubSub.Proofs.Context.Lives
import PubSub.Proofs.Context.Publish
import PubSub.Proofs.Context.Reporting
import PubSub.Proofs.Wait.Undisturbed

/-!
# Operations that are reported

What an operation does in one go is a course of steps of a `Reporting`, in which every signal is logged
as an event of the endpoint that is there (`Reporting.follows_perform`).  So a whole trail is retold by
such steps, and the events that are logged for an endpoint are those of the moments of its life
(`Context.Trail.exists_retelling`).
-/

namespace PubSub

namespace Reporting

variable {r : Reporting}

/-! ## Steps that signal -/

/-- Steps one after the other. -/
def Steps : Reporting → Reporting → Prop := Relation.ReflTransGen Step

theorem Reachable.steps {r' : Reporting} (h : r.Reachable) (hsteps : Steps r r') :
    r'.Reachable := by
  induction hsteps with
  | refl => exact h
  | tail _ hstep ih => exact ih.step hstep

/-- How many of the signals are events of an outlet: those for the channel, if the endpoint is there. -/
def told (r : Reporting) (signals : List (Gid × Channel)) (outlet : Outlet) : Nat :=
  if outlet.life = r.age outlet.gid ∧ (r.ctx.graph.locals.find? outlet.gid).isSome = true then
    signals.count (outlet.gid, outlet.channel)
  else 0

theorem told_nil (r : Reporting) (outlet : Outlet) : r.told [] outlet = 0 := ite_self 0

theorem told_append (r : Reporting) (signals signals' : List (Gid × Channel)) (outlet : Outlet) :
    r.told (signals ++ signals') outlet = r.told signals outlet + r.told signals' outlet := by
  unfold told
  split
  · exact List.count_append
  · rfl

theorem told_congr {r' : Reporting} (hage : r'.age = r.age)
    (hlocals : ∀ k, (r'.ctx.graph.locals.find? k).isSome = (r.ctx.graph.locals.find? k).isSome)
    (signals : List (Gid × Channel)) (outlet : Outlet) :
    r'.told signals outlet = r.told signals outlet := by
  unfold told
  rw [hage, hlocals]

/-- Steps lead to the context and log the signals as events, while the dispatch thread makes no calls
and is not told to stop.  What was to be raised before is still to be raised, and no endpoint comes or
goes. -/
structure LeadsTo (r : Reporting) (ctx : Context) (signals : List (Gid × Channel)) : Prop where
  steps : ∃ r', Steps r r' ∧ r'.ctx = ctx ∧ r'.due = r.due ∧ r'.calls = r.calls ∧ r'.age = r.age ∧
    ∀ o, r'.log.events o = r.log.events o + r.told signals o
  stopped : ctx.dispatcher.stopped = r.ctx.dispatcher.stopped
  locals : ∀ k, (ctx.graph.locals.find? k).isSome = (r.ctx.graph.locals.find? k).isSome

namespace LeadsTo

theorem refl (r : Reporting) : r.LeadsTo r.ctx [] :=
  ⟨⟨r, .refl, rfl, rfl, rfl, rfl, fun o => by rw [told_nil, Nat.add_zero]⟩, rfl, fun _ => rfl⟩

/-- A step that does not signal. -/
theorem of_step {r' : Reporting} (h : Step r r') (hdue : r'.due = r.due)
    (hcalls : r'.calls = r.calls) (hage : r'.age = r.age)
    (hlog : ∀ o, r'.log.events o = r.log.events o)
    (hstopped : r'.ctx.dispatcher.stopped = r.ctx.dispatcher.stopped)
    (hlocals : ∀ k, (r'.ctx.graph.locals.find? k).isSome = (r.ctx.graph.locals.find? k).isSome) :
    r.LeadsTo r'.ctx [] :=
  ⟨⟨r', .single h, rfl, hdue, hcalls, hage, fun o => by rw [told_nil, Nat.add_zero, hlog]⟩,
    hstopped, hlocals⟩

theorem trans {ctx ctx' : Context} {signals signals' : List (Gid × Channel)}
    (h : r.LeadsTo ctx signals) (h' : ∀ r' : Reporting, r'.ctx = ctx → r'.LeadsTo ctx' signals') :
    r.LeadsTo ctx' (signals ++ signals') := by
  obtain ⟨⟨r', hsteps, rfl, hdue, hcalls, hage, hlog⟩, hstopped, hlocals⟩ := h
  obtain ⟨⟨r'', hsteps', hctx', hdue', hcalls', hage', hlog'⟩, hstopped', hlocals'⟩ := h' r' rfl
  refine ⟨⟨r'', hsteps.trans hsteps', hctx', hdue'.trans hdue, hcalls'.trans hcalls,
    hage'.trans hage, fun o => ?_⟩, hstopped'.trans hstopped,
    fun k => (hlocals' k).trans (hlocals k)⟩
  rw [hlog', hlog, told_append, told_congr hage hlocals, Nat.add_assoc]

theorem bind {ctx : Context} {signals signals' : List (Gid × Channel)} (h : r.LeadsTo ctx signals)
    (next : Context → Context) (h' : ∀ r' : Reporting, r'.LeadsTo (next r'.ctx) signals') :
    r.LeadsTo (next ctx) (signals ++ signals') :=
  h.trans fun r' hctx => hctx ▸ h' r'

end LeadsTo

theorem leadsTo_aside (r : Reporting) {ctx : Context} (hgraph : ctx.graph = r.ctx.graph)
    (hdispatcher : ctx.dispatcher = r.ctx.dispatcher) : r.LeadsTo ctx [] :=
  .of_step (.aside hgraph hdispatcher) rfl rfl rfl (fun _ => rfl)
    (congrArg Dispatcher.stopped hdispatcher) fun k => by rw [hgraph]

theorem core_live {gid : Gid} {core : Core} (hcore : r.ctx.graph.locals.find? gid = some core) :
    r.core gid (r.age gid) = some core := by
  rw [Reporting.core, if_pos rfl, hcore]

/-- The change of a core of a local endpoint, and what its notifier told the dispatch thread. -/
theorem ctx_tell_live (r : Reporting) (gid : Gid) (channel : Channel) (core : Core)
    (act : Notifier.Act) :
    (r.tell ⟨gid, r.age gid, channel⟩ core act).ctx =
      Context.dispatch
        { r.ctx with
          graph := r.ctx.graph.modifyCore gid
            (·.setNotifier channel ((core.notifier channel).perform act).1) }
        ((core.notifier channel).perform act).2 := by
  unfold tell modify
  dsimp only
  rw [if_pos rfl]

theorem ctx_tell_raise {gid : Gid} {core : Core}
    (hcore : r.ctx.graph.locals.find? gid = some core) (channel : Channel) :
    (r.tell ⟨gid, r.age gid, channel⟩ core .raise).ctx = r.ctx.callBack gid channel := by
  rw [ctx_tell_live, Context.callBack, hcore]
  rfl

theorem ctx_tell_register {gid : Gid} {core : Core}
    (hcore : r.ctx.graph.locals.find? gid = some core) (channel : Channel)
    (callback : Option CallbackId) :
    (r.tell ⟨gid, r.age gid, channel⟩ core (.register callback)).ctx =
      r.ctx.setCallback gid channel callback := by
  rw [ctx_tell_live, Context.setCallback, hcore]
  rfl

/-- An event that occurs and is raised is logged once. -/
theorem events_raised (log : Log) (gid : Gid) (life : Nat) (incident : Incident) (outlet o : Outlet)
    (job : Option Job) :
    Log.events (.told outlet .raise job :: .occurred gid life incident :: log) o =
      log.events o + if ⟨gid, life, incident.channel⟩ = o then 1 else 0 := by
  unfold Log.events
  rw [List.countP_cons_of_neg Bool.false_ne_true, List.countP_cons]
  simp only [Entry.isEvent, decide_eq_true_eq]

theorem told_singleton (r : Reporting) {gid : Gid}
    (hlocal : (r.ctx.graph.locals.find? gid).isSome = true) (channel : Channel) (o : Outlet) :
    r.told [(gid, channel)] o = if ⟨gid, r.age gid, channel⟩ = o then 1 else 0 := by
  unfold told
  rw [List.count_singleton]
  by_cases heq : (⟨gid, r.age gid, channel⟩ : Outlet) = o
  · subst heq
    rw [if_pos ⟨rfl, hlocal⟩, if_pos (beq_self_eq_true _), if_pos rfl]
  · rw [if_neg heq]
    split
    · next hthere =>
      refine if_neg fun hsame => heq ?_
      obtain ⟨rfl, rfl⟩ := Prod.mk.inj (beq_iff_eq.1 hsame)
      rw [← hthere.1]
    · rfl

/-- The core changes, the event is raised, and those who wait are signalled. -/
theorem leadsTo_signal (r : Reporting) (gid : Gid) (incident : Incident) :
    r.LeadsTo (r.ctx.signal gid incident.channel incident.apply) [(gid, incident.channel)] := by
  unfold Context.signal
  split
  · next hnone =>
    refine ⟨⟨r, .refl, rfl, rfl, rfl, rfl, fun o => ?_⟩, rfl, fun _ => rfl⟩
    have hsilent : r.told [(gid, incident.channel)] o = 0 := by
      unfold told
      by_cases hk : o.gid = gid
      · rw [hk, hnone, if_neg (by simp)]
      · rw [List.count_eq_zero.2 (by simp [hk]), ite_self]
    rw [hsilent, Nat.add_zero]
  · next core hcore =>
    have hlocal : (r.ctx.graph.locals.find? gid).isSome = true := by
      rw [hcore]
      rfl
    let outlet : Outlet := ⟨gid, r.age gid, incident.channel⟩
    let changed : Context := { r.ctx with graph := r.ctx.graph.modifyCore gid incident.apply }
    let occurred : Reporting :=
      { r.modify gid (r.age gid) incident.apply with
        due := outlet :: r.due
        log := .occurred gid (r.age gid) incident :: r.log }
    have hoccur : Step r occurred := .occur incident (core_live hcore)
    have hctx : occurred.ctx = changed := if_pos rfl
    have hcore' : occurred.ctx.graph.locals.find? gid = some (incident.apply core) := by
      rw [hctx, Graph.find?_modifyCore, if_pos rfl, hcore]
      rfl
    have hraise := @Step.raise occurred outlet _ List.mem_cons_self (core_live hcore')
    have hcalled : r.LeadsTo (changed.callBack gid incident.channel)
        [(gid, incident.channel)] := by
      refine ⟨⟨_, .tail (.single hoccur) hraise, ?_, List.erase_cons_head .., rfl, rfl,
        fun o => ?_⟩, ?_, fun k => ?_⟩
      · exact (ctx_tell_raise hcore' incident.channel).trans
          (congrArg (·.callBack gid incident.channel) hctx)
      · rw [r.told_singleton hlocal]
        exact events_raised ..
      · unfold Context.callBack
        split
        · rfl
        · exact Context.stopped_dispatch ..
      · rw [(changed.still_callBack gid incident.channel).isSome_locals]
        exact Graph.isSome_find?_modifyCore ..
    rw [Context.callBack_change hcore incident] at hcalled
    exact hcalled.bind
      (fun ctx => { ctx with board := ctx.board.notify (.endpoint gid incident.channel) })
      fun r' => r'.leadsTo_aside rfl rfl

theorem leadsTo_fire (r : Reporting) (notice : Notice) :
    r.LeadsTo (r.ctx.fire notice) [notice.signal] := by
  cases notice with
  | gained gid => exact r.leadsTo_signal gid .gained
  | lost gid => exact r.leadsTo_signal gid .lost
  | incompatibleQos gid policy => exact r.leadsTo_signal gid (.incompatibleQos policy)
  | incompatibleType gid => exact r.leadsTo_signal gid .incompatibleType

theorem leadsTo_announce (r : Reporting) (notices : List Notice) :
    r.LeadsTo (r.ctx.announce notices) (notices.map Notice.signal) := by
  induction notices generalizing r with
  | nil => exact r.leadsTo_aside rfl rfl
  | cons notice rest ih => exact (r.leadsTo_fire notice).bind (·.announce rest) ih

theorem leadsTo_deliverAll (r : Reporting) (receivers : List Gid) (message : Message) :
    r.LeadsTo (r.ctx.deliverAll receivers message) (receivers.map fun gid => (gid, .data)) := by
  induction receivers generalizing r with
  | nil => exact .refl r
  | cons gid rest ih =>
    exact (r.leadsTo_signal gid (.message message)).bind (·.deliverAll rest message) ih

/-- A message is numbered and goes to each receiver. -/
theorem leadsTo_send (r : Reporting) (gid : Gid) (receivers : List Gid) (message : Message) :
    r.LeadsTo ((r.ctx.nextSequence gid).2.deliverAll receivers message)
      (receivers.map fun gid => (gid, .data)) := by
  have hnumber : r.LeadsTo (r.ctx.nextSequence gid).2 [] := by
    refine .of_step (.number gid) rfl rfl rfl (fun _ => rfl) rfl fun k => ?_
    exact Graph.isSome_find?_modifyCore ..
  exact hnumber.bind (·.deliverAll receivers message) fun r' => r'.leadsTo_deliverAll ..

/-! ## Steps of an operation -/

/-- Steps lead to the context and log the events of an act, while the dispatch thread makes no calls and
is not told to stop. -/
structure Follows (r : Reporting) (act : Act) (ctx : Context) : Prop where
  steps : ∃ r' signals, Steps r r' ∧ r'.ctx = ctx ∧ r'.due = r.due ∧ r'.calls = r.calls ∧
    Moment.Signals ⟨r.ctx.graph, act, ctx.graph⟩ signals ∧
    (∀ k, r'.age k = r.age k + if Moment.departs ⟨r.ctx.graph, act, ctx.graph⟩ k then 1 else 0) ∧
    ∀ o, r'.log.events o = r.log.events o + r'.told signals o
  stopped : ctx.dispatcher.stopped = r.ctx.dispatcher.stopped
  /-- A local endpoint leaves the graph or stays local. -/
  locals : ∀ k, (r.ctx.graph.locals.find? k).isSome = true →
    Moment.departs ⟨r.ctx.graph, act, ctx.graph⟩ k = true ∨ (ctx.graph.locals.find? k).isSome = true

namespace Follows

variable {act : Act} {ctx : Context} {signals : List (Gid × Channel)}

/-- Endpoints come or go at first, and then there are signals. -/
theorem of_step {mid : Reporting} (hstep : Step r mid) (hdue : mid.due = r.due)
    (hcalls : mid.calls = r.calls) (hlog : mid.log = r.log)
    (hdispatcher : mid.ctx.dispatcher = r.ctx.dispatcher)
    (hage : ∀ k, mid.age k =
      r.age k + if Moment.departs ⟨r.ctx.graph, act, ctx.graph⟩ k then 1 else 0)
    (hlocals : ∀ k, (r.ctx.graph.locals.find? k).isSome = true →
      Moment.departs ⟨r.ctx.graph, act, ctx.graph⟩ k = true ∨
        (mid.ctx.graph.locals.find? k).isSome = true)
    (h : mid.LeadsTo ctx signals) (hsignals : Moment.Signals ⟨r.ctx.graph, act, ctx.graph⟩ signals) :
    r.Follows act ctx := by
  obtain ⟨⟨r', hsteps, hctx, hdue', hcalls', hage', hlog'⟩, hstopped, hlocals'⟩ := h
  refine ⟨⟨r', signals, .head hstep hsteps, hctx, hdue'.trans hdue, hcalls'.trans hcalls, hsignals,
    fun k => by rw [hage', hage], fun o => ?_⟩, hstopped.trans (congrArg _ hdispatcher),
    fun k hk => (hlocals k hk).imp_right (hlocals' k).trans⟩
  rw [hlog', hlog, told_congr hage' (hctx ▸ hlocals')]

/-- Messages go to some endpoints, and all endpoints stay. -/
theorem of_leadsTo {receivers : List Gid} (hsame : ctx.graph.endpoints = r.ctx.graph.endpoints)
    (hcreated : Operation.created act.reply = none)
    (harrivals : ∀ gid, receivers.count gid =
      Moment.arrivals ⟨r.ctx.graph, act, ctx.graph⟩ gid)
    (h : r.LeadsTo ctx (receivers.map fun gid => (gid, .data))) : r.Follows act ctx := by
  have hstays (k : Gid) : Moment.departs ⟨r.ctx.graph, act, ctx.graph⟩ k = false := by
    unfold Moment.departs
    rw [hsame, Bool.and_not_self]
  obtain ⟨⟨r', hsteps, hctx, hdue, hcalls, hage, hlog⟩, hstopped, hlocals⟩ := h
  refine ⟨⟨r', _, hsteps, hctx, hdue, hcalls, .sent hsame hcreated harrivals, fun k => ?_,
    fun o => ?_⟩, hstopped, fun k hk => Or.inr ((hlocals k).trans hk)⟩
  · rw [hage, hstays]
    rfl
  · rw [hlog, told_congr hage (hctx ▸ hlocals)]

/-- Nothing is signalled. -/
theorem quiet (hsame : ctx.graph.endpoints = r.ctx.graph.endpoints)
    (hcreated : Operation.created act.reply = none)
    (hsilent : ∀ gid, Moment.arrivals ⟨r.ctx.graph, act, ctx.graph⟩ gid = 0)
    (h : r.LeadsTo ctx []) : r.Follows act ctx :=
  @of_leadsTo r act ctx [] hsame hcreated (fun gid => (hsilent gid).symm) h

/-- An endpoint is added, and then those who are to be told learn of it. -/
theorem add {gid : Gid} {record : Endpoint} (ignoresLocal : Option Bool) {graph : Graph}
    {notices : List Notice}
    (hadd : r.ctx.graph.addEndpoint gid record (ignoresLocal.map record.freshCore) =
      .ok (graph, notices))
    (hcreated : ∀ handle, Operation.created act.reply = some handle →
      ∃ node core, gid = handle.gid ∧ record = handle.record node ∧
        ignoresLocal.map record.freshCore = some core)
    (hsilent : ∀ gid after, Moment.arrivals ⟨r.ctx.graph, act, after⟩ gid = 0) :
    r.Follows act (r.ctx.change graph notices) := by
  have hafter := (Context.still_change r.ctx graph notices).endpoints
  obtain ⟨-, -, -, -, hlocals, -⟩ := Graph.addEndpoint_eq_ok hadd
  have hstays := Moment.departs_of_add ⟨r.ctx.graph, act, _⟩ hadd hafter
  refine of_step (.add hadd) rfl rfl rfl rfl (fun k => ?_) (fun k hk => Or.inr ?_)
    (leadsTo_announce { r with ctx := { r.ctx with graph } } notices)
    (.added hadd hafter hcreated fun gid => hsilent gid _)
  · rw [hstays]
    rfl
  · show (graph.locals.find? k).isSome = true
    rw [hlocals]
    split
    · next hnew => exact hnew.2
    · exact hk

/-- An endpoint is removed, and then those who are to be told learn of it. -/
theorem remove {gid : Gid} {graph : Graph} {notices : List Notice}
    (hrem : r.ctx.graph.removeEndpoint gid = some (graph, notices))
    (hcreated : Operation.created act.reply = none)
    (hsilent : ∀ gid after, Moment.arrivals ⟨r.ctx.graph, act, after⟩ gid = 0) :
    r.Follows act (r.ctx.change graph notices) := by
  have hafter := (Context.still_change r.ctx graph notices).endpoints
  obtain ⟨-, -, -, -, -, hlocals, -⟩ := Graph.removeEndpoint_eq_some hrem
  have hleaves := Moment.departs_of_remove ⟨r.ctx.graph, act, _⟩ hrem hafter
  refine of_step (.remove hrem) rfl rfl rfl rfl (fun k => ?_) (fun k hk => ?_)
    (leadsTo_announce (r.retire graph fun k => k = gid) notices)
    (.removed hrem hafter hcreated fun gid => hsilent gid _)
  · rw [hleaves]
    show (if decide (k = gid) = true then r.age k + 1 else r.age k) = _
    split <;> rfl
  · rw [hleaves]
    by_cases heq : k = gid
    · exact Or.inl (decide_eq_true heq)
    · right
      show (graph.locals.find? k).isSome = true
      rwa [hlocals, if_neg heq]

/-- An identifier is used up before. -/
theorem of_mint (h : Follows { r with ctx := r.ctx.mint.2 } act ctx) : r.Follows act ctx := by
  have hmint : Step r { r with ctx := r.ctx.mint.2 } := .aside rfl rfl
  obtain ⟨⟨r', signals, hsteps, hlater⟩, hstopped, hlocals⟩ := h
  exact ⟨⟨r', signals, .head hmint hsteps, hlater⟩, hstopped, hlocals⟩

end Follows

end Reporting

/-- Operations in which no event is raised leave the records of endpoints alone. -/
theorem Act.Effect.endpoints_of_silent {ctx ctx' : Context} {act : Act} (h : act.Effect ctx ctx')
    (hsilent : act.operation.Silent) : ctx'.graph.endpoints = ctx.graph.endpoints := by
  cases h with
  | none halike => exact halike.endpoints
  | delivered halike _ receivers message =>
    exact (Context.kept_deliverAll _ receivers message).endpoints.trans halike.endpoints
  | taken => rfl
  | registered | created | announced | destroyed | withdrawn => exact hsilent.elim

theorem Operation.Silent.created {operation : Operation} (h : operation.Silent) (ctx : Context) :
    created (operation.perform ctx).1 = none := by
  refine Option.eq_none_iff_forall_ne_some.2 fun handle hcreated => ?_
  obtain ⟨_, _, _, _, _, _, rfl⟩ := (operation.does ctx).eq_createEndpoint hcreated
  exact h

theorem Operation.Silent.arrivals {operation : Operation} (h : operation.Silent)
    (reply : Except Error Reply) (before after : Graph) (gid : Gid) :
    Moment.arrivals ⟨before, ⟨operation, reply⟩, after⟩ gid = 0 := by
  cases operation <;> first | rfl | exact h.elim

namespace Context

/-- The receivers are the matched subscriptions that do not ignore their context. -/
theorem count_receivers {ctx : Context} (h : ctx.graph.Matched) (sender gid : Gid) :
    ((ctx.nextSequence sender).2.receivers sender).count gid =
      if gid ∈ ctx.graph.localPeers sender ∧
        (ctx.graph.locals.find? gid).any (!·.ignoresLocal) = true then 1 else 0 := by
  have hmatched : (ctx.nextSequence sender).2.graph.Matched := h.modifyCore sender _
  have hany : ((ctx.nextSequence sender).2.graph.locals.find? gid).any (!·.ignoresLocal) =
      (ctx.graph.locals.find? gid).any (!·.ignoresLocal) := by
    show Option.any _ ((ctx.graph.modifyCore sender _).locals.find? gid) = _
    rw [Graph.find?_modifyCore]
    split
    · exact Option.any_map ..
    · rfl
  rw [(nodup_receivers hmatched sender).count]
  refine if_congr ?_ rfl rfl
  rw [receivers, List.mem_filter, hany]
  exact Iff.rfl

end Context

namespace Reporting

variable (r : Reporting)

/-- Another callback is no event, though the call for what is unnotified may be queued at once. -/
theorem leadsTo_setCallback (gid : Gid) (channel : Channel) (callback : Option CallbackId) :
    r.LeadsTo (r.ctx.setCallback gid channel callback) [] := by
  cases hcore : r.ctx.graph.locals.find? gid with
  | none =>
    rw [Context.setCallback, hcore]
    exact .refl r
  | some core =>
    have hlocals := (r.ctx.still_setCallback gid channel callback).isSome_locals
    rw [← ctx_tell_register hcore channel callback] at hlocals ⊢
    refine .of_step (.register callback (core_live hcore)) rfl rfl rfl
      (fun o => List.countP_cons_of_neg Bool.false_ne_true) ?_ hlocals
    rw [ctx_tell_live]
    exact Context.stopped_dispatch ..

/-- Operations in which no event is raised and that tell no notifier anything are one step. -/
theorem follows_of_silent {operation : Operation} (h : operation.Silent) :
    r.Follows ⟨operation, (operation.perform r.ctx).1⟩ (operation.perform r.ctx).2 := by
  have hunheard := h.unheard r.ctx
  refine .quiet ((operation.effect r.ctx).endpoints_of_silent h) (h.created r.ctx)
    (fun _ => h.arrivals ..) (.of_step (.operate h) rfl rfl rfl (fun _ => rfl)
      (congrArg Dispatcher.stopped hunheard.dispatcher) fun k => ?_)
  have hsome := congrArg Option.isSome (hunheard.notifiers k .data)
  rwa [Option.isSome_map, Option.isSome_map] at hsome

/-- A response goes to the client that the request names, if it is one. -/
theorem follows_sendResponse {request : RequestId} {core : Core}
    (hcore : r.ctx.graph.locals.find? request.writer = some core) (hkind : core.kind = .client)
    (gid : Gid) (payload : List UInt8) :
    r.Follows ⟨.sendResponse gid request payload, .ok .done⟩
      (r.ctx.deliver request.writer ⟨payload, gid, request.sequence⟩) := by
  refine .of_leadsTo (Context.kept_deliverAll r.ctx [request.writer] _).endpoints rfl
    (fun k => ?_) (r.leadsTo_deliverAll [request.writer] ⟨payload, gid, request.sequence⟩)
  have hclient : (r.ctx.graph.locals.find? request.writer).any (·.kind = .client) = true := by
    rw [hcore]
    exact decide_eq_true hkind
  rw [List.count_singleton]
  refine if_congr ⟨fun heq => ?_, fun h => beq_iff_eq.2 h.1.symm⟩ rfl rfl
  obtain rfl := beq_iff_eq.1 heq
  exact ⟨rfl, hclient⟩

/-- What raises events is a course of steps. -/
theorem follows_of_does (hmatched : r.ctx.graph.Matched) {operation : Operation}
    {reply : Except Error Reply} {ctx : Context} (hdoes : operation.Does r.ctx reply ctx)
    (hloud : ¬ operation.Silent) : r.Follows ⟨operation, reply⟩ ctx := by
  cases hdoes with
  | @refused operation _ hbad =>
    refine .quiet rfl rfl (fun gid => ?_) (.refl r)
    cases operation <;> first | rfl | exact absurd trivial hbad
  | announceEndpoint _ hadd =>
    exact .add none hadd (fun handle hcreated => by cases hcreated) fun _ _ => rfl
  | createEndpoint _ _ hadd =>
    refine .of_mint (.add (some _) hadd (fun handle hcreated => ?_) fun _ _ => rfl)
    obtain rfl := Option.some.inj hcreated
    exact ⟨_, _, rfl, rfl, rfl⟩
  | createKnownEndpoint => exact .quiet rfl rfl (fun _ => rfl) (r.leadsTo_aside rfl rfl)
  | withdrawEndpoint _ hrem | destroyEndpoint hrem => exact .remove hrem rfl fun _ _ => rfl
  | announceKnownEndpoint | withdrawUnknownEndpoint | destroyUnknownEndpoint =>
    exact .quiet rfl rfl (fun _ => rfl) (.refl r)
  | publish gid payload =>
    exact .of_leadsTo (Context.kept_deliverAll ..).endpoints rfl
      (fun k => Context.count_receivers hmatched gid k)
      (r.leadsTo_send gid _ ⟨payload, gid, (r.ctx.nextSequence gid).1⟩)
  | sendRequest gid payload =>
    exact .of_leadsTo (Context.kept_deliverAll ..).endpoints rfl
      (fun k => (hmatched.nodup_localPeers gid).count)
      (r.leadsTo_send gid (r.ctx.graph.localPeers gid) ⟨payload, gid, (r.ctx.nextSequence gid).1⟩)
  | @sendResponse gid _ payload _ hcore hkind => exact r.follows_sendResponse hcore hkind gid payload
  | @sendResponseToNone _ request _ hnone =>
    refine .quiet rfl rfl (fun k => if_neg ?_) (.refl r)
    rintro ⟨rfl, hclient⟩
    rw [hnone] at hclient
    cases hclient
  | @sendResponseToOther _ request _ core hcore hkind =>
    refine .quiet rfl rfl (fun k => if_neg ?_) (.refl r)
    rintro ⟨rfl, hclient⟩
    rw [hcore] at hclient
    exact hkind (of_decide_eq_true hclient)
  | setCallback gid channel callback =>
    exact .quiet (r.ctx.still_setCallback gid channel callback).endpoints rfl (fun _ => rfl)
      (r.leadsTo_setCallback gid channel callback)
  | announceNode | announceKnownNode | withdrawNode | withdrawUnknownNode | createNode
  | createKnownNode | destroyNode | destroyUnknownNode | take | takeSequence | takeRequest
  | takeResponse | takeStatus | takeNoStatus | createGuard | trigger | createWaitSet
  | createNoWaitSet | dropWaitSet => exact absurd trivial hloud

/-- What an operation does in one go is a course of steps. -/
theorem follows_perform (hmatched : r.ctx.graph.Matched) (operation : Operation) :
    r.Follows ⟨operation, (operation.perform r.ctx).1⟩ (operation.perform r.ctx).2 := by
  by_cases hsilent : operation.Silent
  · exact r.follows_of_silent hsilent
  · exact r.follows_of_does hmatched (operation.does r.ctx) hsilent

end Reporting

/-! ## Trails that are retold -/

namespace Reporting

/-- The steps retell a trail: the dispatch thread has made no calls yet and nothing is due, and the
events that are logged for an endpoint are those of the moments of its life. -/
structure Retells (r : Reporting) (ctx : Context) (moments : List Moment) : Prop where
  reachable : r.Reachable
  ctx_eq : r.ctx = ctx
  due : r.due = []
  calls : r.calls = []
  running : ctx.dispatcher.stopped = false
  age : ∀ k, r.age k = Moment.departures moments k
  /-- There are no events of endpoints that are yet to come. -/
  present : ∀ o, r.log.events o ≠ 0 → o.life < r.age o.gid ∨
    o.life = r.age o.gid ∧ (ctx.graph.locals.find? o.gid).isSome = true
  events : ∀ handle life n, Lives handle moments life n ∨ Lived handle moments life n → ∀ channel,
    channel = .data ∨ handle.kind.isTopic = true →
    r.log.events ⟨handle.gid, n, channel⟩ = (life.map (·.occurred handle channel)).sum

namespace Retells

variable {r : Reporting} {ctx ctx' : Context} {moments : List Moment} {act : Act}

/-- Another context with the same endpoints. -/
theorem aside (h : r.Retells ctx moments) (hgraph : ctx'.graph = ctx.graph)
    (hdispatcher : ctx'.dispatcher = ctx.dispatcher) : Retells { r with ctx := ctx' } ctx' moments := by
  obtain ⟨hreachable, rfl, hdue, hcalls, hrunning, hage, hpresent, hevents⟩ := h
  exact ⟨hreachable.step (.aside hgraph hdispatcher), rfl, hdue, hcalls, hdispatcher ▸ hrunning, hage,
    hgraph ▸ hpresent, hevents⟩

/-- Nothing is logged for the next endpoint with an identifier that is not in use. -/
theorem events_next (h : r.Retells ctx moments) {k : Gid}
    (hnone : ctx.graph.locals.find? k = none) (channel : Channel) :
    r.log.events ⟨k, Moment.departures moments k, channel⟩ = 0 := by
  by_contra hne
  rcases h.present _ hne with hlt | ⟨-, hlocal⟩
  · exact Nat.ne_of_lt hlt (h.age k).symm
  · rw [hnone] at hlocal
    cases hlocal

/-- An operation is retold by steps that log its events. -/
theorem perform (h : r.Retells ctx moments) (htrail : ctx.Trail moments) (operation : Operation)
    (hproper : operation.Proper ctx) :
    ∃ r' : Reporting, r'.Retells (operation.perform ctx).2
      (⟨ctx.graph, ⟨operation, (operation.perform ctx).1⟩, (operation.perform ctx).2.graph⟩ ::
        moments) := by
  have hafter := htrail.perform operation hproper
  have hnext := @h.events_next
  obtain ⟨hreachable, rfl, hdue, hcalls, hrunning, hage, hpresent, hearlier⟩ := h
  have hmatched := htrail.course.accounts.matched
  obtain ⟨⟨r', signals, hsteps, hctx, hdue', hcalls', hsignals, hage', hevents⟩, hstopped, hlocals⟩ :=
    r.follows_perform hmatched operation
  have hdepartures (k : Gid) : r'.age k = Moment.departures (⟨r.ctx.graph,
      ⟨operation, (operation.perform r.ctx).1⟩, (operation.perform r.ctx).2.graph⟩ :: moments) k := by
    rw [hage', hage, Moment.departures_cons]
  have hpast {k : Gid} {n : Nat} (hlt : n < r'.age k) (channel : Channel) :
      r'.log.events ⟨k, n, channel⟩ = r.log.events ⟨k, n, channel⟩ := by
    rw [hevents, told, if_neg fun h => Nat.ne_of_lt hlt h.1, Nat.add_zero]
  have hnow {k : Gid} {n : Nat} (hn : n = r'.age k)
      (hlocal : ((operation.perform r.ctx).2.graph.locals.find? k).isSome = true)
      (channel : Channel) :
      r'.log.events ⟨k, n, channel⟩ = r.log.events ⟨k, n, channel⟩ + signals.count (k, channel) := by
    rw [hevents, told, hctx, if_pos ⟨hn, hlocal⟩]
  refine ⟨r', hreachable.steps hsteps, hctx, hdue'.trans hdue, hcalls'.trans hcalls,
    hstopped.trans hrunning, hdepartures, fun o ho => ?_, fun handle life n hlife channel hchannel => ?_⟩
  · have hage' := hage' o.gid
    by_cases hbefore : r.log.events o = 0
    · rw [hevents, hbefore, Nat.zero_add, told] at ho
      have hthere := (ite_ne_right_iff.1 ho).1
      rw [hctx] at hthere
      exact Or.inr hthere
    · rcases hpresent o hbefore with hlt | ⟨heq, hlocal⟩
      · left
        omega
      · split at hage'
        · left
          omega
        · next hstays => exact Or.inr ⟨heq.trans hage'.symm, (hlocals o.gid hlocal).resolve_left hstays⟩
  · rcases hlife with hlife | hlife
    · obtain ⟨hn, node, ignoresLocal, hregisters⟩ := hafter.registers hlife
      obtain ⟨-, core, hcore, -⟩ := hregisters.exists_find?
      rw [hnow (hn.trans (hdepartures _).symm) (by rw [hcore]; rfl)]
      cases hlife with
      | create hcreation =>
        obtain ⟨rfl, hreply⟩ := Act.mk.inj hcreation
        have hcreated := congrArg Operation.created hreply
        have hnone : r.ctx.graph.locals.find? handle.gid = none :=
          hreachable.sound.known.find?_locals_eq_none (hsignals.find?_new hcreated)
        rw [hnext hnone, hsignals.count_new hcreated hchannel]
        exact Nat.add_comm ..
      | live hlife hkeeps =>
        obtain ⟨-, _, _, hbefore⟩ := htrail.registers hlife
        obtain ⟨⟨record, hrecord, hblank⟩, -⟩ := hbefore.exists_find?
        rw [hearlier _ _ _ (Or.inl hlife) _ hchannel,
          hsignals.count_eq hmatched hrecord hblank hregisters.isSome_find? hchannel]
        exact Nat.add_comm ..
    · have hlt := hafter.lt_departures hlife
      rw [hpast (hdepartures _ ▸ hlt)]
      cases hlife with
      | destroy hlife => exact hearlier _ _ _ (Or.inl hlife) _ hchannel
      | pass hlife => exact hearlier _ _ _ (Or.inr hlife) _ hchannel

end Retells

end Reporting

namespace Context

variable {ctx : Context} {moments : List Moment}

/-- Every trail can be retold by steps. -/
theorem Trail.exists_retelling (h : Trail ctx moments) : ∃ r : Reporting, r.Retells ctx moments := by
  induction h with
  | @create host host' options ctx hcreate =>
    have hrunning : ctx.dispatcher.stopped = false := by
      rw [dispatcher_create hcreate]
      rfl
    exact ⟨_, .start hcreate, rfl, rfl, rfl, hrunning, fun _ => rfl, fun o ho => absurd rfl ho,
      fun _ _ _ hlife => hlife.elim nofun nofun⟩
  | perform htrail operation hproper ih =>
    obtain ⟨r, hr⟩ := ih
    exact hr.perform htrail operation hproper
  | startWait _ id handles timeout now ih =>
    obtain ⟨r, hr⟩ := ih
    exact ⟨_, hr.aside (graph_startWait ..) (Alike.startWait ..).dispatcher⟩
  | resumeWait _ session now ih =>
    obtain ⟨r, hr⟩ := ih
    exact ⟨_, hr.aside (graph_resumeWait ..) (Alike.resumeWait ..).dispatcher⟩

end Context

end PubSub
