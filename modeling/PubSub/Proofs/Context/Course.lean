import Mathlib.Tactic.SplitIfs
import PubSub.Context.Wait
import PubSub.Proofs.Context.Deeds
import PubSub.Proofs.Context.Signal
import PubSub.Proofs.Graph.Matching

/-!
# What a history tells about a context

A `Context.Course` is everything that can happen to a context after its creation: operations and
waits, in any order.  The operations are recorded, and `held` and `published` read off the record
which endpoints were created and not destroyed, and how often a publisher has published.  The
invariant `Accounts` says that the graph agrees with both (`Context.Course.accounts`), and that its
match sets are exact.
-/

namespace PubSub

/-! ## Waits and the graph -/

namespace Context

@[simp] theorem graph_poll (ctx : Context) (source : Source) :
    (ctx.poll source).2.graph = ctx.graph := by
  cases source <;> rfl

@[simp] theorem graph_scan (ctx : Context) (handles : List (Option Source)) :
    (ctx.scan handles).2.graph = ctx.graph := by
  induction handles generalizing ctx with
  | nil => rfl
  | cons handle rest ih =>
    cases handle with
    | none => exact ih ctx
    | some source => exact (ih _).trans (graph_poll ctx source)

@[simp] theorem graph_collect (ctx : Context) (session : Session) :
    (ctx.collect session).graph = ctx.graph := by
  unfold collect
  split <;> rfl

@[simp] theorem graph_passWait (ctx : Context) (session : Session) (now : Nat) :
    (ctx.passWait session now).1.graph = ctx.graph := by
  unfold passWait
  dsimp only
  split_ifs <;> simp [finishWait]

@[simp] theorem graph_startWait (ctx : Context) (id : WaitSetId) (handles : List (Option Source))
    (timeout : Option Nat) (now : Nat) :
    (ctx.startWait id handles timeout now).1.graph = ctx.graph := by
  unfold startWait
  dsimp only
  split
  · rfl
  · split
    · rfl
    · split
      · rfl
      · split
        · rfl
        · simp

@[simp] theorem graph_resumeWait (ctx : Context) (session : Session) (now : Nat) :
    (ctx.resumeWait session now).1.graph = ctx.graph := by
  unfold resumeWait
  split <;> simp

/-! ## Operations that leave the endpoints alone -/

theorem kept_take (ctx : Context) (gid : Gid) : ctx.graph.Kept (ctx.take gid).2.graph := by
  unfold take
  split
  · exact .refl _
  · next core hcore =>
    refine .modifyCore _ _ fun core' hcore' => ?_
    obtain rfl : core = core' := Option.some.inj (hcore.symm.trans hcore')
    exact .dequeue core

theorem kept_takeUpTo (ctx : Context) (gid : Gid) (count : Nat) :
    ctx.graph.Kept (ctx.takeUpTo gid count).2.graph := by
  induction count generalizing ctx with
  | zero => exact .refl _
  | succ count ih =>
    have htake := ctx.kept_take gid
    unfold takeUpTo
    split
    · next ctx' h => rwa [h] at htake
    · next message ctx' h =>
      rw [h] at htake
      exact htake.trans (ih ctx')

theorem still_setCallback (ctx : Context) (gid : Gid) (channel : Channel)
    (callback : Option CallbackId) :
    ctx.graph.Still (ctx.setCallback gid channel callback).graph := by
  unfold setCallback
  split
  · exact .refl _
  · simp only [graph_dispatch]
    exact .modifyCore _ _ fun core _ => ⟨.setNotifier .., core.box_setNotifier ..⟩

theorem kept_deliverAll (ctx : Context) (receivers : List Gid) (message : Message) :
    ctx.graph.Kept (ctx.deliverAll receivers message).graph := by
  unfold deliverAll
  induction receivers generalizing ctx with
  | nil => exact .refl _
  | cons gid rest ih => exact (kept_deliver ctx gid message).trans (ih _)

end Context

/-! ## Histories -/

/-- An operation that was performed. -/
structure Act where
  operation : Operation
  reply : Except Error Reply

/-- A local endpoint as its creator knows it. -/
structure Holding where
  handle : Handle
  ignoresLocal : Bool

/-- The identifier of the endpoint. -/
def Holding.gid (holding : Holding) : Gid := holding.handle.gid

/-- The endpoints that were created and not destroyed since, latest first. -/
def held : List Act → List Holding
  | [] => []
  | ⟨.createEndpoint _ _ _ _ _ ignoresLocal, .ok (.endpoint handle)⟩ :: earlier =>
    ⟨handle, ignoresLocal⟩ :: held earlier
  | ⟨.destroyEndpoint handle, .ok _⟩ :: earlier =>
    (held earlier).filter fun holding => holding.gid ≠ handle.gid
  | _ :: earlier => held earlier

/-- How often an endpoint has published since it was created. -/
def published : List Act → Gid → Nat
  | [], _ => 0
  | ⟨.createEndpoint .., .ok (.endpoint handle)⟩ :: earlier, gid =>
    if gid = handle.gid then 0 else published earlier gid
  | ⟨.publish sender _, _⟩ :: earlier, gid =>
    if gid = sender then published earlier gid + 1 else published earlier gid
  | _ :: earlier, gid => published earlier gid

/-- Nothing is created or destroyed in vain. -/
theorem held_error (operation : Operation) (error : Error) (earlier : List Act) :
    held (⟨operation, .error error⟩ :: earlier) = held earlier := by
  cases operation <;> rfl

/-- Publishing is never refused. -/
theorem published_refused {ctx : Context} {operation : Operation} (hbad : ¬ operation.Sensible ctx)
    (error : Error) (earlier : List Act) :
    published (⟨operation, .error error⟩ :: earlier) = published earlier := by
  cases operation with
  | publish => exact absurd trivial hbad
  | _ => rfl

/-- Publishing is up to publishers and requesting up to clients.  Nothing else is asked of those who
use a context. -/
def Operation.Proper (ctx : Context) : Operation → Prop
  | publish gid _ => ∃ core, ctx.graph.locals.find? gid = some core ∧ core.kind = .publisher
  | sendRequest gid _ => ∃ core, ctx.graph.locals.find? gid = some core ∧ core.kind = .client
  | _ => True

/-- What can happen to a context after its creation, with the operations among it, latest first. -/
inductive Context.Course : Context → List Act → Prop
  | create {host host' : Host} {options : Options} {ctx : Context}
      (h : Context.create host options = .ok (ctx, host')) : Course ctx []
  | perform {ctx : Context} {history : List Act} (h : Course ctx history) (operation : Operation)
      (hproper : operation.Proper ctx) :
      Course (operation.perform ctx).2 (⟨operation, (operation.perform ctx).1⟩ :: history)
  | startWait {ctx : Context} {history : List Act} (h : Course ctx history) (id : WaitSetId)
      (handles : List (Option Source)) (timeout : Option Nat) (now : Nat) :
      Course (ctx.startWait id handles timeout now).1 history
  | resumeWait {ctx : Context} {history : List Act} (h : Course ctx history) (session : Session)
      (now : Nat) : Course (ctx.resumeWait session now).1 history

/-! ## The graph agrees with the history -/

/-- The graph has the endpoint of a holding, and the endpoint has sent so many messages if it is a
publisher. -/
structure Holding.Stands (graph : Graph) (sent : Nat) (holding : Holding) : Prop where
  record : ∃ record, graph.endpoints.find? holding.gid = some record ∧
    record.kind = holding.handle.kind ∧ record.name = holding.handle.name ∧
    record.typeName = holding.handle.typeName ∧ record.qos = holding.handle.qos ∧
    record.isLocal = true
  core : ∃ core, graph.locals.find? holding.gid = some core ∧ core.kind = holding.handle.kind ∧
    core.ignoresLocal = holding.ignoresLocal ∧ core.capacity = holding.handle.qos.queueCapacity ∧
    core.Fits ∧ (core.kind = .publisher → core.sent = sent)

/-- The local endpoints of the graph are those of the holdings, and its match sets are exact. -/
structure Accounts (graph : Graph) (holdings : List Holding) (sent : Gid → Nat) : Prop where
  matched : graph.Matched
  nodup : (holdings.map Holding.gid).Nodup
  complete : ∀ k, (graph.locals.find? k).isSome → k ∈ holdings.map Holding.gid
  stands : ∀ holding ∈ holdings, holding.Stands graph (sent holding.gid)

namespace Accounts

variable {graph graph' : Graph} {holdings : List Holding} {sent : Gid → Nat}

theorem empty : Accounts .empty [] fun _ => 0 where
  matched := .empty
  nodup := by simp
  complete k hk := by simp [Graph.empty] at hk
  stands holding hmem := by simp at hmem

/-- The endpoint with a core is held. -/
theorem exists_mem_of_core (h : Accounts graph holdings sent) {gid : Gid} {core : Core}
    (hcore : graph.locals.find? gid = some core) :
    ∃ holding ∈ holdings, holding.gid = gid ∧ holding.handle.kind = core.kind := by
  obtain ⟨holding, hmem, rfl⟩ := List.mem_map.1 (h.complete gid (by rw [hcore]; rfl))
  obtain ⟨core', hcore', hkind, -⟩ := (h.stands holding hmem).core
  obtain rfl : core = core' := Option.some.inj (hcore.symm.trans hcore')
  exact ⟨holding, hmem, rfl, hkind.symm⟩

theorem kept (h : Accounts graph holdings sent) (hk : graph.Kept graph') :
    Accounts graph' holdings sent := by
  refine ⟨h.matched.congr hk.endpoints hk.isSome_locals, h.nodup, fun k hsome => ?_,
    fun holding hmem => ?_⟩
  · rw [hk.isSome_locals] at hsome
    exact h.complete k hsome
  · obtain ⟨hrecord, core, hcore, hkind, hignores, hcap, hfits, hsent⟩ := h.stands holding hmem
    obtain ⟨core', hcore', hkept⟩ := hk.locals hcore
    refine ⟨by rw [hk.endpoints]; exact hrecord, core', hcore', hkept.kind.trans hkind,
      hkept.ignoresLocal.trans hignores, hkept.capacity.trans hcap, hkept.fits hfits, ?_⟩
    intro hpub
    rw [hkept.sent]
    exact hsent (hkept.kind ▸ hpub)

theorem not_mem_of_addEndpoint (h : Accounts graph holdings sent) {gid : Gid} {new : Endpoint}
    {core : Option Core} {notices : List Notice}
    (hadd : graph.addEndpoint gid new core = .ok (graph', notices)) :
    ∀ holding ∈ holdings, holding.gid ≠ gid := by
  rintro holding hmem rfl
  obtain ⟨record, hrecord, -⟩ := (h.stands holding hmem).record
  rw [(Graph.addEndpoint_eq_ok hadd).1] at hrecord
  cases hrecord

/-- An endpoint that was there before stands as it did. -/
theorem stands_addEndpoint (h : Accounts graph holdings sent) {gid : Gid} {new : Endpoint}
    {core : Option Core} {notices : List Notice}
    (hadd : graph.addEndpoint gid new core = .ok (graph', notices)) {holding : Holding}
    (hmem : holding ∈ holdings) : holding.Stands graph' (sent holding.gid) := by
  have hne := h.not_mem_of_addEndpoint hadd holding hmem
  obtain ⟨-, -, -, -, hlocals, -⟩ := Graph.addEndpoint_eq_ok hadd
  obtain ⟨⟨record, hrecord, hkind, hname, htype, hqos, hlocal⟩, core', hcore, hrest⟩ :=
    h.stands holding hmem
  refine ⟨⟨_, Graph.find?_addEndpoint_old hadd hrecord, ?_⟩, core', ?_, hrest⟩
  · unfold Graph.meet
    split <;> exact ⟨hkind, hname, htype, hqos, hlocal⟩
  · rw [hlocals, if_neg (by simp [hne]), hcore]

theorem addLocal (h : Accounts graph holdings sent) {handle : Handle} {node : Node}
    {ignoresLocal : Bool} {notices : List Notice}
    (hadd : graph.addEndpoint handle.gid (handle.record node)
      (some ((handle.record node).freshCore ignoresLocal)) = .ok (graph', notices)) :
    Accounts graph' (⟨handle, ignoresLocal⟩ :: holdings)
      (fun gid => if gid = handle.gid then 0 else sent gid) := by
  have hne := h.not_mem_of_addEndpoint hadd
  have hlocals := (Graph.addEndpoint_eq_ok hadd).2.2.2.2.1
  refine ⟨h.matched.addEndpoint hadd, ?_, fun k hsome => ?_, fun holding hmem => ?_⟩
  · rw [List.map_cons, List.nodup_cons]
    refine ⟨fun hmem => ?_, h.nodup⟩
    obtain ⟨holding, hholding, heq⟩ := List.mem_map.1 hmem
    exact hne holding hholding heq
  · rw [hlocals] at hsome
    by_cases hk : k = handle.gid
    · rw [hk]
      exact List.mem_cons_self
    · rw [if_neg (by simp [hk])] at hsome
      exact List.mem_cons_of_mem _ (h.complete k hsome)
  · rcases List.mem_cons.1 hmem with rfl | hmem
    · have hnew := hlocals handle.gid
      rw [if_pos ⟨rfl, rfl⟩] at hnew
      exact ⟨⟨_, Graph.find?_addEndpoint_new hadd, rfl, rfl, rfl, rfl, rfl⟩, _, hnew, rfl, rfl, rfl,
        fun n hn => ⟨Qos.Profile.queueCapacity_pos hn, Nat.zero_le n⟩, fun _ => (if_pos rfl).symm⟩
    · rw [if_neg (hne holding hmem)]
      exact h.stands_addEndpoint hadd hmem

theorem addRemote (h : Accounts graph holdings sent) {gid : Gid} {new : Endpoint}
    {notices : List Notice} (hadd : graph.addEndpoint gid new none = .ok (graph', notices)) :
    Accounts graph' holdings sent := by
  obtain ⟨-, -, -, -, hlocals, -⟩ := Graph.addEndpoint_eq_ok hadd
  refine ⟨h.matched.addEndpoint hadd, h.nodup, fun k hsome => ?_,
    fun holding hmem => h.stands_addEndpoint hadd hmem⟩
  rw [hlocals, if_neg (by simp)] at hsome
  exact h.complete k hsome

theorem removeEndpoint (h : Accounts graph holdings sent) {gid : Gid} {notices : List Notice}
    (hrem : graph.removeEndpoint gid = some (graph', notices)) :
    Accounts graph' (holdings.filter fun holding => holding.gid ≠ gid) sent := by
  obtain ⟨gone, hgone, -, -, -, hlocals, -⟩ := Graph.removeEndpoint_eq_some hrem
  refine ⟨h.matched.removeEndpoint hrem, (List.filter_sublist.map Holding.gid).nodup h.nodup,
    fun k hsome => ?_, fun holding hmem => ?_⟩
  · rw [hlocals] at hsome
    split at hsome
    · cases hsome
    · next hk =>
      obtain ⟨holding, hmem, rfl⟩ := List.mem_map.1 (h.complete k hsome)
      exact List.mem_map_of_mem (List.mem_filter.2 ⟨hmem, by simpa using hk⟩)
  · obtain ⟨hmem, hne⟩ := List.mem_filter.1 hmem
    have hne : holding.gid ≠ gid := by simpa using hne
    obtain ⟨⟨record, hrecord, hkind, hname, htype, hqos, hlocal⟩, core, hcore, hrest⟩ :=
      h.stands holding hmem
    refine ⟨⟨_, Graph.find?_removeEndpoint_old hrem hgone hne hrecord, ?_⟩, core, ?_, hrest⟩
    · unfold Graph.part
      split <;> exact ⟨hkind, hname, htype, hqos, hlocal⟩
    · rw [hlocals, if_neg hne, hcore]

/-- A remote endpoint is no holding. -/
theorem removeRemote (h : Accounts graph holdings sent) {gid : Gid} {notices : List Notice}
    (hremote : graph.locals.find? gid = none)
    (hrem : graph.removeEndpoint gid = some (graph', notices)) :
    Accounts graph' holdings sent := by
  have hall : (holdings.filter fun holding => holding.gid ≠ gid) = holdings := by
    refine List.filter_eq_self.2 fun holding hmem => ?_
    rw [decide_eq_true_eq]
    rintro rfl
    obtain ⟨core, hcore, -⟩ := (h.stands holding hmem).core
    rw [hremote] at hcore
    cases hcore
  have := h.removeEndpoint hrem
  rwa [hall] at this

/-- A message sent raises the count of its sender, which is kept for publishers only. -/
theorem nextSequence {ctx : Context} (h : Accounts ctx.graph holdings sent) {gid : Gid}
    {sent' : Gid → Nat} (hother : ∀ k, k ≠ gid → sent' k = sent k)
    (hsender : ∀ core, ctx.graph.locals.find? gid = some core → core.kind = .publisher →
      sent' gid = sent gid + 1) :
    Accounts (ctx.nextSequence gid).2.graph holdings sent' := by
  unfold Context.nextSequence
  refine ⟨h.matched.modifyCore .., h.nodup, fun k hsome => ?_, fun holding hmem => ?_⟩
  · rw [Graph.find?_modifyCore] at hsome
    refine h.complete k ?_
    split at hsome
    · simpa using hsome
    · exact hsome
  · obtain ⟨hrecord, core, hcore, hkind, hignores, hcap, hfits, hsent⟩ := h.stands holding hmem
    refine ⟨hrecord, ?_⟩
    rw [Graph.find?_modifyCore, hcore]
    by_cases hk : holding.gid = gid
    · rw [if_pos hk]
      refine ⟨_, rfl, hkind, hignores, hcap, hfits, fun hpub => ?_⟩
      rw [← hk, hcore]
      rw [hk] at hcore
      show core.sent + 1 = _
      rw [hsent hpub, hk, hsender core hcore hpub]
    · rw [if_neg hk, hother _ hk]
      exact ⟨core, rfl, hkind, hignores, hcap, hfits, hsent⟩

/-- The sender of a message has sent one more. -/
theorem counted {ctx : Context} (h : Accounts ctx.graph holdings sent) (gid : Gid) :
    Accounts (ctx.nextSequence gid).2.graph holdings
      fun k => if k = gid then sent k + 1 else sent k :=
  h.nextSequence (fun _ hk => if_neg hk) fun _ _ _ => if_pos rfl

/-- Notices are delivered after a change. -/
theorem change {ctx : Context} (h : Accounts graph holdings sent) (notices : List Notice) :
    Accounts (ctx.change graph notices).graph holdings sent :=
  h.kept (ctx.still_change graph notices).toKept

/-- Whatever an operation does, the graph agrees with the history again. -/
theorem does {ctx ctx' : Context} {history : List Act} {operation : Operation}
    {reply : Except Error Reply} (h : Accounts ctx.graph (held history) (published history))
    (hproper : operation.Proper ctx) (hdoes : operation.Does ctx reply ctx') :
    Accounts ctx'.graph (held (⟨operation, reply⟩ :: history))
      (published (⟨operation, reply⟩ :: history)) := by
  cases hdoes with
  | refused hbad =>
    rw [held_error, published_refused hbad]
    exact h
  | announceKnownNode | withdrawUnknownNode | announceKnownEndpoint | withdrawUnknownEndpoint
  | createKnownNode | createKnownEndpoint | destroyUnknownNode | destroyUnknownEndpoint
  | sendResponseToNone | sendResponseToOther | takeNoStatus | createGuard | trigger
  | createWaitSet | createNoWaitSet | dropWaitSet => exact h
  | announceNode _ hadd | createNode _ hadd => exact (h.kept (Graph.Still.addNode hadd).toKept).change []
  | withdrawNode hrem | destroyNode hrem => exact (h.kept (Graph.Still.removeNode hrem).toKept).change []
  | announceEndpoint _ hadd => exact (h.addRemote hadd).change _
  | withdrawEndpoint hremote hrem => exact (h.removeRemote hremote hrem).change _
  | createEndpoint _ _ hadd => exact (h.addLocal hadd).change _
  | destroyEndpoint hrem => exact (h.removeEndpoint hrem).change _
  | publish gid => exact (h.counted gid).kept (Context.kept_deliverAll ..)
  | sendRequest gid =>
    -- Only publishers are counted, and the sender is a client.
    have hsent : Accounts (ctx.nextSequence gid).2.graph (held history) (published history) := by
      refine h.nextSequence (fun k _ => rfl) fun core hcore hpub => ?_
      obtain ⟨core', hcore', hclient⟩ := hproper
      obtain rfl : core' = core := Option.some.inj (hcore'.symm.trans hcore)
      rw [hclient] at hpub
      cases hpub
    exact hsent.kept (Context.kept_deliverAll ..)
  | take gid | takeRequest gid | takeResponse gid => exact h.kept (ctx.kept_take gid)
  | takeSequence gid count => exact h.kept (ctx.kept_takeUpTo gid count)
  | sendResponse => exact h.kept (ctx.kept_deliver ..)
  | takeStatus => exact h.kept (Graph.Still.takeStatus ..).toKept
  | setCallback gid channel callback => exact h.kept (ctx.still_setCallback gid channel callback).toKept

/-- Every operation keeps the graph in agreement with the history. -/
theorem perform {ctx : Context} {history : List Act}
    (h : Accounts ctx.graph (held history) (published history)) {operation : Operation}
    (hproper : operation.Proper ctx) :
    Accounts (operation.perform ctx).2.graph
      (held (⟨operation, (operation.perform ctx).1⟩ :: history))
      (published (⟨operation, (operation.perform ctx).1⟩ :: history)) :=
  h.does hproper (operation.does ctx)

end Accounts

theorem Context.graph_create {host host' : Host} {options : Options} {ctx : Context}
    (h : Context.create host options = .ok (ctx, host')) : ctx.graph = .empty := by
  unfold Context.create at h
  cases hvalid : options.validate with
  | error error =>
    rw [hvalid] at h
    cases h
  | ok =>
    rw [hvalid] at h
    cases h
    rfl

/-- Whatever happened to a context, its graph agrees with the history. -/
theorem Context.Course.accounts {ctx : Context} {history : List Act} (h : ctx.Course history) :
    Accounts ctx.graph (held history) (published history) := by
  induction h with
  | create hcreate =>
    rw [Context.graph_create hcreate]
    exact .empty
  | perform _ operation hproper ih => exact ih.perform hproper
  | startWait _ id handles timeout now ih => rwa [Context.graph_startWait]
  | resumeWait _ session now ih => rwa [Context.graph_resumeWait]

end PubSub
