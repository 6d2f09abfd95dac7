import PubSub.Proofs.Context.Batches
import PubSub.Proofs.Context.Reordering

/-!
# The order of iteration cannot be observed

Whoever adds or removes an endpoint, or sends a message, walks a table or a match set in an order
that nobody chose.  This file compares what an operation does under two such orders.  Everything
comes out the same, but for the policy that a new endpoint is told of last, and how the jobs of
different endpoints follow each other in the dispatch queue (`Context.Shuffled.perform_reordered`).
The operations that do walk have the same notices and messages in some order, and what comes of
these depends on the order for no endpoint but a new one.
-/

namespace PubSub

/-- The dispatch thread has got these jobs since, each by an event at a channel of an endpoint. -/
structure Context.Queues (before : Context) (dispatcher : Dispatcher) (sent : List (Gid × Job)) :
    Prop where
  stopped : dispatcher.stopped = before.dispatcher.stopped
  jobs : dispatcher.jobs = before.dispatcher.jobs ++ sent.map Prod.snd
  raised : ∀ gid job, (gid, job) ∈ sent → ∃ core channel,
    before.graph.locals.find? gid = some core ∧ (core.notifier channel).raise.2 = some job

/-- What can be observed of the contexts, after the same operation on one before, is the same.  Only
the policy that was broken last may differ, for an endpoint that is new and breaks several; and
jobs may follow each other differently if they are of different endpoints. -/
structure Context.Indistinguishable (before ctx ctx' : Context) : Prop where
  options : ctx'.options = ctx.options
  instanceId : ctx'.instanceId = ctx.instanceId
  gids : ctx'.gids = ctx.gids
  version : ctx'.graph.version = ctx.graph.version
  nodes : ∀ gid, ctx'.graph.nodes.find? gid = ctx.graph.nodes.find? gid
  endpoints : ∀ gid, Option.Rel Endpoint.Reordered (ctx.graph.endpoints.find? gid)
    (ctx'.graph.endpoints.find? gid)
  locals : ∀ gid, ctx'.graph.locals.find? gid = ctx.graph.locals.find? gid ∨
    (ctx'.graph.locals.find? gid).map Core.mask = (ctx.graph.locals.find? gid).map Core.mask ∧
      before.graph.Divided ctx.graph gid
  dispatcher : ctx'.dispatcher = ctx.dispatcher ∨
    ∃ sent sent', before.Queues ctx.dispatcher sent ∧ before.Queues ctx'.dispatcher sent' ∧
      ∀ gid, sent'.filter (·.1 = gid) = sent.filter (·.1 = gid)
  board : ctx'.board = ctx.board

/-- What can become of a context, whatever order its tables are walked in at any time. -/
inductive Context.Shuffled : Context → Prop
  | create {host host' : Host} {options : Options} {ctx : Context}
      (h : Context.create host options = .ok (ctx, host')) : Shuffled ctx
  | perform {ctx : Context} (h : Shuffled ctx) (operation : Operation) :
      Shuffled (operation.perform ctx).2
  | startWait {ctx : Context} (h : Shuffled ctx) (id : WaitSetId) (handles : List (Option Source))
      (timeout : Option Nat) (now : Nat) : Shuffled (ctx.startWait id handles timeout now).1
  | resumeWait {ctx : Context} (h : Shuffled ctx) (session : Session) (now : Nat) :
      Shuffled (ctx.resumeWait session now).1
  | reorder {ctx ctx' : Context} (h : Shuffled ctx) (hsame : ctx.Reordered ctx') : Shuffled ctx'

namespace Context

/-! ## Events in another order -/

/-- What is singled out at most once. -/
theorem filter_of_countP_le_one {α : Type} {list : List α} {p : α → Bool}
    (hone : list.countP p ≤ 1) : list.filter p = [] ∨ ∃ a, list.filter p = [a] := by
  rw [List.countP_eq_length_filter] at hone
  rcases Nat.le_one_iff_eq_zero_or_eq_one.1 hone with hzero | hone
  · exact .inl (List.length_eq_zero_iff.1 hzero)
  · exact .inr (List.length_eq_one_iff.1 hone)

theorem filter_eq_of_perm {α : Type} {list list' : List α} (h : list'.Perm list) {p : α → Bool}
    (hone : list.countP p ≤ 1) : list'.filter p = list.filter p := by
  have hfilter := h.filter p
  rcases filter_of_countP_le_one hone with hnil | ⟨a, ha⟩
  · rw [hnil] at hfilter ⊢
    exact List.perm_nil.1 hfilter
  · rw [ha] at hfilter ⊢
    exact List.perm_singleton.1 hfilter

/-- How it can be that two orders of events make no difference to an endpoint: it is concerned once
at most, and its callbacks are as before; or it has no callbacks, and the events that concern it come
to the same, but for the last policy of an endpoint that is new and breaks several. -/
inductive Unmoved (before mid : Context) (beats beats' : List Beat) (gid : Gid) (core : Core) : Prop
  | once {old : Core} (hone : beats.countP (·.gid = gid) ≤ 1)
      (hold : before.graph.locals.find? gid = some old)
      (hnotifier : ∀ channel, core.notifier channel = old.notifier channel)
  | mute (hmute : core.Mute)
      (hsame : (beats'.filter (·.gid = gid)).foldl Core.struck core =
          (beats.filter (·.gid = gid)).foldl Core.struck core ∨
        ((beats'.filter (·.gid = gid)).foldl Core.struck core).mask =
            ((beats.filter (·.gid = gid)).foldl Core.struck core).mask ∧
          before.graph.Divided mid.graph gid)

section Beats

variable {before mid mid' : Context} {beats beats' : List Beat} {gid : Gid}

theorem gid_of_mem_filter : ∀ beat ∈ beats.filter (·.gid = gid), beat.gid = gid :=
  fun _ hbeat => of_decide_eq_true (List.mem_filter.1 hbeat).2

theorem sent_filter_of_none (hnone : mid.graph.locals.find? gid = none) :
    mid.sent (beats.filter (·.gid = gid)) = [] := by
  refine sent_eq_nil gid_of_mem_filter fun core hcore => ?_
  rw [hnone] at hcore
  cases hcore

theorem sent_filter_of_mute {core : Core} (hcore : mid.graph.locals.find? gid = some core)
    (hmute : core.Mute) : mid.sent (beats.filter (·.gid = gid)) = [] := by
  refine sent_eq_nil gid_of_mem_filter fun core' hcore' => ?_
  rwa [← Option.some.inj (hcore.symm.trans hcore')]

variable (hunmoved : ∀ gid core, mid.graph.locals.find? gid = some core →
  Unmoved before mid beats beats' gid core)

include hunmoved

/-- The jobs are those of callbacks that were set before. -/
theorem raised_sent {job : Job} (hjob : (gid, job) ∈ mid.sent beats) :
    ∃ core channel, before.graph.locals.find? gid = some core ∧
      (core.notifier channel).raise.2 = some job := by
  have hmine : (gid, job) ∈ mid.sent (beats.filter (·.gid = gid)) := by
    rw [← filter_sent]
    exact List.mem_filter.2 ⟨hjob, decide_eq_true rfl⟩
  cases hcore : mid.graph.locals.find? gid with
  | none =>
    rw [sent_filter_of_none hcore] at hmine
    cases hmine
  | some core =>
    cases hunmoved gid core hcore with
    | @once old hone hold hnotifier =>
      rcases filter_of_countP_le_one hone with hnil | ⟨beat, hbeat⟩
      · rw [hnil] at hmine
        cases hmine
      · obtain rfl : beat.gid = gid := gid_of_mem_filter beat (by rw [hbeat]; exact List.mem_cons_self)
        rw [hbeat, sent, sent, List.append_nil, List.mem_map] at hmine
        obtain ⟨job', hjob', heq⟩ := hmine
        obtain rfl : job' = job := congrArg Prod.snd heq
        rw [Option.mem_toList, jobOf, hcore, Option.bind_some, hnotifier] at hjob'
        exact ⟨old, beat.channel, hold, hjob'⟩
    | mute hmute _ =>
      rw [sent_filter_of_mute hcore hmute] at hmine
      cases hmine

variable (hmid : mid.Reordered mid') (hbeats : beats'.Perm beats)

include hmid hbeats

/-- The cores come out the same, but for the last policy. -/
theorem find?_strikeAll_reordered (gid : Gid) :
    (mid'.strikeAll beats').graph.locals.find? gid = (mid.strikeAll beats).graph.locals.find? gid ∨
      ((mid'.strikeAll beats').graph.locals.find? gid).map Core.mask =
          ((mid.strikeAll beats).graph.locals.find? gid).map Core.mask ∧
        before.graph.Divided mid.graph gid := by
  rw [find?_strikeAll, find?_strikeAll, hmid.graph.locals]
  cases hcore : mid.graph.locals.find? gid with
  | none => exact .inl rfl
  | some core =>
    simp only [Option.map_some]
    cases hunmoved gid core hcore with
    | once hone _ _ =>
      rw [filter_eq_of_perm hbeats hone]
      exact .inl rfl
    | mute _ hsame => exact hsame.imp (congrArg some) (.imp_left (congrArg some))

/-- Each endpoint has the same jobs queued. -/
theorem filter_sent_reordered (gid : Gid) :
    (mid'.sent beats').filter (·.1 = gid) = (mid.sent beats).filter (·.1 = gid) := by
  rw [filter_sent, filter_sent, sent_congr gid_of_mem_filter (hmid.graph.locals gid)]
  cases hcore : mid.graph.locals.find? gid with
  | none => rw [sent_filter_of_none hcore, sent_filter_of_none hcore]
  | some core =>
    cases hunmoved gid core hcore with
    | once hone _ _ => rw [filter_eq_of_perm hbeats hone]
    | mute hmute _ => rw [sent_filter_of_mute hcore hmute, sent_filter_of_mute hcore hmute]

omit hunmoved in
theorem board_strikeAll_reordered : (mid'.strikeAll beats').board = (mid.strikeAll beats).board := by
  rw [board_strikeAll, board_strikeAll, hmid.board]
  simp only [hmid.graph.locals]
  exact Switchboard.notify_perm ((hbeats.filter _).map _) mid.board

/-- Events that leave every endpoint unmoved by their order cannot be told from the same events in
another order. -/
theorem Indistinguishable.of_strikeAll (hdispatcher : mid.dispatcher = before.dispatcher) :
    before.Indistinguishable (mid.strikeAll beats) (mid'.strikeAll beats') := by
  have hframe := mid.sameFrame_strikeAll beats
  have hframe' := mid'.sameFrame_strikeAll beats'
  have hsent' := filter_sent_reordered hunmoved hmid hbeats
  have hqueues : before.Queues (mid.strikeAll beats).dispatcher (mid.sent beats) := by
    refine ⟨?_, ?_, fun gid job => raised_sent hunmoved⟩
    · rw [hframe.stopped, hdispatcher]
    · rw [jobs_strikeAll, hdispatcher]
  have hqueues' : before.Queues (mid'.strikeAll beats').dispatcher (mid'.sent beats') := by
    refine ⟨?_, ?_, fun gid job hjob => raised_sent hunmoved ?_⟩
    · rw [hframe'.stopped, hmid.dispatcher, hdispatcher]
    · rw [jobs_strikeAll, hmid.dispatcher, hdispatcher]
    · have hmine : (gid, job) ∈ (mid'.sent beats').filter (·.1 = gid) :=
        List.mem_filter.2 ⟨hjob, decide_eq_true rfl⟩
      rw [hsent'] at hmine
      exact (List.mem_filter.1 hmine).1
  refine ⟨?_, ?_, ?_, ?_, fun k => ?_, fun k => ?_, fun k => ?_, .inr ⟨_, _, hqueues, hqueues',
    hsent'⟩, board_strikeAll_reordered hmid hbeats⟩
  · rw [hframe'.options, hmid.options, hframe.options]
  · rw [hframe'.instanceId, hmid.instanceId, hframe.instanceId]
  · rw [hframe'.gids, hmid.gids, hframe.gids]
  · rw [hframe'.version, hmid.graph.version, hframe.version]
  · rw [hframe'.nodes, hmid.graph.nodes, hframe.nodes]
  · rw [hframe'.endpoints, hframe.endpoints]
    exact hmid.graph.endpoints k
  · unfold Graph.Divided
    rw [hframe.endpoints]
    exact find?_strikeAll_reordered hunmoved hmid hbeats k

end Beats

namespace Indistinguishable

variable {before ctx ctx' : Context}

theorem of_reordered (h : ctx.Reordered ctx') : before.Indistinguishable ctx ctx' where
  options := h.options
  instanceId := h.instanceId
  gids := h.gids
  version := h.graph.version
  nodes := h.graph.nodes
  endpoints := h.graph.endpoints
  locals gid := .inl (h.graph.locals gid)
  dispatcher := .inl h.dispatcher
  board := h.board

theorem trigger (h : before.Indistinguishable ctx ctx') (guard : GuardId) :
    before.Indistinguishable (ctx.trigger guard) (ctx'.trigger guard) where
  options := h.options
  instanceId := h.instanceId
  gids := h.gids
  version := h.version
  nodes := h.nodes
  endpoints := h.endpoints
  locals := h.locals
  dispatcher := h.dispatcher
  board := congrArg (·.trigger guard) h.board

end Indistinguishable

/-! ## Operations that walk -/

theorem countP_gid_beats (notices : List Notice) (k : Gid) :
    (notices.map Notice.beat).countP (·.gid = k) = notices.countP (·.endpoint = k) := by
  rw [List.countP_map]
  simp only [Function.comp_def, Notice.gid_beat]

theorem filter_gid_beats (notices : List Notice) (k : Gid) :
    (notices.map Notice.beat).filter (·.gid = k) =
      (notices.filter (·.endpoint = k)).map Notice.beat := by
  rw [List.filter_map]
  simp only [Function.comp_def, Notice.gid_beat]

section Walks

variable {before base base' : Context} {graph graph' : Graph} {notices notices' : List Notice}
  {gid : Gid}

/-- The notices of a new endpoint may be fired in any order. -/
theorem unmoved_of_addEndpoint (hmatched : before.graph.Matched) {new : Endpoint}
    {core : Option Core} (hadd : before.graph.addEndpoint gid new core = .ok (graph, notices))
    (hmute : ∀ c ∈ core, c.Mute) (hnotices : notices'.Perm notices) {k : Gid} {c : Core}
    (hc : graph.locals.find? k = some c) :
    Unmoved before { base with graph } (notices.map Notice.beat) (notices'.map Notice.beat) k c := by
  obtain ⟨hfree, -, -, -, hlocals, -⟩ := Graph.addEndpoint_eq_ok hadd
  rw [hlocals] at hc
  split at hc
  · next hnew =>
    obtain ⟨rfl, -⟩ := hnew
    refine .mute (hmute c hc) ?_
    simp only [filter_gid_beats]
    have hlost : ∀ notice ∈ notices.filter (·.endpoint = k), ∀ j, notice ≠ .lost j := by
      rintro notice hnotice j rfl
      have hzero := Graph.count_lost_addEndpoint hadd j
      exact List.count_eq_zero.1 hzero (List.mem_filter.1 hnotice).1
    rcases Core.foldl_struck_perm (hnotices.filter _).symm hlost c with
      hsame | ⟨hmask, j, p, j', q, hp, hq, hne⟩
    · exact .inl hsame
    · refine .inr ⟨hmask, ?_⟩
      exact Graph.divided_of_mem hadd (List.mem_filter.1 hp).1 (List.mem_filter.1 hq).1 hne
  · have hne : gid ≠ k := by
      rintro rfl
      obtain ⟨x, hx, -⟩ := (hmatched.isLocal_iff gid).1 (by rw [hc]; rfl)
      rw [hfree] at hx
      cases hx
    refine .once ?_ hc fun _ => rfl
    rw [countP_gid_beats]
    exact Graph.countP_endpoint_addEndpoint_le hadd hne

theorem unmoved_of_removeEndpoint (hmatched : before.graph.Matched)
    (hrem : before.graph.removeEndpoint gid = some (graph, notices)) {k : Gid} {c : Core}
    (hc : graph.locals.find? k = some c) :
    Unmoved before { base with graph } (notices.map Notice.beat) (notices'.map Notice.beat) k c := by
  obtain ⟨-, -, -, -, -, hlocals, -⟩ := Graph.removeEndpoint_eq_some hrem
  rw [hlocals] at hc
  split at hc
  · cases hc
  · refine .once ?_ hc fun _ => rfl
    rw [countP_gid_beats]
    exact Graph.countP_endpoint_removeEndpoint_le hmatched hrem k

theorem Indistinguishable.change (hbase : base.Reordered base')
    (hdispatcher : base.dispatcher = before.dispatcher) (hgraph : graph.Reordered graph')
    (hnotices : notices'.Perm notices)
    (hunmoved : ∀ k c, graph.locals.find? k = some c →
      Unmoved before { base with graph } (notices.map Notice.beat) (notices'.map Notice.beat) k c) :
    before.Indistinguishable (base.change graph notices) (base'.change graph' notices') := by
  rw [change_eq, change_eq]
  exact (of_strikeAll hunmoved (hbase.setGraph hgraph) (hnotices.map _) hdispatcher).trigger _

/-- The receivers of a message may be reached in any order. -/
theorem Indistinguishable.deliverAll (h : before.Reordered base) {receivers receivers' : List Gid}
    (hreceivers : receivers'.Perm receivers) (hnodup : receivers.Nodup) (message : Message) :
    before.Indistinguishable ((before.nextSequence gid).2.deliverAll receivers message)
      ((base.nextSequence gid).2.deliverAll receivers' message) := by
  rw [deliverAll_eq, deliverAll_eq]
  refine of_strikeAll (fun k c hc => ?_) (h.nextSequence gid).2 (hreceivers.map _) rfl
  have hone : (receivers.map message.beat).countP (·.gid = k) ≤ 1 := by
    rw [List.countP_map]
    exact Nat.le_trans (Nat.le_of_eq (Graph.countP_eq_count receivers k))
      (List.nodup_iff_count.1 hnodup k)
  -- To count the message leaves the notifiers of the sender alone.
  unfold nextSequence at hc
  rw [Graph.find?_modifyCore] at hc
  split at hc
  · obtain ⟨old, hold, rfl⟩ := Option.map_eq_some_iff.1 hc
    exact .once hone hold fun channel => by rcases channel with _ | (_ | _ | _) <;> rfl
  · exact .once hone hc fun _ => rfl

end Walks

/-- The replies are the same, and the contexts cannot be told apart. -/
def Agree {α : Type} (before : Context) (result result' : α × Context) : Prop :=
  result'.1 = result.1 ∧ before.Indistinguishable result.2 result'.2

theorem SameReply.agree {α : Type} {before : Context} {result result' : α × Context}
    (h : SameReply result result') : before.Agree result result' :=
  ⟨h.1, .of_reordered h.2⟩

namespace Reordered

variable {ctx ctx' : Context} (h : ctx.Reordered ctx') (hmatched : ctx.graph.Matched)

include h hmatched

theorem announceEndpoint (remote : RemoteEndpoint) :
    ctx.Agree (ctx.announceEndpoint remote) (ctx'.announceEndpoint remote) := by
  unfold Context.announceEndpoint
  split
  · exact ⟨rfl, .of_reordered h⟩
  · split
    · exact ⟨rfl, .of_reordered h⟩
    · rcases h.graph.addEndpoint remote.gid remote.toEndpoint none with
        ⟨error, herror, herror'⟩ | ⟨graph, graph', notices, notices', hadd, hadd', hgraph, hnotices⟩
      · rw [herror, herror']
        exact ⟨rfl, .of_reordered h⟩
      · rw [hadd, hadd']
        refine ⟨rfl, .change h rfl hgraph hnotices fun k c hc => ?_⟩
        exact unmoved_of_addEndpoint hmatched hadd (by simp) hnotices hc

theorem createEndpoint (node : Node) (kind : EndpointKind) (name typeName : String)
    (qos : Qos.Profile) (ignoresLocal : Bool) :
    ctx.Agree (ctx.createEndpoint node kind name typeName qos ignoresLocal)
      (ctx'.createEndpoint node kind name typeName qos ignoresLocal) := by
  obtain ⟨hgid, hmint⟩ := h.mint
  have hqos : ctx'.resolveFor kind name typeName qos = ctx.resolveFor kind name typeName qos :=
    h.graph.resolve_peerQos kind name typeName qos fallbackProfile
  unfold Context.createEndpoint
  split
  · exact ⟨rfl, .of_reordered h⟩
  · split
    · exact ⟨rfl, .of_reordered h⟩
    · dsimp only
      rw [hqos, hgid]
      rcases h.graph.addEndpoint ctx.mint.1
          { kind, name, typeName, nodeName := node.name, nodeNamespace := node.nodeNamespace,
            qos := ctx.resolveFor kind name typeName qos, isLocal := true }
          (some { kind, ignoresLocal,
                  capacity := (ctx.resolveFor kind name typeName qos).queueCapacity }) with
        ⟨error, herror, herror'⟩ | ⟨graph, graph', notices, notices', hadd, hadd', hgraph, hnotices⟩
      · rw [show ctx.mint.2.graph = ctx.graph from rfl, show ctx'.mint.2.graph = ctx'.graph from rfl,
          herror, herror']
        exact ⟨rfl, .of_reordered hmint⟩
      · rw [show ctx.mint.2.graph = ctx.graph from rfl, show ctx'.mint.2.graph = ctx'.graph from rfl,
          hadd, hadd']
        refine ⟨rfl, .change hmint rfl hgraph hnotices fun k c hc => ?_⟩
        refine unmoved_of_addEndpoint hmatched hadd (fun core hcore channel => ?_) hnotices hc
        obtain rfl := Option.mem_some_iff.1 hcore
        rcases channel with _ | (_ | _ | _) <;> rfl

theorem destroyEndpoint (handle : Handle) :
    ctx.Agree (ctx.destroyEndpoint handle) (ctx'.destroyEndpoint handle) := by
  unfold Context.destroyEndpoint
  rcases h.graph.removeEndpoint handle.gid with
    ⟨hnone, hnone'⟩ | ⟨graph, graph', notices, notices', hrem, hrem', hgraph, hnotices⟩
  · rw [hnone, hnone']
    exact ⟨rfl, .of_reordered h⟩
  · rw [hrem, hrem']
    exact ⟨rfl, .change h rfl hgraph hnotices fun _ _ => unmoved_of_removeEndpoint hmatched hrem⟩

theorem withdrawEndpoint (gid : Gid) :
    ctx.Agree (ctx.withdrawEndpoint gid) (ctx'.withdrawEndpoint gid) := by
  unfold Context.withdrawEndpoint Table.contains
  rw [h.graph.locals]
  split
  · exact ⟨rfl, .of_reordered h⟩
  · rcases h.graph.removeEndpoint gid with
      ⟨hnone, hnone'⟩ | ⟨graph, graph', notices, notices', hrem, hrem', hgraph, hnotices⟩
    · rw [hnone, hnone']
      exact ⟨rfl, .of_reordered h⟩
    · rw [hrem, hrem']
      exact ⟨rfl, .change h rfl hgraph hnotices fun _ _ => unmoved_of_removeEndpoint hmatched hrem⟩

theorem publish (gid : Gid) (payload : List UInt8) :
    ctx.Agree (ctx.publish gid payload) (ctx'.publish gid payload) := by
  obtain ⟨hnumber, hnext⟩ := h.nextSequence gid
  have hreceivers : ((ctx'.nextSequence gid).2.receivers gid).Perm
      ((ctx.nextSequence gid).2.receivers gid) := by
    unfold receivers
    simp only [hnext.graph.locals]
    exact (hnext.graph.localPeers gid).filter _
  have hnodup : ((ctx.nextSequence gid).2.receivers gid).Nodup :=
    nodup_receivers (hmatched.modifyCore ..) gid
  rw [publish_eq, publish_eq, hnumber]
  exact ⟨hreceivers.length_eq, .deliverAll h hreceivers hnodup _⟩

theorem sendRequest (gid : Gid) (payload : List UInt8) :
    ctx.Agree (ctx.sendRequest gid payload) (ctx'.sendRequest gid payload) := by
  obtain ⟨hnumber, hnext⟩ := h.nextSequence gid
  have hnodup : ((ctx.nextSequence gid).2.graph.localPeers gid).Nodup :=
    (hmatched.modifyCore ..).nodup_localPeers gid
  unfold Context.sendRequest
  dsimp only
  rw [hnumber]
  exact ⟨rfl, .deliverAll h (hnext.graph.localPeers gid) hnodup _⟩

end Reordered

namespace Agree

variable {α : Type} {before : Context}

theorem reply {result result' : Except Error α × Context} (h : before.Agree result result')
    (make : α → Reply) : before.Agree (Operation.reply make result) (Operation.reply make result') :=
  ⟨congrArg (Except.map make) h.1, h.2⟩

theorem succeed {result result' : α × Context} (h : before.Agree result result')
    (make : α → Reply) :
    before.Agree (Operation.succeed make result) (Operation.succeed make result') :=
  ⟨congrArg (fun value => Except.ok (make value)) h.1, h.2⟩

end Agree

/-- Whatever operation is performed, two orders cannot be told from each other afterwards. -/
theorem Reordered.perform {ctx ctx' : Context} (h : ctx.Reordered ctx')
    (hmatched : ctx.graph.Matched) (operation : Operation) :
    ctx.Agree (operation.perform ctx) (operation.perform ctx') := by
  cases operation with
  | announceNode gid info => exact (h.announceNode gid info).agree.reply _
  | withdrawNode gid => exact (h.withdrawNode gid).agree.succeed _
  | announceEndpoint remote => exact (h.announceEndpoint hmatched remote).reply _
  | withdrawEndpoint gid => exact (h.withdrawEndpoint hmatched gid).reply _
  | createNode name nodeNamespace => exact (h.createNode name nodeNamespace).agree.reply _
  | destroyNode node => exact (h.destroyNode node).agree.reply _
  | createEndpoint node kind name typeName qos ignoresLocal =>
    exact (h.createEndpoint hmatched node kind name typeName qos ignoresLocal).reply _
  | destroyEndpoint handle => exact (h.destroyEndpoint hmatched handle).reply _
  | publish gid payload => exact (h.publish hmatched gid payload).succeed _
  | take gid => exact (h.take gid).agree.succeed _
  | takeSequence gid count => exact (h.takeSequence gid count).agree.reply _
  | sendRequest gid payload => exact (h.sendRequest hmatched gid payload).succeed _
  | takeRequest gid => exact (h.takeRequest gid).agree.succeed _
  | sendResponse gid request payload => exact (h.sendResponse gid request payload).agree.reply _
  | takeResponse gid => exact (h.takeResponse gid).agree.succeed _
  | takeStatus event => exact (h.takeStatus event).agree.succeed _
  | setCallback gid channel callback => exact ⟨rfl, .of_reordered (h.setCallback ..)⟩
  | createGuard => exact h.createGuard.agree.succeed _
  | trigger guard => exact ⟨rfl, .of_reordered (h.trigger guard)⟩
  | createWaitSet maxHandles => exact (h.createWaitSet maxHandles).agree.reply _
  | dropWaitSet id => exact ⟨rfl, .of_reordered (h.dropWaitSet id)⟩

end Context

/-! ## Reachable contexts -/

/-- Match sets stay exact, whatever an act does. -/
theorem Act.Effect.matched {ctx ctx' : Context} {act : Act} (h : act.Effect ctx ctx')
    (hmatched : ctx.graph.Matched) : ctx'.graph.Matched := by
  have hkept {graph graph' : Graph} (hgraph : graph.Matched) (hkept : graph.Kept graph') :
      graph'.Matched := hgraph.congr hkept.endpoints hkept.isSome_locals
  have halike {mid : Context} (h : ctx.Alike mid) : mid.graph.Matched := by
    refine hmatched.congr h.endpoints fun k => ?_
    have houtline := congrArg Option.isSome (h.outline k)
    rwa [Graph.outline, Graph.outline, Option.isSome_map, Option.isSome_map] at houtline
  cases h with
  | none h _ => exact halike h
  | delivered h _ receivers message => exact hkept (halike h) (Context.kept_deliverAll ..)
  | taken _ => exact hmatched.modifyCore ..
  | registered gid channel callback => exact hkept hmatched (ctx.still_setCallback ..).toKept
  | created _ hadd => exact hkept (hmatched.addEndpoint hadd) (Context.still_change ..).toKept
  | announced hadd => exact hkept (hmatched.addEndpoint hadd) (Context.still_change ..).toKept
  | destroyed hrem => exact hkept (hmatched.removeEndpoint hrem) (Context.still_change ..).toKept
  | withdrawn _ hrem => exact hkept (hmatched.removeEndpoint hrem) (Context.still_change ..).toKept

namespace Context.Shuffled

theorem matched {ctx : Context} (h : ctx.Shuffled) : ctx.graph.Matched := by
  induction h with
  | create h =>
    rw [graph_create h]
    exact .empty
  | perform _ operation ih => exact (operation.effect _).matched ih
  | startWait _ id handles timeout now ih => rwa [graph_startWait]
  | resumeWait _ session now ih => rwa [graph_resumeWait]
  | reorder _ hsame ih => exact hsame.graph.matched ih

/-- Whatever order the tables of a context are walked in, an operation replies the same, and leaves
contexts that cannot be told apart: the records with their match sets, the queues and all counters of
each endpoint, the version, the guards and whoever waits are the same, and so are the jobs queued for
each endpoint.  Only the policy that was broken last may differ, for an endpoint that is new and
meets endpoints that first break different policies. -/
theorem perform_reordered {ctx ctx' : Context} (h : ctx.Shuffled) (hsame : ctx.Reordered ctx')
    (operation : Operation) :
    (operation.perform ctx').1 = (operation.perform ctx).1 ∧
      ctx.Indistinguishable (operation.perform ctx).2 (operation.perform ctx').2 :=
  hsame.perform h.matched operation

/-- A publisher meets two subscriptions, of which one asks for reliability and one for durability.
The policy that it is told of last depends on which is met last. -/
theorem exists_perform_reordered : ∃ (ctx ctx' : Context) (operation : Operation) (gid : Gid)
    (core core' : Core), Shuffled ctx ∧ ctx.Reordered ctx' ∧
    (operation.perform ctx').1 = (operation.perform ctx).1 ∧
    ctx.Indistinguishable (operation.perform ctx).2 (operation.perform ctx').2 ∧
    (operation.perform ctx).2.graph.locals.find? gid = some core ∧
    (operation.perform ctx').2.graph.locals.find? gid = some core' ∧
    core.incompatibleQos = ⟨2, 2, some .durability⟩ ∧
    core'.incompatibleQos = ⟨2, 2, some .reliability⟩ := by
  have hcreate := @Shuffled.create (.start 7) _
    { domainId := 0, enclave := "/", discoveryRange := .localhost, discoveryPeers := [],
      instanceId := none, waitSetCapacity := 4, qosProfilePath := none } _ rfl
  have hshuffled := (hcreate.perform (.announceEndpoint ⟨.mint 1 7 1, .subscription, "chatter",
    "String", "listener", "/", .standard⟩)).perform (.announceEndpoint ⟨.mint 1 7 2, .subscription,
    "chatter", "String", "recorder", "/",
    { Qos.Profile.sensorData with durability := .exactly .transientLocal }⟩)
  have hsame (ctx : Context) : ctx.Reordered
      { ctx with graph := { ctx.graph with endpoints := ctx.graph.endpoints.reverse } } :=
    (Context.Reordered.refl ctx).setGraph (.of_perm (List.reverse_perm _))
  obtain ⟨hreply, hindistinguishable⟩ := hshuffled.perform_reordered (hsame _)
    (.createEndpoint ⟨.mint 7 1 1, "talker", "/"⟩ .publisher "chatter" "String" .sensorData false)
  exact ⟨_, _, _, Gid.mint 7 1 1, _, _, hshuffled, hsame _, hreply, hindistinguishable, rfl, rfl, rfl,
    rfl⟩

end Context.Shuffled

end PubSub
