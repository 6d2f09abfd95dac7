import PubSub.Proofs.Context.Effects
import PubSub.Proofs.Context.Nodes

/-!
# Which endpoints are registered

A local endpoint has a record in the graph and a core among the locals, and discovery may name its
identifier as any other.  What is recorded of it when it is created stays as it is until its owner
retires it (`Act.Effect.registration`): discovery is refused both a second record and the withdrawal
of the first.  When the owner retires it, the graph is as if the endpoint had been left out from the
start (`Graph.LeftOut`), and nothing is left that a second removal could do.
-/

namespace PubSub

/-! ## What is recorded while an endpoint lives -/

/-- The record of an endpoint, its match set aside. -/
def Endpoint.blank (record : Endpoint) : Endpoint := { record with peers := [] }

/-- The core as it was when its endpoint was created. -/
def Core.blank (core : Core) : Core :=
  { kind := core.kind, ignoresLocal := core.ignoresLocal, capacity := core.capacity }

theorem Core.Kept.blank {core core' : Core} (h : core.Kept core') : core'.blank = core.blank := by
  unfold Core.blank
  rw [h.kind, h.ignoresLocal, h.capacity]

namespace Graph

/-- What the graph holds of an endpoint, apart from what changes while the endpoint lives. -/
def registration (graph : Graph) (gid : Gid) : Option Endpoint × Option Core :=
  ((graph.endpoints.find? gid).map Endpoint.blank, (graph.locals.find? gid).map Core.blank)

@[simp] theorem blank_meet (gid : Gid) (new x : Endpoint) : (meet gid new x).blank = x.blank := by
  unfold meet
  split <;> rfl

@[simp] theorem blank_part (gid : Gid) (gone : Endpoint) (k : Gid) (x : Endpoint) :
    (part gid gone k x).blank = x.blank := by
  unfold part
  split <;> rfl

section Registration

variable {graph graph' : Graph} {gid k : Gid} {notices : List Notice}

theorem registration_kept (h : graph.Kept graph') (k : Gid) :
    graph'.registration k = graph.registration k := by
  have hcore : (graph'.locals.find? k).map Core.blank = (graph.locals.find? k).map Core.blank := by
    cases hcore : graph.locals.find? k with
    | none =>
      have hnone := h.isSome_locals k
      rw [hcore, Option.isSome_none, Option.isSome_eq_false_iff, Option.isNone_iff_eq_none] at hnone
      rw [hnone]
    | some core =>
      obtain ⟨core', hcore', hkept⟩ := h.locals hcore
      rw [hcore', Option.map_some, Option.map_some, hkept.blank]
  rw [registration, registration, h.endpoints, hcore]

theorem registration_alike {ctx ctx' : Context} (h : ctx.Alike ctx') (k : Gid) :
    ctx'.graph.registration k = ctx.graph.registration k := by
  have houtline (graph : Graph) :
      (graph.locals.find? k).map Core.blank = (graph.outline k).map Core.blank := by
    rw [outline, Option.map_map]
    rfl
  rw [registration, registration, h.endpoints, houtline, houtline, h.outline]

theorem registration_addEndpoint_of_ne {new : Endpoint} {core : Option Core}
    (hadd : graph.addEndpoint gid new core = .ok (graph', notices)) (hne : k ≠ gid) :
    graph'.registration k = graph.registration k := by
  obtain ⟨-, -, -, hfind, hlocals, -⟩ := addEndpoint_eq_ok hadd
  rw [registration, hfind, if_neg hne, hlocals, if_neg fun h => hne h.1, Option.map_map]
  simp only [Function.comp_def, blank_meet]
  rfl

theorem registration_addEndpoint_new {new : Endpoint} {core : Core}
    (hadd : graph.addEndpoint gid new (some core) = .ok (graph', notices)) :
    graph'.registration gid = (some { new.blank with isLocal := true }, some core.blank) := by
  obtain ⟨-, -, -, hfind, hlocals, -⟩ := addEndpoint_eq_ok hadd
  rw [registration, hfind, if_pos rfl, hlocals, if_pos ⟨rfl, rfl⟩]
  rfl

theorem registration_removeEndpoint_of_ne
    (hrem : graph.removeEndpoint gid = some (graph', notices)) (hne : k ≠ gid) :
    graph'.registration k = graph.registration k := by
  obtain ⟨gone, -, -, -, hfind, hlocals, -⟩ := removeEndpoint_eq_some hrem
  rw [registration, hfind, if_neg hne, hlocals, if_neg hne, Option.map_map]
  simp only [Function.comp_def, blank_part]
  rfl

end Registration

end Graph

/-- No act but its own destruction changes what is recorded of a local endpoint. -/
theorem Act.Effect.registration {ctx ctx' : Context} {act : Act} (h : act.Effect ctx ctx') {k : Gid}
    {record : Endpoint} {core : Core} (hrecord : ctx.graph.endpoints.find? k = some record)
    (hcore : ctx.graph.locals.find? k = some core)
    (hlive : ∀ other, act.operation = .destroyEndpoint other → other.gid ≠ k) :
    ctx'.graph.registration k = ctx.graph.registration k := by
  cases h with
  | none halike _ => exact Graph.registration_alike halike k
  | delivered halike _ receivers message =>
    rw [Graph.registration_kept (Context.kept_deliverAll _ receivers message),
      Graph.registration_alike halike]
  | taken => exact Graph.registration_kept (Graph.Still.takeStatus ..).toKept k
  | registered gid channel callback =>
    exact Graph.registration_kept (ctx.still_setCallback gid channel callback).toKept k
  | @created _ _ _ _ _ _ handle graph notices _ hadd =>
    have hne : k ≠ handle.gid := by
      rintro rfl
      rw [(Graph.addEndpoint_eq_ok hadd).1] at hrecord
      cases hrecord
    rw [Graph.registration_kept (Context.still_change ..).toKept,
      Graph.registration_addEndpoint_of_ne hadd hne]
  | @announced remote graph notices hadd =>
    have hne : k ≠ remote.gid := by
      rintro rfl
      rw [(Graph.addEndpoint_eq_ok hadd).1] at hrecord
      cases hrecord
    rw [Graph.registration_kept (Context.still_change ..).toKept,
      Graph.registration_addEndpoint_of_ne hadd hne]
  | @destroyed handle graph notices hrem =>
    rw [Graph.registration_kept (Context.still_change ..).toKept,
      Graph.registration_removeEndpoint_of_ne hrem (hlive handle rfl).symm]
  | @withdrawn gid graph notices hremote hrem =>
    have hne : k ≠ gid := by
      rintro rfl
      rw [hcore] at hremote
      cases hremote
    rw [Graph.registration_kept (Context.still_change ..).toKept,
      Graph.registration_removeEndpoint_of_ne hrem hne]

/-- The graph holds the record and the core of a local endpoint as they were made for it. -/
def Graph.Registers (graph : Graph) (node : Node) (handle : Handle) (ignoresLocal : Bool) : Prop :=
  graph.registration handle.gid =
    (some (handle.record node), some ((handle.record node).freshCore ignoresLocal))

/-- The record and the core are there. -/
theorem Graph.Registers.exists_find? {graph : Graph} {node : Node} {handle : Handle}
    {ignoresLocal : Bool} (h : graph.Registers node handle ignoresLocal) :
    (∃ record, graph.endpoints.find? handle.gid = some record ∧
      record.blank = handle.record node) ∧
    ∃ core, graph.locals.find? handle.gid = some core ∧
      core.blank = (handle.record node).freshCore ignoresLocal :=
  ⟨Option.map_eq_some_iff.1 (congrArg Prod.fst h), Option.map_eq_some_iff.1 (congrArg Prod.snd h)⟩

namespace Context

theorem registers_createEndpoint (ctx : Context) {node : Node} {kind : EndpointKind}
    {name typeName : String} {qos : Qos.Profile} {ignoresLocal : Bool} {handle : Handle}
    (hreply : (ctx.createEndpoint node kind name typeName qos ignoresLocal).1.map Reply.endpoint =
      .ok (.endpoint handle)) :
    handle = ctx.nextHandle kind name typeName qos ∧
      (ctx.createEndpoint node kind name typeName qos ignoresLocal).2.graph.Registers node handle
        ignoresLocal := by
  rcases ctx.createEndpoint_cases node kind name typeName qos ignoresLocal with
    ⟨error, herror, -⟩ | ⟨graph, notices, hadd, heq⟩
  · rw [herror] at hreply
    cases hreply
  · rw [heq] at hreply ⊢
    cases hreply
    refine ⟨rfl, ?_⟩
    unfold Graph.Registers
    rw [Graph.registration_kept (still_change ..).toKept, Graph.registration_addEndpoint_new hadd]
    rfl

/-- An endpoint is registered from its creation on, until it is destroyed. -/
theorem Course.registers {ctx : Context} {history since earlier : List Act} {node : Node}
    {kind : EndpointKind} {name typeName : String} {qos : Qos.Profile} {ignoresLocal : Bool}
    {handle : Handle} (h : Course ctx history)
    (hhistory : history = since ++ ⟨.createEndpoint node kind name typeName qos ignoresLocal,
      .ok (.endpoint handle)⟩ :: earlier)
    (hlive : ∀ act ∈ since, ∀ other, act.operation = .destroyEndpoint other →
      other.gid ≠ handle.gid) :
    (∃ before, Course before earlier ∧ handle = before.nextHandle kind name typeName qos) ∧
      ctx.graph.Registers node handle ignoresLocal := by
  induction h generalizing since with
  | create =>
    cases since <;> cases hhistory
  | @perform ctx history hcourse operation _ ih =>
    have heffect := operation.effect ctx
    cases since with
    | nil =>
      obtain ⟨hact, rfl⟩ := List.cons.inj hhistory
      obtain ⟨rfl, hreply⟩ := Act.mk.inj hact
      obtain ⟨hhandle, hregisters⟩ := ctx.registers_createEndpoint hreply
      exact ⟨⟨ctx, hcourse, hhandle⟩, hregisters⟩
    | cons act since =>
      obtain ⟨rfl, htail⟩ := List.cons.inj hhistory
      obtain ⟨hbefore, hregisters⟩ :=
        ih htail fun act hmem => hlive act (List.mem_cons_of_mem _ hmem)
      obtain ⟨⟨record, hrecord, -⟩, core, hcore, -⟩ := hregisters.exists_find?
      refine ⟨hbefore, ?_⟩
      unfold Graph.Registers
      rw [heffect.registration hrecord hcore (hlive _ List.mem_cons_self)]
      exact hregisters
  | startWait _ id handles timeout now ih =>
    rw [graph_startWait]
    exact ih hhistory hlive
  | resumeWait _ session now ih =>
    rw [graph_resumeWait]
    exact ih hhistory hlive

end Context

/-! ## What is left when an endpoint is gone -/

/-- The record without a match. -/
def Endpoint.forget (gid : Gid) (record : Endpoint) : Endpoint :=
  { record with peers := record.peers.erase gid }

/-- The answer without a match. -/
def EndpointInfo.forget (gid : Gid) (info : EndpointInfo) : EndpointInfo :=
  ⟨info.gid, info.endpoint.forget gid⟩

theorem namesAndTypes_map_forget (gid : Gid) (endpoints : List Endpoint) :
    namesAndTypes (endpoints.map (·.forget gid)) = namesAndTypes endpoints := by
  unfold namesAndTypes
  simp only [List.filter_map, List.map_map]
  rfl

namespace Graph

/-- The graph with an endpoint left out, as if it had never been recorded. -/
def leaveOut (graph : Graph) (gid : Gid) : Graph :=
  { graph with endpoints := graph.endpoints.erase gid, locals := graph.locals.erase gid }

/-- An endpoint is in no record, no match set and no answer of the graph afterwards, and nothing
else is different. -/
structure LeftOut (before after : Graph) (gid : Gid) : Prop where
  record : after.endpoints.find? gid = none
  core : after.locals.find? gid = none
  matchSet : ∀ k, gid ∉ after.matchSet k
  localPeers : ∀ k, gid ∉ after.localPeers k
  matchedCount : after.matchedCount gid = .error (.invalidArgument (.unknownEndpoint gid))
  endpointInfos : ∀ kind name, after.endpointInfos kind name =
    ((before.leaveOut gid).endpointInfos kind name).map (·.forget gid)
  not_mem_endpointInfos : ∀ kind name, gid ∉ (after.endpointInfos kind name).map (·.gid)
  topicNamesAndTypes : after.topicNamesAndTypes = (before.leaveOut gid).topicNamesAndTypes
  serviceNamesAndTypes : after.serviceNamesAndTypes = (before.leaveOut gid).serviceNamesAndTypes
  namesAndTypesByNode : ∀ kind nodeName nodeNamespace,
    after.namesAndTypesByNode kind nodeName nodeNamespace =
      (before.leaveOut gid).namesAndTypesByNode kind nodeName nodeNamespace
  count : ∀ kind name, after.count kind name = (before.leaveOut gid).count kind name
  nodes : after.nodes = before.nodes
  /-- Every other record loses a match at most. -/
  others : ∀ k, k ≠ gid →
    after.endpoints.find? k = (before.endpoints.find? k).map (·.forget gid)
  /-- Every other endpoint stays registered. -/
  registration : ∀ k, k ≠ gid → after.registration k = before.registration k

section LeftOut

variable {before after : Graph} {gid : Gid}

theorem endpointInfos_leaveOut
    (hendpoints : after.endpoints = (before.leaveOut gid).endpoints.map fun _ => (·.forget gid))
    (kind : EndpointKind) (name : String) :
    after.endpointInfos kind name =
      ((before.leaveOut gid).endpointInfos kind name).map (·.forget gid) := by
  -- The order of the answers is that of their identifiers, before and after.
  have hsort (infos : List EndpointInfo) :
      (infos.mergeSort fun a b => decide (a.gid ≤ b.gid)).map (·.forget gid) =
        (infos.map (·.forget gid)).mergeSort fun a b => decide (a.gid ≤ b.gid) :=
    List.map_mergeSort fun _ _ _ _ => rfl
  unfold endpointInfos
  rw [hsort, hendpoints]
  unfold Table.map
  simp only [List.filter_map, List.map_map]
  rfl

theorem values_leaveOut
    (hendpoints : after.endpoints = (before.leaveOut gid).endpoints.map fun _ => (·.forget gid)) :
    after.endpoints.values = (before.leaveOut gid).endpoints.values.map (·.forget gid) := by
  rw [hendpoints]
  unfold Table.values Table.map
  rw [List.map_map, List.map_map]
  rfl

/-- With exact match sets it is enough to look at the records. -/
theorem LeftOut.of_endpoints (hmatched : after.Matched)
    (hendpoints : after.endpoints = (before.leaveOut gid).endpoints.map fun _ => (·.forget gid))
    (hnodes : after.nodes = before.nodes)
    (hregistration : ∀ k, k ≠ gid → after.registration k = before.registration k) :
    LeftOut before after gid := by
  have hfind (k : Gid) : after.endpoints.find? k =
      if k = gid then none else (before.endpoints.find? k).map (·.forget gid) := by
    rw [hendpoints, Table.find?_map, leaveOut, Table.find?_erase]
    split <;> rfl
  have hrecord : after.endpoints.find? gid = none := by rw [hfind, if_pos rfl]
  have hvalues := values_leaveOut hendpoints
  refine
    { record := hrecord
      core := ?_
      matchSet := fun k hmem => ?_
      localPeers := fun k hmem => ?_
      matchedCount := ?_
      endpointInfos := endpointInfos_leaveOut hendpoints
      not_mem_endpointInfos := fun kind name hmem => ?_
      topicNamesAndTypes := ?_
      serviceNamesAndTypes := ?_
      namesAndTypesByNode := fun kind nodeName nodeNamespace => ?_
      count := fun kind name => ?_
      nodes := hnodes
      others := fun k hne => by rw [hfind, if_neg hne]
      registration := hregistration }
  · have hnone := hmatched.isLocal_iff gid
    rw [hrecord] at hnone
    simpa using hnone
  · obtain ⟨x, hx, hpeer⟩ := mem_matchSet.1 hmem
    exact hmatched.not_mem_peers hrecord hx hpeer
  · unfold Graph.localPeers at hmem
    split at hmem
    · cases hmem
    · next x hx => exact hmatched.not_mem_peers hrecord hx (List.mem_filter.1 hmem).1
  · rw [Graph.matchedCount, hrecord]
  · obtain ⟨info, hinfo, rfl⟩ := List.mem_map.1 hmem
    obtain ⟨entry, hentry, rfl⟩ := List.mem_map.1 (List.mem_mergeSort.1 hinfo)
    have hknown := Table.find?_eq_some_iff.2 (List.mem_filter.1 hentry).1
    rw [hrecord] at hknown
    cases hknown
  · rw [Graph.topicNamesAndTypes, hvalues, List.filter_map, namesAndTypes_map_forget]
    rfl
  · rw [Graph.serviceNamesAndTypes, hvalues, List.filter_map, namesAndTypes_map_forget]
    rfl
  · rw [Graph.namesAndTypesByNode, hvalues, List.filter_map, namesAndTypes_map_forget, hnodes]
    rfl
  · rw [Graph.count, hvalues, List.countP_map]
    rfl

/-- Match sets are exact, so that a record outside the match set of what is gone loses nothing. -/
theorem Matched.endpoints_removeEndpoint {graph graph' : Graph} {notices : List Notice}
    (h : graph.Matched) (hrem : graph.removeEndpoint gid = some (graph', notices)) :
    graph'.endpoints = (graph.leaveOut gid).endpoints.map fun _ => (·.forget gid) := by
  unfold Graph.removeEndpoint at hrem
  split at hrem
  · cases hrem
  · next gone hgone =>
    simp only [Option.some.injEq, Prod.mk.injEq] at hrem
    obtain ⟨rfl, -⟩ := hrem
    unfold leaveOut Table.map
    simp only [Table.mk.injEq]
    refine List.map_congr_left fun e he => ?_
    have hfind := Table.find?_eq_some_iff.2 (List.mem_filter.1 he).1
    split
    · rfl
    · next hnot =>
      have hforeign : gid ∉ e.2.peers := by
        intro hmem
        obtain ⟨y, hy, hrel⟩ := (h.mem_peers_iff hfind gid).1 hmem
        obtain rfl : y = gone := Option.some.inj (hy.symm.trans hgone)
        exact hnot ((h.mem_peers_iff hgone e.1).2
          ⟨e.2, hfind, Endpoint.relate_eq_matched_comm.1 hrel⟩)
      rw [Endpoint.forget, List.erase_of_not_mem hforeign]

end LeftOut

end Graph

/-! ## Local endpoints -/

namespace Context

variable {ctx : Context} {gid : Gid}

theorem withdrawEndpoint_of_local {core : Core} (hcore : ctx.graph.locals.find? gid = some core) :
    ctx.withdrawEndpoint gid = (.error (.invalidArgument (.withdrawnLocal gid)), ctx) := by
  unfold withdrawEndpoint
  rw [if_pos (by rw [Table.contains, hcore]; rfl)]

/-- An identifier that is in use is refused, for one reason or another. -/
theorem announceEndpoint_of_known {remote : RemoteEndpoint} {record : Endpoint}
    (hrecord : ctx.graph.endpoints.find? remote.gid = some record) :
    ∃ reason, ctx.announceEndpoint remote = (.error (.invalidArgument reason), ctx) := by
  unfold announceEndpoint
  split
  · exact ⟨_, rfl⟩
  · split
    · exact ⟨_, rfl⟩
    · have hused : ctx.graph.addEndpoint remote.gid remote.toEndpoint none =
          .error (.invalidArgument (.duplicateEndpoint remote.gid)) := by
        unfold Graph.addEndpoint
        rw [if_pos (by rw [Table.contains, hrecord]; rfl)]
      rw [hused]
      exact ⟨_, rfl⟩

/-- A known endpoint can be destroyed, and is left out afterwards. -/
theorem destroyEndpoint_leftOut (h : ctx.graph.Matched) {handle : Handle} {record : Endpoint}
    (hrecord : ctx.graph.endpoints.find? handle.gid = some record) :
    ∃ ctx', ctx.destroyEndpoint handle = (.ok (), ctx') ∧
      ctx.graph.LeftOut ctx'.graph handle.gid := by
  unfold destroyEndpoint
  split
  · next graph notices hrem =>
    have hkept := (ctx.still_change graph notices).toKept
    refine ⟨_, rfl, .of_endpoints ?_ ?_ ?_ fun k hne => ?_⟩
    · exact (h.removeEndpoint hrem).congr hkept.endpoints hkept.isSome_locals
    · rw [hkept.endpoints, h.endpoints_removeEndpoint hrem]
    · obtain ⟨-, -, hnodes, -⟩ := Graph.removeEndpoint_eq_some hrem
      rw [(SameNodes.change ctx graph notices).nodes, hnodes]
    · rw [Graph.registration_kept hkept, Graph.registration_removeEndpoint_of_ne hrem hne]
  · next hnone =>
    unfold Graph.removeEndpoint at hnone
    rw [hrecord] at hnone
    cases hnone

/-- An endpoint that was created and not destroyed since is in the hands of its owner alone.  The
graph holds its record, as it was asked for and with the policies settled when it was created, and
its core; the locals are exactly the records that have a core.  Discovery can neither withdraw it nor
announce another endpoint under its identifier.  Its owner can retire it, which leaves it out of the
graph; to drop it afterwards does nothing, whatever the context has become by then. -/
theorem Course.endpoint_registered {since earlier : List Act} {node : Node} {kind : EndpointKind}
    {name typeName : String} {qos : Qos.Profile} {ignoresLocal : Bool} {handle : Handle}
    (h : Course ctx (since ++ ⟨.createEndpoint node kind name typeName qos ignoresLocal,
      .ok (.endpoint handle)⟩ :: earlier))
    (hlive : ∀ act ∈ since, ∀ other, act.operation = .destroyEndpoint other →
      other.gid ≠ handle.gid) :
    (handle.kind = kind ∧ handle.name = name ∧ handle.typeName = typeName ∧
      ∃ before, Course before earlier ∧
        handle.qos = before.resolveFor kind name typeName qos) ∧
    (∃ record, ctx.graph.endpoints.find? handle.gid = some record ∧
      record.blank = handle.record node) ∧
    (∃ core, ctx.graph.locals.find? handle.gid = some core ∧
      core.blank = (handle.record node).freshCore ignoresLocal) ∧
    (∀ k, (ctx.graph.locals.find? k).isSome = true ↔
      ∃ record, ctx.graph.endpoints.find? k = some record ∧ record.isLocal = true) ∧
    ctx.withdrawEndpoint handle.gid =
      (.error (.invalidArgument (.withdrawnLocal handle.gid)), ctx) ∧
    (∀ remote, remote.gid = handle.gid →
      ∃ reason, ctx.announceEndpoint remote = (.error (.invalidArgument reason), ctx)) ∧
    ctx.graph.matchedCount handle.gid = .ok (ctx.graph.matchSet handle.gid).length ∧
    ∃ retired ctx',
      (Owned.mk handle false).retire Context.destroyEndpoint ctx = (.ok (), retired, ctx') ∧
      ctx.graph.LeftOut ctx'.graph handle.gid ∧
      ∀ later, retired.drop Context.destroyEndpoint later = later := by
  obtain ⟨⟨before, hbefore, hhandle⟩, hregisters⟩ := h.registers rfl hlive
  obtain ⟨⟨record, hrecord, hblank⟩, core, hcore, hcoreBlank⟩ := hregisters.exists_find?
  have hmatched := h.accounts.matched
  refine ⟨?_, ⟨record, hrecord, hblank⟩, ⟨core, hcore, hcoreBlank⟩, hmatched.isLocal_iff,
    withdrawEndpoint_of_local hcore, fun remote hgid => ?_, ?_, ?_⟩
  · subst hhandle
    exact ⟨rfl, rfl, rfl, before, hbefore, rfl⟩
  · exact announceEndpoint_of_known (hgid ▸ hrecord)
  · rw [Graph.matchedCount, Graph.matchSet, hrecord]
    rfl
  · obtain ⟨ctx', hdestroy, hleftOut⟩ := destroyEndpoint_leftOut hmatched hrecord
    refine ⟨⟨handle, true⟩, ctx', ?_, hleftOut, fun later => Owned.drop_of_retired _ rfl later⟩
    unfold Owned.retire
    rw [if_neg Bool.false_ne_true, hdestroy]

/-- Discovery tries to withdraw a publisher and to take over its identifier, in vain. -/
theorem Course.exists_endpoint_registered : ∃ ctx withdraw announce create handle,
    Course ctx [announce, withdraw, create] ∧
    create.reply = .ok (.endpoint handle) ∧
    withdraw = ⟨.withdrawEndpoint handle.gid,
      .error (.invalidArgument (.withdrawnLocal handle.gid))⟩ ∧
    announce.reply = .error (.invalidArgument (.duplicateEndpoint handle.gid)) ∧
    (∃ record, ctx.graph.endpoints.find? handle.gid = some record ∧
      record.blank = handle.record ⟨.mint 7 1 1, "talker", "/"⟩) ∧
    ctx.graph.matchedCount handle.gid = .ok (ctx.graph.matchSet handle.gid).length := by
  have hcreate := @Course.create (.start 7) _
    { domainId := 0, enclave := "/", discoveryRange := .localhost, discoveryPeers := [],
      instanceId := none, waitSetCapacity := 4, qosProfilePath := none } _ rfl
  have hcourse := (((hcreate.perform (.createEndpoint ⟨.mint 7 1 1, "talker", "/"⟩ .publisher
    "chatter" "String" .standard false) trivial).perform (.withdrawEndpoint (.mint 7 1 1))
      trivial).perform (.announceEndpoint ⟨.mint 7 1 1, .subscription, "chatter", "String",
        "listener", "/", .standard⟩) trivial)
  obtain ⟨-, hrecord, -, -, -, -, hcount, -⟩ := @endpoint_registered _ [_, _] [] _ _ _ _ _ _
    ⟨.mint 7 1 1, .publisher, "chatter", "String", .standard⟩ hcourse (by simp)
  exact ⟨_, _, _, _, _, hcourse, rfl, rfl, rfl, hrecord, hcount⟩

end Context

end PubSub
