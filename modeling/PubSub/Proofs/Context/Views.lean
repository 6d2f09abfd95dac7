import PubSub.Proofs.Context.Answers

/-!
# The queries show what is alive

Replies tell which endpoints and nodes came and went: an `Update` lets an identifier enter with an
entry or leave, and `Update.live` is what is left of the entries once a history is over.  For
endpoints these are creations and announcements that succeeded, without those destroyed or withdrawn
since; for nodes the same, where a node that is announced again has its latest entry.  The tables of a
context hold exactly these (`Context.Course.holds`), so that every query answers for them and for
nothing else (`Context.Course.queries_show_live`), endpoints whose node nobody announced and nodes
that share a name included.
-/

namespace PubSub

/-! ## What a history leaves -/

/-- An identifier enters with an entry, in place of one that it may have had, or leaves. -/
inductive Update (α : Type)
  | enter (gid : Gid) (entry : α)
  | leave (gid : Gid)

namespace Update

variable {α : Type}

/-- The entries afterwards. -/
def apply : Option (Update α) → List (Gid × α) → List (Gid × α)
  | none, entries => entries
  | some (enter gid entry), entries => (gid, entry) :: entries.filter (·.1 ≠ gid)
  | some (leave gid), entries => entries.filter (·.1 ≠ gid)

/-- The entry of an identifier afterwards. -/
def entryOf (gid : Gid) : Option (Update α) → Option α → Option α
  | none, entry => entry
  | some (enter named entry'), entry => if named = gid then some entry' else entry
  | some (leave named), entry => if named = gid then none else entry

/-- The entries that a history leaves, latest act first. -/
def live (update : Act → Option (Update α)) (history : List Act) : List (Gid × α) :=
  history.foldr (fun act entries => apply (update act) entries) []

theorem lookup_filter_ne (entries : List (Gid × α)) (named gid : Gid) :
    (entries.filter (·.1 ≠ named)).lookup gid =
      if named = gid then none else entries.lookup gid := by
  induction entries with
  | nil => simp
  | cons entry rest ih =>
    obtain ⟨key, value⟩ := entry
    rw [List.lookup_cons]
    by_cases hkey : key = named
    · rw [List.filter_cons_of_neg (by simpa using hkey), ih]
      split
      · rfl
      · next hne =>
        have hgid : (gid == key) = false := by
          rw [hkey]
          simpa using Ne.symm hne
        rw [hgid]
    · rw [List.filter_cons_of_pos (by simpa using hkey), List.lookup_cons, ih]
      by_cases hgid : gid = key
      · subst hgid
        simp [Ne.symm hkey]
      · rw [beq_false_of_ne hgid]

theorem lookup_apply (update : Option (Update α)) (entries : List (Gid × α)) (gid : Gid) :
    (apply update entries).lookup gid = entryOf gid update (entries.lookup gid) := by
  rcases update with _ | (⟨named, entry⟩ | named)
  · rfl
  · simp only [apply, entryOf, List.lookup_cons, lookup_filter_ne]
    by_cases hgid : gid = named
    · simp [hgid]
    · simp [beq_false_of_ne hgid, Ne.symm hgid]
  · exact lookup_filter_ne entries named gid

theorem nodup_apply (update : Option (Update α)) {entries : List (Gid × α)}
    (h : (entries.map Prod.fst).Nodup) : ((apply update entries).map Prod.fst).Nodup := by
  have hfilter (named : Gid) : ((entries.filter (·.1 ≠ named)).map Prod.fst).Nodup :=
    (List.filter_sublist.map Prod.fst).nodup h
  rcases update with _ | (⟨named, entry⟩ | named)
  · exact h
  · refine List.nodup_cons.2 ⟨fun hmem => ?_, hfilter named⟩
    obtain ⟨entry', hentry', heq⟩ := List.mem_map.1 hmem
    exact of_decide_eq_true (List.mem_filter.1 hentry').2 heq
  · exact hfilter named

/-- Every identifier has one entry at most. -/
theorem nodup_live (update : Act → Option (Update α)) (history : List Act) :
    ((live update history).map Prod.fst).Nodup := by
  induction history with
  | nil => exact List.nodup_nil
  | cons act earlier ih => exact nodup_apply (update act) ih

/-- An update names the identifier. -/
def Names (gid : Gid) : Option (Update α) → Prop
  | none => False
  | some (enter named _) => named = gid
  | some (leave named) => named = gid

theorem mem_apply_iff (update : Option (Update α)) (entries : List (Gid × α)) (gid : Gid)
    (entry : α) : (gid, entry) ∈ apply update entries ↔
      update = some (enter gid entry) ∨ (gid, entry) ∈ entries ∧ ¬ Names gid update := by
  rcases update with _ | (⟨named, entry'⟩ | named)
  · simp [apply, Names]
  · simp only [apply, Names, List.mem_cons, List.mem_filter, decide_eq_true_iff, Prod.mk.injEq,
      Option.some.injEq, enter.injEq, ne_eq]
    grind
  · simp only [apply, Names, List.mem_filter, decide_eq_true_iff, ne_eq, Option.some.injEq,
      reduceCtorEq, false_or]
    grind

/-- What is alive entered at some time, and nothing was said about its identifier since. -/
theorem mem_live_iff {update : Act → Option (Update α)} {history : List Act} {gid : Gid}
    {entry : α} : (gid, entry) ∈ live update history ↔
      ∃ later act earlier, history = later ++ act :: earlier ∧
        update act = some (enter gid entry) ∧ ∀ act' ∈ later, ¬ Names gid (update act') := by
  induction history with
  | nil => simp [live]
  | cons act earlier ih =>
    show (gid, entry) ∈ apply (update act) (live update earlier) ↔ _
    rw [mem_apply_iff, ih]
    constructor
    · rintro (henter | ⟨⟨later, act', earlier', rfl, henter, hsilent⟩, hnot⟩)
      · exact ⟨[], act, earlier, rfl, henter, by simp⟩
      · refine ⟨act :: later, act', earlier', rfl, henter, fun act'' hact => ?_⟩
        rcases List.mem_cons.1 hact with rfl | hact
        · exact hnot
        · exact hsilent act'' hact
    · rintro ⟨later, act', earlier', heq, henter, hsilent⟩
      cases later with
      | nil =>
        obtain ⟨rfl, -⟩ := List.cons.inj heq
        exact .inl henter
      | cons act'' later =>
        obtain ⟨rfl, rfl⟩ := List.cons.inj heq
        exact .inr ⟨⟨later, act', earlier', rfl, henter, fun act' hact =>
          hsilent act' (List.mem_cons_of_mem _ hact)⟩, hsilent _ List.mem_cons_self⟩

end Update

/-! ## Acts that let something enter or leave -/

/-- The endpoint that an act lets enter or leave. -/
def Act.endpointUpdate : Act → Option (Update Endpoint)
  | ⟨.createEndpoint node .., .ok (.endpoint handle)⟩ => some (.enter handle.gid (handle.record node))
  | ⟨.announceEndpoint remote, .ok _⟩ => some (.enter remote.gid remote.toEndpoint)
  | ⟨.destroyEndpoint handle, .ok _⟩ => some (.leave handle.gid)
  | ⟨.withdrawEndpoint gid, .ok (.flag true)⟩ => some (.leave gid)
  | _ => none

/-- The node that an act lets enter or leave.  The context's own nodes are in its enclave. -/
def Act.nodeUpdate (enclave : String) : Act → Option (Update NodeInfo)
  | ⟨.createNode name nodeNamespace, .ok (.node node)⟩ =>
    some (.enter node.gid ⟨name, nodeNamespace, enclave⟩)
  | ⟨.announceNode gid info, .ok (.flag true)⟩ => some (.enter gid info)
  | ⟨.destroyNode node, .ok _⟩ => some (.leave node.gid)
  | ⟨.withdrawNode gid, .ok (.flag true)⟩ => some (.leave gid)
  | _ => none

/-- The endpoints that were created or announced and not removed since. -/
def liveEndpoints (history : List Act) : List (Gid × Endpoint) :=
  Update.live Act.endpointUpdate history

/-- The nodes that were created or announced and not removed since. -/
def liveNodes (enclave : String) (history : List Act) : List (Gid × NodeInfo) :=
  Update.live (Act.nodeUpdate enclave) history

/-- The tables afterwards are those before with the updates of an act. -/
structure Act.Updates (act : Act) (ctx ctx' : Context) : Prop where
  options : ctx'.options = ctx.options
  endpoints : ∀ gid, (ctx'.graph.endpoints.find? gid).map Endpoint.blank =
    Update.entryOf gid act.endpointUpdate ((ctx.graph.endpoints.find? gid).map Endpoint.blank)
  nodes : ∀ gid, ctx'.graph.nodes.find? gid =
    Update.entryOf gid (act.nodeUpdate ctx.options.enclave) (ctx.graph.nodes.find? gid)

namespace Act.Updates

variable {act : Act} {ctx ctx' : Context}

/-- An act that is about nodes at most. -/
theorem of_endpoints (hupdate : act.endpointUpdate = none)
    (hendpoints : ctx'.graph.endpoints = ctx.graph.endpoints) (hoptions : ctx'.options = ctx.options)
    (hnodes : ∀ gid, ctx'.graph.nodes.find? gid =
      Update.entryOf gid (act.nodeUpdate ctx.options.enclave) (ctx.graph.nodes.find? gid)) :
    act.Updates ctx ctx' :=
  ⟨hoptions, fun gid => by rw [hupdate, hendpoints]; rfl, hnodes⟩

/-- An act that is about endpoints at most. -/
theorem of_sameNodes (hupdate : act.nodeUpdate ctx.options.enclave = none)
    (hsame : ctx.SameNodes ctx')
    (hendpoints : ∀ gid, (ctx'.graph.endpoints.find? gid).map Endpoint.blank =
      Update.entryOf gid act.endpointUpdate ((ctx.graph.endpoints.find? gid).map Endpoint.blank)) :
    act.Updates ctx ctx' :=
  ⟨hsame.options, hendpoints, fun gid => by rw [hupdate, hsame.nodes]; rfl⟩

/-- An act that is about neither. -/
theorem of_same (hendpoint : act.endpointUpdate = none)
    (hnode : act.nodeUpdate ctx.options.enclave = none)
    (hendpoints : ctx'.graph.endpoints = ctx.graph.endpoints) (hsame : ctx.SameNodes ctx') :
    act.Updates ctx ctx' :=
  .of_endpoints hendpoint hendpoints hsame.options fun gid => by rw [hnode, hsame.nodes]; rfl

end Act.Updates

namespace Graph

variable {graph graph' : Graph} {gid : Gid} {notices : List Notice}

/-- An endpoint that is added enters, and every other record keeps what is recorded of it. -/
theorem find?_blank_addEndpoint {new : Endpoint} {core : Option Core}
    (hadd : graph.addEndpoint gid new core = .ok (graph', notices)) (k : Gid) :
    (graph'.endpoints.find? k).map Endpoint.blank =
      Update.entryOf k (some (.enter gid { new.blank with isLocal := core.isSome }))
        ((graph.endpoints.find? k).map Endpoint.blank) := by
  obtain ⟨-, -, -, hfind, -⟩ := addEndpoint_eq_ok hadd
  rw [hfind, Update.entryOf]
  by_cases hk : k = gid
  · rw [if_pos hk, if_pos hk.symm]
    rfl
  · rw [if_neg hk, if_neg (Ne.symm hk), Option.map_map]
    simp only [Function.comp_def, blank_meet]

theorem find?_blank_removeEndpoint (hrem : graph.removeEndpoint gid = some (graph', notices))
    (k : Gid) :
    (graph'.endpoints.find? k).map Endpoint.blank =
      Update.entryOf k (some (.leave gid)) ((graph.endpoints.find? k).map Endpoint.blank) := by
  obtain ⟨gone, -, -, -, hfind, -⟩ := removeEndpoint_eq_some hrem
  rw [hfind, Update.entryOf]
  by_cases hk : k = gid
  · rw [if_pos hk, if_pos hk.symm]
    rfl
  · rw [if_neg hk, if_neg (Ne.symm hk), Option.map_map]
    simp only [Function.comp_def, blank_part]

end Graph

/-- An act that is refused lets nothing enter or leave. -/
theorem Act.updates_error (operation : Operation) (error : Error) (enclave : String) :
    Act.endpointUpdate ⟨operation, .error error⟩ = none ∧
      Act.nodeUpdate enclave ⟨operation, .error error⟩ = none := by
  cases operation <;> exact ⟨rfl, rfl⟩

namespace Operation

theorem Does.updates {ctx ctx' : Context} {operation : Operation} {reply : Except Error Reply}
    (h : operation.Does ctx reply ctx') : Act.Updates ⟨operation, reply⟩ ctx ctx' := by
  have hnext (gid : Gid) : ctx.SameNodes (ctx.nextSequence gid).2 := ⟨rfl, rfl⟩
  have hmint : ctx.SameNodes ctx.mint.2 := ⟨rfl, rfl⟩
  have hnodes (ctx : Context) (graph : Graph) := (Context.SameNodes.change ctx graph []).nodes
  have hoptions (ctx : Context) (graph : Graph) := (Context.SameNodes.change ctx graph []).options
  have hstill (ctx : Context) (graph : Graph) (notices : List Notice) :=
    (ctx.still_change graph notices).endpoints
  cases h with
  | @refused _ error =>
    obtain ⟨hendpoint, hnode⟩ := Act.updates_error operation error ctx.options.enclave
    exact .of_same hendpoint hnode rfl (.refl ctx)
  | announceKnownNode | withdrawUnknownNode | announceKnownEndpoint | withdrawUnknownEndpoint
  | destroyUnknownNode | destroyUnknownEndpoint | sendResponseToNone | sendResponseToOther
  | takeStatus | takeNoStatus | createGuard | trigger | createWaitSet | createNoWaitSet
  | dropWaitSet => exact .of_same rfl rfl rfl ⟨rfl, rfl⟩
  | announceNode _ hadd =>
    refine .of_endpoints rfl ((hstill ..).trans (Graph.Still.addNode hadd).endpoints) (hoptions ..)
      fun gid => ?_
    rw [hnodes, Graph.find?_addNode hadd]
    rfl
  | createNode _ hadd =>
    refine .of_endpoints rfl ((hstill ..).trans (Graph.Still.addNode hadd).endpoints)
      (hoptions ctx.mint.2 _) fun gid => ?_
    rw [hnodes, Graph.find?_addNode hadd]
    rfl
  | createKnownNode hadd =>
    exact .of_endpoints rfl rfl rfl fun gid => Graph.find?_of_addNode_eq_none hadd
  | withdrawNode hrem | destroyNode hrem =>
    refine .of_endpoints rfl ((hstill ..).trans (Graph.Still.removeNode hrem).endpoints)
      (hoptions ..) fun gid => ?_
    rw [hnodes, Graph.find?_removeNode hrem]
    rfl
  | announceEndpoint _ hadd =>
    refine .of_sameNodes rfl (.addEndpoint hadd) fun gid => ?_
    rw [hstill]
    exact Graph.find?_blank_addEndpoint hadd gid
  | createEndpoint _ _ hadd =>
    refine .of_sameNodes rfl (hmint.trans (.addEndpoint hadd)) fun gid => ?_
    rw [hstill]
    exact Graph.find?_blank_addEndpoint hadd gid
  | withdrawEndpoint _ hrem | destroyEndpoint hrem =>
    refine .of_sameNodes rfl (.removeEndpoint hrem) fun gid => ?_
    rw [hstill]
    exact Graph.find?_blank_removeEndpoint hrem gid
  | createKnownEndpoint => exact .of_same rfl rfl rfl hmint
  | publish gid | sendRequest gid =>
    exact .of_same rfl rfl ((ctx.nextSequence gid).2.kept_deliverAll ..).endpoints
      ((hnext gid).trans (.deliverAll ..))
  | take gid | takeRequest gid | takeResponse gid =>
    exact .of_same rfl rfl (ctx.kept_take gid).endpoints (.take ctx gid)
  | takeSequence gid count =>
    exact .of_same rfl rfl (ctx.kept_takeUpTo gid count).endpoints (.takeUpTo ctx gid count)
  | sendResponse => exact .of_same rfl rfl (ctx.kept_deliver ..).endpoints (.signal ..)
  | setCallback => exact .of_same rfl rfl (ctx.still_setCallback ..).endpoints (.setCallback ctx ..)

/-- Every operation updates the tables as its reply says. -/
theorem updates (operation : Operation) (ctx : Context) :
    Act.Updates ⟨operation, (operation.perform ctx).1⟩ ctx (operation.perform ctx).2 :=
  (operation.does ctx).updates

end Operation

/-! ## Whole courses -/

namespace Context.Course

variable {ctx : Context} {history : List Act}

/-- Looking an endpoint up finds the live one. -/
theorem find?_blank (h : Course ctx history) (gid : Gid) :
    (ctx.graph.endpoints.find? gid).map Endpoint.blank = (liveEndpoints history).lookup gid := by
  induction h with
  | create hcreate =>
    rw [graph_create hcreate]
    rfl
  | @perform ctx history _ operation _ ih =>
    rw [(operation.updates ctx).endpoints, ih]
    exact (Update.lookup_apply _ _ gid).symm
  | startWait _ id handles timeout now ih =>
    rw [graph_startWait]
    exact ih
  | resumeWait _ session now ih =>
    rw [graph_resumeWait]
    exact ih

theorem find?_node (h : Course ctx history) (gid : Gid) :
    ctx.graph.nodes.find? gid = (liveNodes ctx.options.enclave history).lookup gid := by
  induction h with
  | create hcreate =>
    rw [graph_create hcreate]
    rfl
  | @perform ctx history _ operation _ ih =>
    have hupdates := operation.updates ctx
    rw [hupdates.nodes, hupdates.options, ih]
    exact (Update.lookup_apply _ _ gid).symm
  | @startWait ctx _ _ id handles timeout now ih =>
    have hsame := SameNodes.startWait ctx id handles timeout now
    rw [hsame.nodes, hsame.options, ih]
  | @resumeWait ctx _ _ session now ih =>
    have hsame := SameNodes.resumeWait ctx session now
    rw [hsame.nodes, hsame.options, ih]

/-- The tables hold what is alive. -/
theorem holds (h : Course ctx history) :
    ctx.graph.Holds (liveEndpoints history) (liveNodes ctx.options.enclave history) :=
  .of_find? (Update.nodup_live ..) (Update.nodup_live ..) h.find?_blank h.find?_node

end Context.Course

namespace Context

/-- A context that was shut down holds nothing. -/
theorem holds_shutdown (ctx : Context) : ctx.shutdown.2.graph.Holds [] [] := by
  unfold shutdown Graph.clear
  dsimp only
  split
  · next graph hclear =>
    split at hclear
    · next hcount =>
      obtain ⟨hnodes, hendpoints⟩ := Nat.add_eq_zero_iff.1 hcount
      rw [Table.size, List.length_eq_zero_iff] at hnodes hendpoints
      refine ⟨?_, ?_⟩
      · unfold Graph.roster
        rw [show (ctx.graph.endpoints.entries) = [] from hendpoints]
        exact .refl []
      · rw [show (ctx.graph.nodes.entries) = [] from hnodes]
    · next hcount => exact absurd (Prod.mk.inj hclear).1 hcount
  · next graph _ hclear =>
    split at hclear
    · next hcount =>
      exact absurd (Prod.mk.inj hclear).1.symm (by assumption)
    · obtain ⟨-, rfl⟩ := Prod.mk.inj hclear
      exact ⟨.refl [], .refl []⟩

/-- Whatever happened to a context, its answers are those of the endpoints and nodes that are alive,
and after a shutdown those of none.  They depend on nothing else: another context with another history
that leaves the same endpoints and nodes gives the same answers. -/
theorem Course.queries_show_live {ctx : Context} {history : List Act} (h : Course ctx history) :
    ctx.graph.Shows (liveEndpoints history) (liveNodes ctx.options.enclave history) ∧
    ctx.shutdown.2.graph.Shows [] [] ∧
    ∀ ctx' history', Course ctx' history' →
      (liveEndpoints history').Perm (liveEndpoints history) →
      (liveNodes ctx'.options.enclave history').Perm (liveNodes ctx.options.enclave history) →
      ctx.graph.SameAnswers ctx'.graph := by
  refine ⟨h.holds.shows, ctx.holds_shutdown.shows, fun ctx' history' h' hendpoints hnodes => ?_⟩
  exact h.holds.sameAnswers (h'.holds.perm hendpoints hnodes)

/-- A publisher of a node that is gone, and a remote subscription of a node that nobody announced:
both are counted, and neither node can be asked for. -/
theorem Course.exists_queries_show_live : ∃ ctx history, Course ctx history ∧
    liveNodes ctx.options.enclave history = [] ∧
    (liveEndpoints history).map (·.2.nodeName) = ["listener", "talker"] ∧
    ctx.graph.count .publisher "chatter" = 1 ∧ ctx.graph.count .subscription "chatter" = 1 ∧
    ctx.graph.namesAndTypesByNode .publisher "talker" "/" =
      .error (.invalidArgument (.unknownNode "" "talker")) ∧
    ctx.shutdown.2.graph.count .publisher "chatter" = 0 := by
  have hcreate := @Course.create (.start 7) _
    { domainId := 0, enclave := "/", discoveryRange := .localhost, discoveryPeers := [],
      instanceId := none, waitSetCapacity := 4, qosProfilePath := none } _ rfl
  let node : Node := ⟨.mint 7 1 1, "talker", "/"⟩
  have hcourse := ((((hcreate.perform (.createNode "talker" "/") trivial).perform
    (.createEndpoint node .publisher "chatter" "String" .standard false) trivial).perform
      (.destroyNode node) trivial).perform
        (.announceEndpoint ⟨.zero, .subscription, "chatter", "String", "listener", "/far",
          .standard⟩) trivial)
  obtain ⟨hshows, hshutdown, -⟩ := queries_show_live hcourse
  refine ⟨_, _, hcourse, rfl, rfl, ?_, ?_, ?_, ?_⟩
  · rw [hshows.count]
    rfl
  · rw [hshows.count]
    rfl
  · exact hshows.unknownNode .publisher "talker" "/" (by rintro ⟨_, hmem, -⟩; cases hmem)
  · rw [hshutdown.count]
    rfl

end Context

end PubSub
