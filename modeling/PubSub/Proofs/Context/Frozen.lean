import PubSub.Proofs.Context.Endpoints
import PubSub.Proofs.Qos.Resolution

/-!
# Policies are settled once

The policies of a local endpoint are resolved when it is created, and a remote endpoint is refused
unless its policies are concrete.  So no record ever holds a policy that is still open
(`Graph.Concrete`), and since nothing rewrites the profile of a record, the handle of an endpoint,
what the graph lists of it and what was resolved at its creation stay the same
(`Context.Course.qos_frozen`).
-/

namespace PubSub

/-! ## Records are concrete -/

namespace Graph

/-- No record leaves a policy open. -/
def Concrete (graph : Graph) : Prop :=
  ∀ k record, graph.endpoints.find? k = some record → record.qos.hasBestAvailable = false

@[simp] theorem qos_meet (gid : Gid) (new x : Endpoint) : (meet gid new x).qos = x.qos := by
  unfold meet
  split <;> rfl

@[simp] theorem qos_part (gid : Gid) (gone : Endpoint) (k : Gid) (x : Endpoint) :
    (part gid gone k x).qos = x.qos := by
  unfold part
  split <;> rfl

namespace Concrete

variable {graph graph' : Graph} {gid : Gid} {notices : List Notice}

theorem congr (h : graph.Concrete) (hendpoints : graph'.endpoints = graph.endpoints) :
    graph'.Concrete := by
  intro k record hrecord
  rw [hendpoints] at hrecord
  exact h k record hrecord

theorem addEndpoint (h : graph.Concrete) {new : Endpoint} {core : Option Core}
    (hadd : graph.addEndpoint gid new core = .ok (graph', notices))
    (hnew : new.qos.hasBestAvailable = false) : graph'.Concrete := by
  intro k record hrecord
  rcases find?_addEndpoint_cases hadd hrecord with ⟨-, rfl⟩ | ⟨-, x, hx, rfl⟩
  · exact hnew
  · rw [qos_meet]
    exact h k x hx

theorem removeEndpoint (h : graph.Concrete)
    (hrem : graph.removeEndpoint gid = some (graph', notices)) : graph'.Concrete := by
  intro k record hrecord
  obtain ⟨gone, hgone, -⟩ := removeEndpoint_eq_some hrem
  obtain ⟨-, x, hx, rfl⟩ := find?_removeEndpoint_cases hrem hgone hrecord
  rw [qos_part]
  exact h k x hx

end Concrete

end Graph

/-- The profile that decides where no peer is known leaves nothing open. -/
theorem hasBestAvailable_fallbackProfile : fallbackProfile.hasBestAvailable = false := rfl

namespace Context

/-- Whatever an endpoint asks for, it gets concrete policies. -/
theorem hasBestAvailable_resolveFor (ctx : Context) (kind : EndpointKind) (name typeName : String)
    (qos : Qos.Profile) : (ctx.resolveFor kind name typeName qos).hasBestAvailable = false :=
  Qos.hasBestAvailable_resolve _ _ _ _ hasBestAvailable_fallbackProfile

/-- An endpoint is announced with concrete policies only. -/
theorem hasBestAvailable_of_announceEndpoint {ctx : Context} {remote : RemoteEndpoint}
    (h : (ctx.announceEndpoint remote).1 = .ok ()) : remote.qos.hasBestAvailable = false := by
  unfold announceEndpoint at h
  split at h
  · cases h
  · split at h
    · cases h
    · next hconcrete => exact Bool.eq_false_iff.2 hconcrete

end Context

/-- Records stay concrete where announced ones are. -/
theorem Act.Effect.concrete {ctx ctx' : Context} {act : Act} (h : act.Effect ctx ctx')
    (hconcrete : ctx.graph.Concrete)
    (hremote : ∀ remote, act = ⟨.announceEndpoint remote, .ok .done⟩ →
      remote.qos.hasBestAvailable = false) : ctx'.graph.Concrete := by
  cases h with
  | none halike _ => exact hconcrete.congr halike.endpoints
  | delivered halike _ receivers message =>
    refine hconcrete.congr ?_
    rw [(Context.kept_deliverAll _ receivers message).endpoints, halike.endpoints]
  | taken _ => exact hconcrete.congr rfl
  | registered gid channel callback =>
    exact hconcrete.congr (ctx.still_setCallback gid channel callback).endpoints
  | @created _ _ _ _ _ _ handle graph notices hhandle hadd =>
    have hqos : handle.qos.hasBestAvailable = false := by
      rw [hhandle]
      exact ctx.hasBestAvailable_resolveFor ..
    exact (hconcrete.addEndpoint hadd hqos).congr (Context.still_change ..).endpoints
  | @announced remote graph notices hadd =>
    exact (hconcrete.addEndpoint hadd (hremote remote rfl)).congr
      (Context.still_change ..).endpoints
  | destroyed hrem | withdrawn _ hrem =>
    exact (hconcrete.removeEndpoint hrem).congr (Context.still_change ..).endpoints

namespace Context.Course

variable {ctx : Context} {history : List Act}

theorem concrete (h : Course ctx history) : ctx.graph.Concrete := by
  induction h with
  | create hcreate =>
    rw [graph_create hcreate]
    exact fun k record hrecord => nomatch hrecord
  | @perform ctx history _ operation _ ih =>
    refine (operation.effect ctx).concrete ih fun remote hact => ?_
    obtain ⟨rfl, hreply⟩ := Act.mk.inj hact
    have haccepted : (ctx.announceEndpoint remote).1 = .ok () := by
      cases hresult : (ctx.announceEndpoint remote).1 with
      | ok => rfl
      | error error =>
        rw [Operation.perform, Operation.reply, hresult] at hreply
        cases hreply
    exact hasBestAvailable_of_announceEndpoint haccepted
  | startWait _ id handles timeout now ih =>
    rw [graph_startWait]
    exact ih
  | resumeWait _ session now ih =>
    rw [graph_resumeWait]
    exact ih

end Context.Course

/-! ## Where a handle comes from -/

/-- The endpoint was created at some time, and nobody has tried to destroy it since. -/
def Holding.CreatedIn (s : Holding) (history : List Act) : Prop :=
  ∃ since earlier node kind name typeName qos,
    history = since ++ ⟨.createEndpoint node kind name typeName qos s.ignoresLocal,
      .ok (.endpoint s.handle)⟩ :: earlier ∧
    ∀ act ∈ since, ∀ other, act.operation = .destroyEndpoint other → other.gid ≠ s.gid

theorem Holding.CreatedIn.cons {s : Holding} {history : List Act} (h : s.CreatedIn history)
    {act : Act} (hother : ∀ other, act.operation = .destroyEndpoint other → other.gid ≠ s.gid) :
    s.CreatedIn (act :: history) := by
  obtain ⟨since, earlier, node, kind, name, typeName, qos, rfl, hlive⟩ := h
  refine ⟨act :: since, earlier, node, kind, name, typeName, qos, rfl, fun act' hact => ?_⟩
  rcases List.mem_cons.1 hact with rfl | hact
  · exact hother
  · exact hlive act' hact

/-- What is held is recorded, so that its destruction does not fail. -/
theorem Accounts.destroyEndpoint_eq_ok {ctx : Context} {holdings : List Holding} {sent : Gid → Nat}
    (h : Accounts ctx.graph holdings sent) {s : Holding} (hs : s ∈ holdings) {handle : Handle}
    (hgid : handle.gid = s.gid) : (ctx.destroyEndpoint handle).1 = .ok () := by
  obtain ⟨record, hrecord, -⟩ := (h.stands s hs).record
  rw [← hgid] at hrecord
  obtain ⟨ctx', hdestroy, -⟩ := Context.destroyEndpoint_leftOut h.matched hrecord
  rw [hdestroy]

theorem Context.Course.createdIn {ctx : Context} {history : List Act} (h : Course ctx history)
    {s : Holding} (hs : s ∈ held history) : s.CreatedIn history := by
  induction h with
  | create => cases hs
  | @perform ctx history hcourse operation _ ih =>
    -- A destruction that is tried would succeed.
    have hsucceeds (other : Handle) (hs : s ∈ held history) (hgid : other.gid = s.gid)
        (heq : operation = .destroyEndpoint other) :
        (operation.perform ctx).1 = .ok .done := by
      have hok := hcourse.accounts.destroyEndpoint_eq_ok hs hgid
      rw [heq]
      exact congrArg (Except.map fun _ => Reply.done) hok
    revert hsucceeds hs
    generalize (operation.perform ctx).1 = reply
    intro hs hsucceeds
    unfold held at hs
    split at hs
    · next heq => cases heq
    · next node kind name typeName qos ignoresLocal handle rest heq =>
      obtain ⟨hact, rfl⟩ := List.cons.inj heq
      rcases List.mem_cons.1 hs with rfl | hs
      · exact ⟨[], history, node, kind, name, typeName, qos, heq, by simp⟩
      · refine (ih hs).cons fun other hother => ?_
        obtain ⟨rfl, -⟩ := Act.mk.inj hact
        cases hother
    · next handle _ rest heq =>
      obtain ⟨hact, rfl⟩ := List.cons.inj heq
      obtain ⟨hs, hne⟩ := List.mem_filter.1 hs
      refine (ih hs).cons fun other hother => ?_
      obtain ⟨rfl, -⟩ := Act.mk.inj hact
      obtain rfl := Operation.destroyEndpoint.inj hother
      exact Ne.symm (of_decide_eq_true hne)
    · next hcreate hdestroy heq =>
      obtain ⟨rfl, rfl⟩ := List.cons.inj heq
      refine (ih hs).cons fun other hother hgid => ?_
      exact hdestroy other .done (Act.mk.injEq .. ▸ ⟨hother, hsucceeds other hs hgid hother⟩)
  | startWait _ _ _ _ _ ih | resumeWait _ _ _ ih => exact ih hs

/-! ## What is listed -/

namespace Graph

variable {graph : Graph} {k : Gid} {record : Endpoint}

/-- An answer is about the record of its identifier. -/
theorem mem_endpointInfos_iff {kind : EndpointKind} {name : String} {info : EndpointInfo} :
    info ∈ graph.endpointInfos kind name ↔
      graph.endpoints.find? info.gid = some info.endpoint ∧
        info.endpoint.kind = kind ∧ info.endpoint.name = name := by
  unfold endpointInfos
  rw [List.mem_mergeSort, List.mem_map]
  constructor
  · rintro ⟨entry, hentry, rfl⟩
    obtain ⟨hmem, hmatch⟩ := List.mem_filter.1 hentry
    exact ⟨Table.find?_eq_some_iff.2 hmem, by simpa using hmatch⟩
  · rintro ⟨hfind, hmatch⟩
    exact ⟨(info.gid, info.endpoint),
      List.mem_filter.2 ⟨Table.find?_eq_some_iff.1 hfind, by simpa using hmatch⟩, rfl⟩

end Graph

/-- Policies are settled once and for all.  To resolve a profile leaves nothing open if the fallback
is concrete, touches only what was open, and does nothing to a profile that was resolved before.  So
no record of a context leaves a policy open, whether it is local or remote; and the profile of a local
endpoint is the one that was resolved when it was created, on its handle as well as wherever the graph
lists it. -/
theorem Context.Course.qos_frozen :
    (∀ (profile : Qos.Profile) (role : Qos.Role) (peers : List Qos.Profile)
        (fallback : Qos.Profile), fallback.hasBestAvailable = false →
      (Qos.resolve profile role peers fallback).hasBestAvailable = false ∧
      profile.Settles (Qos.resolve profile role peers fallback) ∧
      ∀ role' peers' fallback',
        Qos.resolve (Qos.resolve profile role peers fallback) role' peers' fallback' =
          Qos.resolve profile role peers fallback) ∧
    fallbackProfile.hasBestAvailable = false ∧
    ∀ ctx history, Course ctx history →
      (∀ k record, ctx.graph.endpoints.find? k = some record →
        record.qos.hasBestAvailable = false) ∧
      ∀ s ∈ held history,
        (∃ since earlier node kind name typeName qos before,
          history = since ++ ⟨.createEndpoint node kind name typeName qos s.ignoresLocal,
            .ok (.endpoint s.handle)⟩ :: earlier ∧
          Course before earlier ∧ s.handle.qos = before.resolveFor kind name typeName qos) ∧
        (∃ info ∈ ctx.graph.endpointInfos s.handle.kind s.handle.name, info.gid = s.gid) ∧
        ∀ kind name, ∀ info ∈ ctx.graph.endpointInfos kind name, info.gid = s.gid →
          info.endpoint.qos = s.handle.qos := by
  refine ⟨fun profile role peers fallback hfallback => ?_, hasBestAvailable_fallbackProfile,
    fun ctx history h => ⟨h.concrete, fun s hs => ⟨?_, ?_, ?_⟩⟩⟩
  · have hconcrete := Qos.hasBestAvailable_resolve profile role peers fallback hfallback
    exact ⟨hconcrete, Qos.settles_resolve .., fun role' peers' fallback' =>
      Qos.resolve_of_concrete _ role' peers' fallback' hconcrete⟩
  · obtain ⟨since, earlier, node, kind, name, typeName, qos, heq, hlive⟩ := h.createdIn hs
    obtain ⟨⟨before, hbefore, hhandle⟩, -⟩ := h.registers heq hlive
    exact ⟨since, earlier, node, kind, name, typeName, qos, before, heq, hbefore,
      by rw [hhandle]; rfl⟩
  · obtain ⟨record, hrecord, hkind, hname, -⟩ := (h.accounts.stands s hs).record
    exact ⟨⟨s.gid, record⟩, Graph.mem_endpointInfos_iff.2 ⟨hrecord, hkind, hname⟩, rfl⟩
  · intro kind name info hinfo hgid
    obtain ⟨record, hrecord, -, -, -, hqos, -⟩ := (h.accounts.stands s hs).record
    obtain ⟨hfind, -⟩ := Graph.mem_endpointInfos_iff.1 hinfo
    rw [hgid, hrecord] at hfind
    obtain rfl := Option.some.inj hfind
    exact hqos

/-- A publisher leaves everything open and is created before anybody else.  It takes the fallback, and
keeps it when a remote subscription with a manual liveliness appears. -/
theorem Context.Course.exists_qos_frozen : ∃ ctx history s,
    Course ctx history ∧ s ∈ held history ∧ s.handle.kind = .publisher ∧
    (Qos.resolve .bestAvailable .publisher [] fallbackProfile).hasBestAvailable = false ∧
    s.handle.qos = Qos.resolve .bestAvailable .publisher [] fallbackProfile ∧
    (∃ record, ctx.graph.endpoints.find? (.mint 1 7 1) = some record ∧
      record.qos.liveliness = .exactly .manualByTopic ∧ record.qos.hasBestAvailable = false) ∧
    ∃ info ∈ ctx.graph.endpointInfos .publisher "chatter", info.gid = s.gid ∧
      info.endpoint.qos = s.handle.qos := by
  let talker : Holding := ⟨⟨.mint 7 1 1, .publisher, "chatter", "String",
    Qos.resolve .bestAvailable .publisher [] fallbackProfile⟩, false⟩
  have hcreate := @Course.create (.start 7) _
    { domainId := 0, enclave := "/", discoveryRange := .localhost, discoveryPeers := [],
      instanceId := none, waitSetCapacity := 4, qosProfilePath := none } _ rfl
  have hcourse := (hcreate.perform (.createEndpoint ⟨.mint 7 1 9, "talker", "/"⟩ .publisher
    "chatter" "String" .bestAvailable false) trivial).perform (.announceEndpoint
      ⟨.mint 1 7 1, .subscription, "chatter", "String", "listener", "/",
        { Qos.Profile.standard with liveliness := .exactly .manualByTopic }⟩) trivial
  obtain ⟨hresolve, hfallback, hframe⟩ := qos_frozen
  obtain ⟨hrecords, hfrozen⟩ := hframe _ _ hcourse
  obtain ⟨-, ⟨info, hinfo, hgid⟩, hlisted⟩ := hfrozen talker List.mem_cons_self
  exact ⟨_, _, talker, hcourse, List.mem_cons_self, rfl,
    (hresolve .bestAvailable .publisher [] fallbackProfile hfallback).1, rfl,
    ⟨_, rfl, rfl, hrecords (.mint 1 7 1) _ rfl⟩,
    info, hinfo, hgid, hlisted _ _ info hinfo hgid⟩

end PubSub
