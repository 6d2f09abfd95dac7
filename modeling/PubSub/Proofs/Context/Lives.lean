import PubSub.Proofs.Context.Moments
import PubSub.Proofs.Context.Queues

/-!
# The lives of endpoints

An endpoint lives from its creation until its owner destroys it.  `Lives` tells which moments of a
trail these are, and how many endpoints with the same identifier left before.  The events of the
endpoint can be read off each of them: the messages that are delivered to it, and the entries in its
books (`Moment.occurred`).  The program gives signals instead, for a list of receivers or for the
notices of a change, and they come to the same (`Moment.Signals.count_eq`).
-/

namespace PubSub

/-! ## Events -/

/-- Where a notice shows. -/
def Notice.signal (notice : Notice) : Gid × Channel := (notice.endpoint, .status notice.slot)

namespace Moment

/-- How many messages are delivered to an endpoint.  A publisher publishes to the matched
subscriptions of its context that do not ignore it, a client sends to the matched services, and a
response goes to the client whose request it answers. -/
def arrivals (moment : Moment) (gid : Gid) : Nat :=
  match moment.act.operation with
  | .publish sender _ =>
    if gid ∈ moment.before.localPeers sender ∧
      (moment.before.locals.find? gid).any (!·.ignoresLocal) = true then 1 else 0
  | .sendRequest sender _ => if gid ∈ moment.before.localPeers sender then 1 else 0
  | .sendResponse _ request _ =>
    if gid = request.writer ∧ (moment.before.locals.find? gid).any (·.kind = .client) = true then 1
    else 0
  | _ => 0

/-- How many events of a channel an endpoint has. -/
def occurred (moment : Moment) (handle : Handle) : Channel → Nat
  | .data => moment.arrivals handle.gid
  | .status slot => moment.events handle slot

/-- The endpoint leaves the graph. -/
def departs (moment : Moment) (gid : Gid) : Bool :=
  moment.before.endpoints.contains gid && !moment.after.endpoints.contains gid

/-- How many endpoints with the identifier have left. -/
def departures (moments : List Moment) (gid : Gid) : Nat := moments.countP (·.departs gid)

/-- The owner of the endpoint destroys it. -/
def destroys (moment : Moment) (gid : Gid) : Bool :=
  match moment.act.operation with
  | .destroyEndpoint handle => handle.gid = gid
  | _ => false

theorem destroys_iff {moment : Moment} {gid : Gid} :
    moment.destroys gid = true ↔
      ∃ handle, moment.act.operation = .destroyEndpoint handle ∧ handle.gid = gid := by
  unfold destroys
  constructor
  · intro h
    split at h
    · next handle hoperation => exact ⟨handle, hoperation, of_decide_eq_true h⟩
    · cases h
  · rintro ⟨handle, hoperation, hgid⟩
    rw [hoperation]
    exact decide_eq_true hgid

theorem departures_cons (moment : Moment) (earlier : List Moment) (gid : Gid) :
    departures (moment :: earlier) gid =
      departures earlier gid + if moment.departs gid then 1 else 0 :=
  List.countP_cons

/-- Who is there afterwards has not left. -/
theorem departs_eq_false_of_after (moment : Moment) {gid : Gid}
    (h : (moment.after.endpoints.find? gid).isSome) : moment.departs gid = false := by
  unfold departs
  rw [Table.contains, Table.contains, h, Bool.not_true, Bool.and_false]

/-- Who was not there before has not left. -/
theorem departs_eq_false_of_before (moment : Moment) {gid : Gid}
    (h : moment.before.endpoints.find? gid = none) : moment.departs gid = false := by
  unfold departs
  rw [Table.contains, h, Option.isSome_none, Bool.false_and]

theorem departs_eq_true (moment : Moment) {gid : Gid}
    (hbefore : (moment.before.endpoints.find? gid).isSome)
    (hafter : moment.after.endpoints.find? gid = none) : moment.departs gid = true := by
  unfold departs
  rw [Table.contains, Table.contains, hbefore, hafter]
  rfl

/-- Nobody leaves when an endpoint is added. -/
theorem departs_of_add (moment : Moment) {gid : Gid} {new : Endpoint} {core : Option Core}
    {graph : Graph} {notices : List Notice}
    (hadd : moment.before.addEndpoint gid new core = .ok (graph, notices))
    (hafter : moment.after.endpoints = graph.endpoints) (k : Gid) : moment.departs k = false := by
  cases hbefore : moment.before.endpoints.find? k with
  | none => exact moment.departs_eq_false_of_before hbefore
  | some record =>
    refine moment.departs_eq_false_of_after ?_
    rw [hafter, Graph.find?_addEndpoint_old hadd hbefore]
    rfl

/-- Only the endpoint that is removed leaves. -/
theorem departs_of_remove (moment : Moment) {gid : Gid} {graph : Graph} {notices : List Notice}
    (hrem : moment.before.removeEndpoint gid = some (graph, notices))
    (hafter : moment.after.endpoints = graph.endpoints) (k : Gid) :
    moment.departs k = decide (k = gid) := by
  obtain ⟨gone, hgone, -, -, hfind, -⟩ := Graph.removeEndpoint_eq_some hrem
  have hk := hfind k
  rw [← hafter] at hk
  by_cases heq : k = gid
  · subst heq
    rw [if_pos rfl] at hk
    rw [moment.departs_eq_true (by rw [hgone]; rfl) hk, decide_eq_true rfl]
  · rw [if_neg heq] at hk
    rw [decide_eq_false heq]
    cases hbefore : moment.before.endpoints.find? k with
    | none => exact moment.departs_eq_false_of_before hbefore
    | some record =>
      refine moment.departs_eq_false_of_after ?_
      rw [hk, hbefore]
      rfl

end Moment

/-! ## Signals -/

/-- What the program signals to endpoints at a moment, in order. -/
inductive Moment.Signals (moment : Moment) : List (Gid × Channel) → Prop
  /-- A message goes to each receiver. -/
  | sent {receivers : List Gid} (hsame : moment.after.endpoints = moment.before.endpoints)
      (hcreated : Operation.created moment.act.reply = none)
      (harrivals : ∀ gid, receivers.count gid = moment.arrivals gid) :
      Signals moment (receivers.map fun gid => (gid, .data))
  | added {gid : Gid} {new : Endpoint} {fresh : Option Core} {graph : Graph}
      {notices : List Notice}
      (hadd : moment.before.addEndpoint gid new fresh = .ok (graph, notices))
      (hafter : moment.after.endpoints = graph.endpoints)
      (hcreated : ∀ handle, Operation.created moment.act.reply = some handle →
        ∃ node core, gid = handle.gid ∧ new = handle.record node ∧ fresh = some core)
      (hsilent : ∀ gid, moment.arrivals gid = 0) : Signals moment (notices.map Notice.signal)
  | removed {gid : Gid} {graph : Graph} {notices : List Notice}
      (hrem : moment.before.removeEndpoint gid = some (graph, notices))
      (hafter : moment.after.endpoints = graph.endpoints)
      (hcreated : Operation.created moment.act.reply = none)
      (hsilent : ∀ gid, moment.arrivals gid = 0) : Signals moment (notices.map Notice.signal)

namespace Moment

variable {moment : Moment} {handle : Handle} {notices : List Notice} {signals : List (Gid × Channel)}

/-- Nothing is delivered with notices. -/
theorem count_signal_data (notices : List Notice) (gid : Gid) :
    (notices.map Notice.signal).count (gid, .data) = 0 := by
  rw [List.count_eq_zero]
  intro hmem
  obtain ⟨notice, -, heq⟩ := List.mem_map.1 hmem
  cases (Prod.mk.inj heq).2

/-- The notices of a book that an endpoint is told are its events. -/
theorem Tells.count_signal (h : moment.Tells handle notices) (slot : StatusSlot) :
    (notices.map Notice.signal).count (handle.gid, .status slot) = moment.events handle slot := by
  have hcount : (notices.map Notice.signal).count (handle.gid, .status slot) =
      (notices.filter (·.endpoint = handle.gid)).countP (·.slot = slot) := by
    rw [List.countP_filter, List.count, List.countP_map]
    refine List.countP_congr fun notice _ => ?_
    simp [Notice.signal, and_comm]
  have hslot (l : List Notice) : l.countP (·.slot = slot) =
      l.countP (·.raises slot) + if slot = .matched then l.countP (·.isLoss) else 0 := by
    induction l with
    | nil => split <;> rfl
    | cons notice rest ih =>
      simp only [List.countP_cons, ih]
      cases notice <;> cases slot <;> simp [Notice.raises, Notice.slot, Notice.isLoss] <;> omega
  rw [hcount, hslot, ← h.entered, ← h.parted]
  cases slot <;> rfl

/-- What an endpoint that was there is told. -/
theorem Signals.exists_tells (h : moment.Signals signals) (hmatched : moment.before.Matched)
    {node : Node} {record : Endpoint} (htopic : handle.kind.isTopic = true)
    (hrecord : moment.before.endpoints.find? handle.gid = some record)
    (hblank : record.blank = handle.record node)
    (hafter : (moment.after.endpoints.find? handle.gid).isSome) :
    ∃ notices, moment.Tells handle notices ∧ ∀ slot,
      signals.count (handle.gid, .status slot) =
        (notices.map Notice.signal).count (handle.gid, .status slot) := by
  cases h with
  | sent hsame hcreated harrivals =>
    refine ⟨[], .nothing hsame hrecord, fun slot => ?_⟩
    rw [List.map_nil, List.count_nil, List.count_eq_zero]
    intro hmem
    obtain ⟨gid, -, heq⟩ := List.mem_map.1 hmem
    cases (Prod.mk.inj heq).2
  | added hadd hgraph => exact ⟨_, .addOld hadd hgraph hmatched htopic hblank hrecord, fun _ => rfl⟩
  | @removed gid graph notices hrem hgraph =>
    have hkind : record.kind.isTopic = true := congrArg Endpoint.kind hblank ▸ htopic
    have hne : handle.gid ≠ gid := by
      obtain ⟨gone, -, -, -, hfind, -⟩ := Graph.removeEndpoint_eq_some hrem
      rintro rfl
      rw [hgraph, hfind, if_pos rfl] at hafter
      cases hafter
    exact ⟨_, .remove hmatched hkind (congrArg Endpoint.isLocal hblank) hrecord hrem hgraph hne,
      fun _ => rfl⟩

theorem Signals.count_data (h : moment.Signals signals) (gid : Gid) :
    signals.count (gid, .data) = moment.arrivals gid := by
  cases h with
  | sent hsame hcreated harrivals =>
    rw [← harrivals]
    exact List.count_map_of_injective _ _ (fun a b h => (Prod.mk.inj h).1) gid
  | added hadd hgraph hcreated hsilent => rw [count_signal_data, hsilent]
  | removed hrem hgraph hcreated hsilent => rw [count_signal_data, hsilent]

/-- An endpoint that stays has as many events as it gets signals. -/
theorem Signals.count_eq (h : moment.Signals signals) (hmatched : moment.before.Matched)
    {node : Node} {record : Endpoint}
    (hrecord : moment.before.endpoints.find? handle.gid = some record)
    (hblank : record.blank = handle.record node)
    (hafter : (moment.after.endpoints.find? handle.gid).isSome) {channel : Channel}
    (hchannel : channel = .data ∨ handle.kind.isTopic = true) :
    signals.count (handle.gid, channel) = moment.occurred handle channel := by
  cases channel with
  | data => exact h.count_data handle.gid
  | status slot =>
    have htopic := hchannel.resolve_left nofun
    obtain ⟨notices, htells, hsame⟩ := h.exists_tells hmatched htopic hrecord hblank hafter
    rw [hsame, htells.count_signal]
    rfl

/-- A new endpoint was not there. -/
theorem Signals.find?_new (h : moment.Signals signals)
    (hcreated : Operation.created moment.act.reply = some handle) :
    moment.before.endpoints.find? handle.gid = none := by
  cases h with
  | sent hsame hnone => rw [hcreated] at hnone; cases hnone
  | removed hrem hgraph hnone => rw [hcreated] at hnone; cases hnone
  | added hadd hgraph hnew =>
    obtain ⟨node, core, rfl, -⟩ := hnew handle hcreated
    exact (Graph.addEndpoint_eq_ok hadd).1

/-- A new endpoint has as many events as it gets signals. -/
theorem Signals.count_new (h : moment.Signals signals)
    (hcreated : Operation.created moment.act.reply = some handle) {channel : Channel}
    (hchannel : channel = .data ∨ handle.kind.isTopic = true) :
    signals.count (handle.gid, channel) = moment.occurred handle channel := by
  cases channel with
  | data => exact h.count_data handle.gid
  | status slot =>
    have htopic := hchannel.resolve_left nofun
    cases h with
    | sent hsame hnone => rw [hcreated] at hnone; cases hnone
    | removed hrem hgraph hnone => rw [hcreated] at hnone; cases hnone
    | added hadd hgraph hnew =>
      obtain ⟨node, core, rfl, rfl, rfl⟩ := hnew handle hcreated
      exact (Tells.addNew hadd hgraph htopic).count_signal slot

end Moment

/-! ## Lives -/

/-- An endpoint lives, and these are the moments of a trail since its creation, latest first.  The
number tells how many endpoints with its identifier left before. -/
inductive Lives (handle : Handle) : List Moment → List Moment → Nat → Prop
  | create {earlier : List Moment} {creation : Moment} {node : Node} {kind : EndpointKind}
      {name typeName : String} {qos : Qos.Profile} {ignoresLocal : Bool}
      (hcreation : creation.act =
        ⟨.createEndpoint node kind name typeName qos ignoresLocal, .ok (.endpoint handle)⟩) :
      Lives handle (creation :: earlier) [creation] (Moment.departures earlier handle.gid)
  | live {moments life : List Moment} {n : Nat} (h : Lives handle moments life n) {moment : Moment}
      (hkeeps : moment.destroys handle.gid = false) : Lives handle (moment :: moments) (moment :: life) n

/-- An endpoint lived through these moments of a trail, until it was destroyed. -/
inductive Lived (handle : Handle) : List Moment → List Moment → Nat → Prop
  | destroy {moments life : List Moment} {n : Nat} (h : Lives handle moments life n)
      {moment : Moment} (hdestroys : moment.destroys handle.gid = true) :
      Lived handle (moment :: moments) life n
  | pass {moments life : List Moment} {n : Nat} (h : Lived handle moments life n)
      (moment : Moment) : Lived handle (moment :: moments) life n

/-- The record of a registered endpoint is there. -/
theorem Graph.Registers.isSome_find? {graph : Graph} {node : Node} {handle : Handle}
    {ignoresLocal : Bool} (h : graph.Registers node handle ignoresLocal) :
    (graph.endpoints.find? handle.gid).isSome := by
  obtain ⟨⟨record, hrecord, -⟩, -⟩ := h.exists_find?
  rw [hrecord]
  rfl

namespace Context

variable {ctx : Context} {moments life : List Moment} {handle : Handle} {n : Nat}

/-- An endpoint that lives is registered, and none with its identifier has left since. -/
theorem Trail.registers (h : Trail ctx moments) (hlives : Lives handle moments life n) :
    n = Moment.departures moments handle.gid ∧
      ∃ node ignoresLocal, ctx.graph.Registers node handle ignoresLocal := by
  induction h generalizing life n with
  | create => cases hlives
  | @perform ctx moments htrail operation _ ih =>
    cases hlives with
    | create hcreation =>
      obtain ⟨rfl, hreply⟩ := Act.mk.inj hcreation
      obtain ⟨rfl, hregisters⟩ := ctx.registers_createEndpoint hreply
      refine ⟨?_, _, _, hregisters⟩
      rw [Moment.departures_cons, Moment.departs_eq_false_of_after _ hregisters.isSome_find?]
      rfl
    | @live _ life n hlives _ hkeeps =>
      obtain ⟨rfl, node, ignoresLocal, hregisters⟩ := ih hlives
      obtain ⟨⟨record, hrecord, -⟩, core, hcore, -⟩ := hregisters.exists_find?
      have hstill := (operation.effect ctx).registration hrecord hcore fun other hoperation hgid => by
        rw [Moment.destroys_iff.2 ⟨other, hoperation, hgid⟩] at hkeeps
        cases hkeeps
      have hregisters' : (operation.perform ctx).2.graph.Registers node handle ignoresLocal :=
        hstill.trans hregisters
      refine ⟨?_, node, ignoresLocal, hregisters'⟩
      rw [Moment.departures_cons, Moment.departs_eq_false_of_after _ hregisters'.isSome_find?]
      rfl
  | startWait _ id handles timeout now ih =>
    rw [graph_startWait]
    exact ih hlives
  | resumeWait _ session now ih =>
    rw [graph_resumeWait]
    exact ih hlives

theorem find?_destroyEndpoint (ctx : Context) (handle : Handle) :
    (ctx.destroyEndpoint handle).2.graph.endpoints.find? handle.gid = none := by
  unfold destroyEndpoint
  split
  · next graph notices hrem =>
    obtain ⟨gone, -, -, -, hfind, -⟩ := Graph.removeEndpoint_eq_some hrem
    rw [(still_change ..).endpoints, hfind, if_pos rfl]
  · next hrem =>
    unfold Graph.removeEndpoint at hrem
    split at hrem
    · assumption
    · cases hrem

/-- An endpoint that was destroyed has left. -/
theorem Trail.lt_departures (h : Trail ctx moments) (hlived : Lived handle moments life n) :
    n < Moment.departures moments handle.gid := by
  induction h generalizing life n with
  | create => cases hlived
  | @perform ctx moments htrail operation _ ih =>
    rw [Moment.departures_cons]
    cases hlived with
    | destroy hlives hdestroys =>
      obtain ⟨rfl, node, ignoresLocal, hregisters⟩ := htrail.registers hlives
      obtain ⟨other, hoperation, hgid⟩ := Moment.destroys_iff.1 hdestroys
      obtain rfl : operation = .destroyEndpoint other := hoperation
      have hgone := ctx.find?_destroyEndpoint other
      rw [hgid] at hgone
      rw [Moment.departs_eq_true _ hregisters.isSome_find? hgone]
      exact Nat.lt_succ_self _
    | pass hlived =>
      have hlt := ih hlived
      omega
  | startWait _ id handles timeout now ih => exact ih hlived
  | resumeWait _ session now ih => exact ih hlived

end Context

end PubSub
