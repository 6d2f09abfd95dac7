import PubSub.Proofs.Graph.Matching
import PubSub.Proofs.Wait.Sound

/-!
# Readiness under concurrent steps

A source is ready if a poll would find it so.  Takers, polls of other waits, callbacks and changes of
the graph make nothing ready, and an incident makes at most the channel ready on which it shows.
-/

namespace PubSub

/-! ## Readiness of cores -/

namespace Core

variable {core : Core} {channel : Channel}

theorem isReady_setNotifier (core : Core) (channel channel' : Channel) (notifier : Notifier) :
    (core.setNotifier channel notifier).isReady channel' = core.isReady channel' := by
  rcases channel with _ | (_ | _ | _) <;> rcases channel' with _ | (_ | _ | _) <;> rfl

/-- An incident shows on its own channel only. -/
theorem isReady_apply (core : Core) {incident : Incident} (h : channel ≠ incident.channel) :
    (incident.apply core).isReady channel = core.isReady channel := by
  cases incident <;> rcases channel with _ | (_ | _ | _) <;>
    first | rfl | exact absurd rfl h

theorem isReady_dequeue (h : core.dequeue.2.isReady channel = true) :
    core.isReady channel = true := by
  unfold Core.dequeue at h
  split at h
  · exact h
  · next message rest hinbox =>
    cases channel with
    | data =>
      show (!core.inbox.isEmpty) = true
      rw [hinbox]
      rfl
    | status slot => cases slot <;> exact h

theorem hasChanges_taken (core : Core) (slot : StatusSlot) :
    ((core.takeStatus slot).status slot).hasChanges = false := by
  cases slot <;> rfl

theorem isReady_takeStatus {slot : StatusSlot} (h : (core.takeStatus slot).isReady channel = true) :
    core.isReady channel = true := by
  cases channel with
  | data => cases slot <;> exact h
  | status slot' =>
    by_cases hslot : slot' = slot
    · subst hslot
      exact absurd (h.symm.trans (core.hasChanges_taken slot')) (by decide)
    · cases slot <;> cases slot' <;> first | exact h | exact absurd rfl hslot

end Core

/-! ## Readiness of sources -/

namespace Context

variable {ctx ctx' : Context} {source : Source}

/-- Readiness depends on the cores and on the guards that are triggered. -/
theorem isReady_congr (h : ctx'.IsReady source) (hlocals : ctx'.graph.locals = ctx.graph.locals)
    (hguards : ∀ g, ctx'.board.isTriggered g = ctx.board.isTriggered g) : ctx.IsReady source := by
  cases source with
  | endpoint gid channel =>
    have h : (ctx'.graph.locals.find? gid).any (·.isReady channel) = true := h
    rw [hlocals] at h
    exact h
  | guard g => exact (hguards g).symm.trans h

theorem isReady_of_poll {polled : Source} (h : (ctx.poll polled).2.IsReady source) :
    ctx.IsReady source := by
  cases polled with
  | endpoint gid channel => exact h
  | guard g =>
    cases source with
    | endpoint gid channel => exact h
    | guard g' => exact (Switchboard.isTriggered_consume h).1

theorem Footprint.isReady {held : List Source} {id : WaitSetId} (h : Footprint held id ctx ctx')
    (hready : ctx'.IsReady source) : ctx.IsReady source := by
  cases source with
  | endpoint gid channel =>
    have hready : (ctx'.graph.locals.find? gid).any (·.isReady channel) = true := hready
    rw [h.graph] at hready
    exact hready
  | guard g => exact h.guards g hready

/-- A source that was polled and found not ready is not ready afterwards. -/
theorem not_isReady_poll (h : (ctx.poll source).1 = false) :
    ¬ (ctx.poll source).2.IsReady source := by
  cases source with
  | endpoint gid channel => exact fun hready => Bool.false_ne_true (h.symm.trans hready)
  | guard g => exact fun hready => (Switchboard.isTriggered_consume hready).2 rfl

/-- Triggering a guard makes nothing else ready. -/
theorem isReady_trigger {guard : GuardId}
    (h : Context.IsReady
      { ctx with board := { ctx.board with guards := ctx.board.guards.set guard true } } source) :
    ctx.IsReady source ∨ source = .guard guard := by
  cases source with
  | endpoint gid channel => exact Or.inl h
  | guard g =>
    by_cases hg : guard = g
    · exact Or.inr (hg ▸ rfl)
    · have h : (ctx.board.guards.set guard true).getD g false = true := h
      rw [List.getD_eq_getElem?_getD, List.getElem?_set_ne hg, ← List.getD_eq_getElem?_getD] at h
      exact Or.inl h

/-- A change of a core makes only channels ready that it makes ready at the core. -/
theorem isReady_modifyCore {gid : Gid} {f : Core → Core}
    (h : Context.IsReady { ctx with graph := ctx.graph.modifyCore gid f } source) :
    ctx.IsReady source ∨ ∃ core channel, ctx.graph.locals.find? gid = some core ∧
      source = .endpoint gid channel ∧ (f core).isReady channel = true := by
  cases source with
  | endpoint k channel =>
    unfold IsReady poll Graph.modifyCore at *
    dsimp only at h ⊢
    rw [Table.find?_modify] at h
    by_cases hk : k = gid
    · subst hk
      rw [if_pos rfl] at h
      cases hcore : ctx.graph.locals.find? k with
      | none =>
        rw [hcore] at h
        cases h
      | some core =>
        rw [hcore] at h
        exact Or.inr ⟨core, channel, rfl, rfl, h⟩
    · rw [if_neg hk] at h
      exact Or.inl h
  | guard g => exact Or.inl h

/-- A change of a core that makes no channel ready makes no source ready. -/
theorem isReady_of_modifyCore {gid : Gid} {f : Core → Core}
    (h : Context.IsReady { ctx with graph := ctx.graph.modifyCore gid f } source)
    (hf : ∀ core, ctx.graph.locals.find? gid = some core →
      ∀ channel, (f core).isReady channel = true → core.isReady channel = true) :
    ctx.IsReady source := by
  rcases isReady_modifyCore h with hready | ⟨core, channel, hcore, rfl, hready⟩
  · exact hready
  · unfold IsReady poll
    dsimp only
    rw [hcore]
    exact hf core hcore channel hready

theorem isReady_take {gid : Gid} (h : (ctx.take gid).2.IsReady source) : ctx.IsReady source := by
  unfold take at h
  split at h
  · exact h
  · next core hcore =>
    refine isReady_of_modifyCore h fun core' hcore' channel hready => ?_
    obtain rfl : core = core' := Option.some.inj (hcore.symm.trans hcore')
    exact Core.isReady_dequeue hready

theorem isReady_takeStatus {gid : Gid} {slot : StatusSlot}
    (h : IsReady { ctx with graph := ctx.graph.modifyCore gid (·.takeStatus slot) } source) :
    ctx.IsReady source :=
  isReady_of_modifyCore h fun _ _ _ hready => Core.isReady_takeStatus hready

theorem isReady_dispatch {job : Option Job} (h : (ctx.dispatch job).IsReady source) :
    ctx.IsReady source := by
  cases job <;> exact isReady_congr h rfl fun _ => rfl

theorem isReady_callBack {gid : Gid} {channel : Channel}
    (h : (ctx.callBack gid channel).IsReady source) : ctx.IsReady source := by
  unfold callBack at h
  split at h
  · exact h
  · next core hcore =>
    refine isReady_of_modifyCore (isReady_dispatch h) fun core' _ channel' hready => ?_
    rwa [Core.isReady_setNotifier] at hready

theorem isReady_setCallback {gid : Gid} {channel : Channel} {callback : Option CallbackId}
    (h : (ctx.setCallback gid channel callback).IsReady source) : ctx.IsReady source := by
  unfold setCallback at h
  split at h
  · exact h
  · next core hcore =>
    refine isReady_of_modifyCore (isReady_dispatch h) fun core' _ channel' hready => ?_
    rwa [Core.isReady_setNotifier] at hready

theorem isReady_nextSequence {gid : Gid} (h : (ctx.nextSequence gid).2.IsReady source) :
    ctx.IsReady source := by
  refine isReady_of_modifyCore h fun core _ channel hready => ?_
  rcases channel with _ | (_ | _ | _) <;> exact hready

/-- Another graph makes nothing ready if each of its cores is the same as before or not ready. -/
theorem isReady_of_locals {graph : Graph} (h : IsReady { ctx with graph } source)
    (hlocals : ∀ k core, graph.locals.find? k = some core →
      ctx.graph.locals.find? k = some core ∨ ∀ channel, core.isReady channel = false) :
    ctx.IsReady source := by
  cases source with
  | endpoint k channel =>
    have h : (graph.locals.find? k).any (·.isReady channel) = true := h
    obtain ⟨core, hcore, hready⟩ := (Option.any_eq_true _ _).1 h
    rcases hlocals k core hcore with hold | hnot
    · exact (Option.any_eq_true _ _).2 ⟨core, hold, hready⟩
    · cases (hnot channel).symm.trans hready
  | guard g => exact h

theorem isReady_addEndpoint {gid : Gid} {record : Endpoint} {fresh : Option Core} {graph : Graph}
    {notices : List Notice} (hadd : ctx.graph.addEndpoint gid record fresh = .ok (graph, notices))
    (hfresh : ∀ core, fresh = some core → ∀ channel, core.isReady channel = false)
    (h : IsReady { ctx with graph } source) : ctx.IsReady source := by
  obtain ⟨-, -, -, -, hlocals, -⟩ := Graph.addEndpoint_eq_ok hadd
  refine isReady_of_locals h fun k core hcore => ?_
  rw [hlocals] at hcore
  split at hcore
  · exact Or.inr (hfresh core hcore)
  · exact Or.inl hcore

theorem isReady_removeEndpoint {gid : Gid} {graph : Graph} {notices : List Notice}
    (hrem : ctx.graph.removeEndpoint gid = some (graph, notices))
    (h : IsReady { ctx with graph } source) : ctx.IsReady source := by
  obtain ⟨-, -, -, -, -, hlocals, -⟩ := Graph.removeEndpoint_eq_some hrem
  refine isReady_of_locals h fun k core hcore => ?_
  rw [hlocals] at hcore
  split at hcore
  · cases hcore
  · exact Or.inl hcore

theorem isReady_addNode {gid : Gid} {info : NodeInfo} {graph : Graph}
    (hadd : ctx.graph.addNode gid info = some graph) (h : IsReady { ctx with graph } source) :
    ctx.IsReady source := by
  unfold Graph.addNode at hadd
  split at hadd
  · cases hadd
  · cases hadd
    exact isReady_congr h rfl fun _ => rfl

theorem isReady_removeNode {gid : Gid} {graph : Graph}
    (hrem : ctx.graph.removeNode gid = some graph) (h : IsReady { ctx with graph } source) :
    ctx.IsReady source := by
  unfold Graph.removeNode at hrem
  split at hrem
  · cases hrem
    exact isReady_congr h rfl fun _ => rfl
  · cases hrem

end Context

end PubSub
