import PubSub.Context.Message

/-!
# Events at endpoints

Messages and notices reach an endpoint through `Context.signal`, which changes one core, queues at
most one job and signals the drivers of those who wait.  This file says what an event leaves alone:
`Graph.Kept` relates two graphs whose endpoints are the same but for the messages that wait at them
and for their statuses, and `Graph.Still` two graphs in which the messages are the same as well, as
they are when notices are delivered after a change (`Context.still_change`).
-/

namespace PubSub

/-! ## Queues -/

/-- Room for another message is made by dropping the oldest ones, as few as possible. -/
theorem makeRoom_eq_some {capacity : Nat} (h : 0 < capacity) (inbox : List Message) :
    makeRoom capacity inbox = some (inbox.drop (inbox.length + 1 - capacity)) := by
  induction inbox with
  | nil => simp [makeRoom, Nat.ne_of_gt h]
  | cons message rest ih =>
    unfold makeRoom
    simp only [List.length_cons]
    split
    · next hle =>
      rw [ih, show rest.length + 1 + 1 - capacity = rest.length + 1 - capacity + 1 by omega]
      rfl
    · next hgt =>
      rw [show rest.length + 1 + 1 - capacity = 0 by omega]
      rfl

namespace Core

/-- The queue is within its bound, which leaves room for one message at least. -/
def Fits (core : Core) : Prop :=
  ∀ n, core.capacity = some n → 0 < n ∧ core.inbox.length ≤ n

/-- A queue within its bound loses its oldest message if it is full, and nothing otherwise. -/
theorem Fits.kept_eq {core : Core} (h : core.Fits) :
    core.kept = if core.capacity = some core.inbox.length then core.inbox.tail else core.inbox := by
  unfold kept
  cases hc : core.capacity with
  | none => simp
  | some n =>
    obtain ⟨hpos, hle⟩ := h n hc
    simp only [makeRoom_eq_some hpos, Option.getD_some, Option.some.injEq]
    split
    · next hn =>
      rw [show core.inbox.length + 1 - n = 1 by omega, List.drop_one]
    · next hn =>
      rw [show core.inbox.length + 1 - n = 0 by omega, List.drop_zero]

theorem Fits.enqueue {core : Core} (h : core.Fits) (message : Message) :
    (core.enqueue message).Fits := by
  intro n hn
  obtain ⟨hpos, hle⟩ := h n hn
  refine ⟨hpos, ?_⟩
  show (core.kept ++ [message]).length ≤ n
  have hn : core.capacity = some n := hn
  simp only [h.kept_eq, hn, Option.some.injEq]
  split
  · simp only [List.length_append, List.length_tail, List.length_singleton]
    omega
  · simp only [List.length_append, List.length_singleton]
    omega

/-- No event at an endpoint changes what the endpoint is, and none overfills its queue. -/
structure Kept (core core' : Core) : Prop where
  kind : core'.kind = core.kind
  ignoresLocal : core'.ignoresLocal = core.ignoresLocal
  capacity : core'.capacity = core.capacity
  sent : core'.sent = core.sent
  fits : core.Fits → core'.Fits

namespace Kept

theorem refl (core : Core) : core.Kept core := ⟨rfl, rfl, rfl, rfl, id⟩

theorem trans {a b c : Core} (h : a.Kept b) (h' : b.Kept c) : a.Kept c :=
  ⟨h'.kind.trans h.kind, h'.ignoresLocal.trans h.ignoresLocal, h'.capacity.trans h.capacity,
    h'.sent.trans h.sent, h'.fits ∘ h.fits⟩

theorem setNotifier (core : Core) (channel : Channel) (notifier : Notifier) :
    core.Kept (core.setNotifier channel notifier) := by
  rcases channel with _ | (_ | _ | _) <;> exact ⟨rfl, rfl, rfl, rfl, id⟩

theorem enqueue (core : Core) (message : Message) : core.Kept (core.enqueue message) :=
  ⟨rfl, rfl, rfl, rfl, fun h => h.enqueue message⟩

theorem dequeue (core : Core) : core.Kept core.dequeue.2 := by
  unfold Core.dequeue
  split
  · exact refl core
  · next message rest hinbox =>
    refine ⟨rfl, rfl, rfl, rfl, fun h n hn => ?_⟩
    obtain ⟨hpos, hle⟩ := h n hn
    rw [hinbox, List.length_cons] at hle
    exact ⟨hpos, Nat.le_of_succ_le hle⟩

theorem takeStatus (core : Core) (slot : StatusSlot) : core.Kept (core.takeStatus slot) := by
  cases slot <;> exact ⟨rfl, rfl, rfl, rfl, id⟩

end Kept

/-- The queue with its bound. -/
def box (core : Core) : Option Nat × List Message :=
  (core.capacity, core.inbox)

@[simp] theorem box_setNotifier (core : Core) (channel : Channel) (notifier : Notifier) :
    (core.setNotifier channel notifier).box = core.box := by
  rcases channel with _ | (_ | _ | _) <;> rfl

@[simp] theorem box_takeStatus (core : Core) (slot : StatusSlot) :
    (core.takeStatus slot).box = core.box := by
  cases slot <;> rfl

@[simp] theorem inbox_setNotifier (core : Core) (channel : Channel) (notifier : Notifier) :
    (core.setNotifier channel notifier).inbox = core.inbox := by
  rcases channel with _ | (_ | _ | _) <;> rfl

@[simp] theorem matched_setNotifier (core : Core) (channel : Channel) (notifier : Notifier) :
    (core.setNotifier channel notifier).matched = core.matched := by
  rcases channel with _ | (_ | _ | _) <;> rfl

end Core

/-! ## Graphs that differ in their cores -/

namespace Graph

/-- The endpoints are the same, and their cores differ only in what events at endpoints change. -/
structure Kept (graph graph' : Graph) : Prop where
  endpoints : graph'.endpoints = graph.endpoints
  isSome_locals : ∀ k, (graph'.locals.find? k).isSome = (graph.locals.find? k).isSome
  locals : ∀ {k core}, graph.locals.find? k = some core →
    ∃ core', graph'.locals.find? k = some core' ∧ core.Kept core'

theorem find?_modifyCore (graph : Graph) (gid : Gid) (f : Core → Core) (k : Gid) :
    (graph.modifyCore gid f).locals.find? k =
      if k = gid then (graph.locals.find? k).map f else graph.locals.find? k :=
  Table.find?_modify ..

theorem isSome_find?_modifyCore (graph : Graph) (gid : Gid) (f : Core → Core) (k : Gid) :
    ((graph.modifyCore gid f).locals.find? k).isSome = (graph.locals.find? k).isSome := by
  rw [find?_modifyCore]
  split
  · rw [Option.isSome_map]
  · rfl

/-- The messages that wait at an endpoint. -/
def queue (graph : Graph) (gid : Gid) : List Message :=
  ((graph.locals.find? gid).map (·.inbox)).getD []

theorem queue_eq {graph : Graph} {gid : Gid} {core : Core}
    (h : graph.locals.find? gid = some core) : graph.queue gid = core.inbox := by
  rw [queue, h]
  rfl

/-- The queue of a local endpoint with its bound. -/
def box (graph : Graph) (gid : Gid) : Option (Option Nat × List Message) :=
  (graph.locals.find? gid).map Core.box

theorem box_modifyCore (graph : Graph) (gid : Gid) {f : Core → Core}
    (hf : ∀ core, graph.locals.find? gid = some core → (f core).box = core.box) (k : Gid) :
    (graph.modifyCore gid f).box k = graph.box k := by
  unfold box
  rw [find?_modifyCore]
  split
  · next heq =>
    subst heq
    cases hcore : graph.locals.find? k with
    | none => rfl
    | some core => exact congrArg some (hf core hcore)
  · rfl

/-- The cores differ in nothing but statuses and notifiers. -/
structure Still (graph graph' : Graph) : Prop extends Kept graph graph' where
  box : ∀ k, graph'.box k = graph.box k

namespace Kept

variable {graph graph' graph'' : Graph}

theorem refl (graph : Graph) : graph.Kept graph :=
  ⟨rfl, fun _ => rfl, fun {_ core} h => ⟨core, h, .refl core⟩⟩

theorem trans (h : graph.Kept graph') (h' : graph'.Kept graph'') : graph.Kept graph'' := by
  refine ⟨h'.endpoints.trans h.endpoints, fun k => (h'.isSome_locals k).trans (h.isSome_locals k),
    fun {k core} hk => ?_⟩
  obtain ⟨core', hk', hkept⟩ := h.locals hk
  obtain ⟨core'', hk'', hkept'⟩ := h'.locals hk'
  exact ⟨core'', hk'', hkept.trans hkept'⟩

theorem modifyCore (graph : Graph) (gid : Gid) {f : Core → Core}
    (hf : ∀ core, graph.locals.find? gid = some core → core.Kept (f core)) :
    graph.Kept (graph.modifyCore gid f) := by
  refine ⟨rfl, isSome_find?_modifyCore graph gid f, fun {k core} hk => ?_⟩
  rw [find?_modifyCore]
  split
  · next hkg =>
    subst hkg
    exact ⟨f core, by rw [hk]; rfl, hf core hk⟩
  · exact ⟨core, hk, .refl core⟩

end Kept

namespace Still

variable {graph graph' graph'' : Graph}

theorem refl (graph : Graph) : graph.Still graph := ⟨.refl graph, fun _ => rfl⟩

theorem trans (h : graph.Still graph') (h' : graph'.Still graph'') : graph.Still graph'' :=
  ⟨h.toKept.trans h'.toKept, fun k => (h'.box k).trans (h.box k)⟩

theorem modifyCore (graph : Graph) (gid : Gid) {f : Core → Core}
    (hf : ∀ core, graph.locals.find? gid = some core → core.Kept (f core) ∧ (f core).box = core.box) :
    graph.Still (graph.modifyCore gid f) :=
  ⟨.modifyCore graph gid fun core hcore => (hf core hcore).1,
    box_modifyCore graph gid fun core hcore => (hf core hcore).2⟩

theorem takeStatus (graph : Graph) (gid : Gid) (slot : StatusSlot) :
    graph.Still (graph.modifyCore gid (·.takeStatus slot)) :=
  .modifyCore graph gid fun core _ => ⟨.takeStatus core slot, core.box_takeStatus slot⟩

theorem addNode {gid : Gid} {info : NodeInfo} (h : graph.addNode gid info = some graph') :
    graph.Still graph' := by
  unfold Graph.addNode at h
  split at h <;> cases h
  exact ⟨⟨rfl, fun _ => rfl, fun {_ core} hk => ⟨core, hk, .refl core⟩⟩, fun _ => rfl⟩

theorem removeNode {gid : Gid} (h : graph.removeNode gid = some graph') : graph.Still graph' := by
  unfold Graph.removeNode at h
  split at h <;> cases h
  exact ⟨⟨rfl, fun _ => rfl, fun {_ core} hk => ⟨core, hk, .refl core⟩⟩, fun _ => rfl⟩

end Still

end Graph

/-! ## Signals -/

namespace Context

@[simp] theorem graph_dispatch (ctx : Context) (job : Option Job) :
    (ctx.dispatch job).graph = ctx.graph := by
  cases job <;> rfl

@[simp] theorem board_dispatch (ctx : Context) (job : Option Job) :
    (ctx.dispatch job).board = ctx.board := by
  cases job <;> rfl

/-- The cores after an event at one of them. -/
theorem find?_locals_signal (ctx : Context) (gid : Gid) (channel : Channel) (f : Core → Core)
    (k : Gid) :
    (ctx.signal gid channel f).graph.locals.find? k =
      if k = gid then
        (ctx.graph.locals.find? k).map fun core =>
          (f core).setNotifier channel (core.notifier channel).raise.1
      else ctx.graph.locals.find? k := by
  unfold signal
  split
  · next hnone =>
    split
    · next hk => rw [hk, hnone]; rfl
    · rfl
  · next core hcore =>
    simp only [graph_dispatch, Graph.find?_modifyCore]
    split
    · next hk => rw [hk, hcore]; rfl
    · rfl

section Signal

variable (ctx : Context) (gid : Gid) (channel : Channel) (f : Core → Core)

@[simp] theorem version_signal : (ctx.signal gid channel f).graph.version = ctx.graph.version := by
  unfold signal
  split <;> simp [Graph.modifyCore]

@[simp] theorem nodes_signal : (ctx.signal gid channel f).graph.nodes = ctx.graph.nodes := by
  unfold signal
  split <;> simp [Graph.modifyCore]

@[simp] theorem guards_signal : (ctx.signal gid channel f).board.guards = ctx.board.guards := by
  unfold signal
  split
  · rfl
  · simp only [board_dispatch]
    rfl

end Signal

theorem kept_signal (ctx : Context) (gid : Gid) (channel : Channel) {f : Core → Core}
    (hf : ∀ core : Core, core.Kept (f core)) : ctx.graph.Kept (ctx.signal gid channel f).graph := by
  unfold signal
  split
  · exact .refl _
  · simp only [graph_dispatch]
    exact .modifyCore _ _ fun core _ => (hf core).trans (.setNotifier ..)

theorem kept_deliver (ctx : Context) (gid : Gid) (message : Message) :
    ctx.graph.Kept (ctx.deliver gid message).graph :=
  kept_signal ctx gid .data fun core => Core.Kept.enqueue core message

theorem still_signal (ctx : Context) (gid : Gid) (channel : Channel) {f : Core → Core}
    (hf : ∀ core : Core, core.Kept (f core) ∧ (f core).box = core.box) :
    ctx.graph.Still (ctx.signal gid channel f).graph := by
  unfold signal
  split
  · exact .refl _
  · simp only [graph_dispatch]
    exact .modifyCore _ _ fun core _ =>
      ⟨(hf core).1.trans (.setNotifier ..), (Core.box_setNotifier ..).trans (hf core).2⟩

theorem still_fire (ctx : Context) (notice : Notice) :
    ctx.graph.Still (ctx.fire notice).graph := by
  cases notice <;> exact still_signal _ _ _ fun _ => ⟨⟨rfl, rfl, rfl, rfl, id⟩, rfl⟩

theorem still_announce (ctx : Context) (notices : List Notice) :
    ctx.graph.Still (ctx.announce notices).graph := by
  have hfires : ctx.graph.Still (notices.foldl fire ctx).graph := by
    induction notices generalizing ctx with
    | nil => exact .refl _
    | cons notice rest ih => exact (still_fire ctx notice).trans (ih _)
  exact hfires.trans (.refl _)

/-- After a change of the graph the graph is the changed one, but for the events. -/
theorem still_change (ctx : Context) (graph : Graph) (notices : List Notice) :
    graph.Still (ctx.change graph notices).graph :=
  still_announce { ctx with graph } notices

end Context

end PubSub
