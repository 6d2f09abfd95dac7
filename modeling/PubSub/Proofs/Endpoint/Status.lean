import PubSub.Proofs.Context.Effects

/-!
# What notices make of a status

Each notice is entered in one book.  `EventStatus.note` is one entry, and a change of the graph makes
of the status of an endpoint what its notices do one after the other (`Graph.status_change`).  A total
only ever rises, by the notices that count (`EventStatus.total_foldl_note`).  The number of matches
also falls, and is exact as long as no more matches are lost than there are
(`MatchedStatus.current_foldl_note`).
-/

namespace PubSub

/-! ## Notices and books -/

namespace Notice

/-- The book in which a notice is entered. -/
def slot : Notice → StatusSlot
  | gained _ | lost _ => .matched
  | incompatibleQos .. => .incompatibleQos
  | incompatibleType _ => .incompatibleType

/-- The notice is about a match that ended. -/
def isLoss : Notice → Bool
  | lost _ => true
  | _ => false

/-- The notice raises the total of a book. -/
def raises (slot : StatusSlot) (notice : Notice) : Bool :=
  notice.slot = slot && !notice.isLoss

end Notice

namespace EventStatus

/-- The book that the status is from. -/
def slot : EventStatus → StatusSlot
  | matched _ => .matched
  | incompatibleQos _ => .incompatibleQos
  | incompatibleType _ => .incompatibleType

/-- How many entries were counted. -/
def total : EventStatus → Nat
  | matched status => status.total
  | incompatibleQos status => status.total
  | incompatibleType status => status.total

/-- How many entries were counted since the status was last taken. -/
def totalChange : EventStatus → Int
  | matched status => status.totalChange
  | incompatibleQos status => status.totalChange
  | incompatibleType status => status.totalChange

/-- How many more matches there are than when the status was last taken. -/
def currentChange : EventStatus → Int
  | matched status => status.currentChange
  | _ => 0

/-- The status after it was taken. -/
def taken : EventStatus → EventStatus
  | matched status => matched status.taken
  | incompatibleQos status => incompatibleQos status.taken
  | incompatibleType status => incompatibleType status.taken

/-- The status after a notice, which leaves the other books alone. -/
def note (status : EventStatus) (notice : Notice) : EventStatus :=
  match status, notice with
  | matched status, .gained _ => matched status.gain
  | matched status, .lost _ => matched status.lose
  | incompatibleQos status, .incompatibleQos _ policy => incompatibleQos (status.add policy)
  | incompatibleType status, .incompatibleType _ => incompatibleType status.add
  | status, _ => status

@[simp] theorem slot_note (status : EventStatus) (notice : Notice) :
    (status.note notice).slot = status.slot := by
  cases status <;> cases notice <;> rfl

theorem total_note (status : EventStatus) (notice : Notice) :
    (status.note notice).total = status.total + if notice.raises status.slot then 1 else 0 := by
  cases status <;> cases notice <;> rfl

theorem totalChange_note (status : EventStatus) (notice : Notice) :
    (status.note notice).totalChange =
      status.totalChange + if notice.raises status.slot then 1 else 0 := by
  cases status <;> cases notice <;>
    simp [note, totalChange, Notice.raises, Notice.slot, Notice.isLoss, slot, MatchedStatus.gain,
      MatchedStatus.lose, IncompatibleQosStatus.add, IncompatibleTypeStatus.add]

/-- A total rises by the notices that count. -/
theorem total_foldl_note (status : EventStatus) (notices : List Notice) :
    (notices.foldl note status).total = status.total + notices.countP (·.raises status.slot) := by
  induction notices generalizing status with
  | nil => rfl
  | cons notice rest ih =>
    rw [List.foldl_cons, ih, total_note, slot_note, List.countP_cons]
    omega

theorem totalChange_foldl_note (status : EventStatus) (notices : List Notice) :
    (notices.foldl note status).totalChange =
      status.totalChange + notices.countP (·.raises status.slot) := by
  induction notices generalizing status with
  | nil => exact (Int.add_zero _).symm
  | cons notice rest ih =>
    rw [List.foldl_cons, ih, totalChange_note, slot_note, List.countP_cons]
    split <;> omega

end EventStatus

/-! ## The number of matches -/

/-- The status of matches after a notice. -/
def MatchedStatus.note (status : MatchedStatus) : Notice → MatchedStatus
  | .gained _ => status.gain
  | .lost _ => status.lose
  | _ => status

namespace MatchedStatus

theorem foldl_note (status : MatchedStatus) (notices : List Notice) :
    notices.foldl EventStatus.note (.matched status) = .matched (notices.foldl note status) := by
  induction notices generalizing status with
  | nil => rfl
  | cons notice rest ih =>
    have hnote : (EventStatus.matched status).note notice = .matched (status.note notice) := by
      cases notice <;> rfl
    rw [List.foldl_cons, List.foldl_cons, hnote, ih]

theorem current_note (status : MatchedStatus) {notice : Notice}
    (h : notice.isLoss = true → 0 < status.current) :
    (status.note notice).current + (if notice.isLoss then 1 else 0) =
      status.current + if notice.raises .matched then 1 else 0 := by
  cases notice with
  | gained gid | incompatibleQos gid policy | incompatibleType gid => rfl
  | lost gid => exact Nat.sub_add_cancel (h rfl)

/-- The number of matches is exact if no more are lost than there are. -/
theorem current_foldl_note (status : MatchedStatus) {notices : List Notice}
    (h : notices.countP (·.isLoss) ≤ status.current) :
    (notices.foldl note status).current + notices.countP (·.isLoss) =
      status.current + notices.countP (·.raises .matched) := by
  induction notices generalizing status with
  | nil => rfl
  | cons notice rest ih =>
    rw [List.countP_cons] at h
    have hpos : notice.isLoss = true → 0 < status.current := by
      intro hloss
      rw [if_pos hloss] at h
      omega
    have hnote := status.current_note hpos
    have hrest := ih (status.note notice) (by omega)
    rw [List.foldl_cons, List.countP_cons, List.countP_cons]
    omega

/-- A match that is lost was counted, whatever notices came before in the same change. -/
theorem current_pos_of_lost (status : MatchedStatus) {fired rest : List Notice} {gid : Gid}
    (h : (fired ++ .lost gid :: rest).countP (·.isLoss) ≤ status.current) :
    0 < (fired.foldl note status).current := by
  rw [List.countP_append, List.countP_cons_of_pos rfl] at h
  have := status.current_foldl_note (show fired.countP (·.isLoss) ≤ status.current by omega)
  omega

theorem currentChange_foldl_note (status : MatchedStatus) (notices : List Notice) :
    (notices.foldl note status).currentChange =
      status.currentChange + notices.countP (·.raises .matched) - notices.countP (·.isLoss) := by
  induction notices generalizing status with
  | nil => simp
  | cons notice rest ih =>
    rw [List.foldl_cons, ih, List.countP_cons, List.countP_cons]
    cases notice <;>
      simp [Notice.raises, Notice.isLoss, Notice.slot, note, gain, lose] <;> omega

end MatchedStatus

/-! ## The status of an endpoint -/

theorem Core.slot_status (core : Core) (slot : StatusSlot) : (core.status slot).slot = slot := by
  cases slot <;> rfl

theorem Core.status_setNotifier (core : Core) (channel : Channel) (notifier : Notifier)
    (slot : StatusSlot) : (core.setNotifier channel notifier).status slot = core.status slot := by
  rcases channel with _ | (_ | _ | _) <;> cases slot <;> rfl

theorem Core.status_takeStatus (core : Core) (taken slot : StatusSlot) :
    (core.takeStatus taken).status slot =
      if slot = taken then (core.status slot).taken else core.status slot := by
  cases taken <;> cases slot <;> rfl

namespace Graph

/-- The status in a book of a local endpoint. -/
def status (graph : Graph) (gid : Gid) (slot : StatusSlot) : Option EventStatus :=
  (graph.locals.find? gid).map (·.status slot)

theorem status_eq {graph : Graph} {gid : Gid} {core : Core}
    (h : graph.locals.find? gid = some core) (slot : StatusSlot) :
    graph.status gid slot = some (core.status slot) := by
  rw [status, h]
  rfl

theorem status_alike {ctx ctx' : Context} (h : ctx.Alike ctx') (gid : Gid) (slot : StatusSlot) :
    ctx'.graph.status gid slot = ctx.graph.status gid slot := by
  have houtline (graph : Graph) :
      graph.status gid slot = (graph.outline gid).map (·.status slot) := by
    rw [status, outline, Option.map_map]
    cases slot <;> rfl
  rw [houtline, houtline, h.outline]

theorem status_modifyCore (graph : Graph) (gid : Gid) {f : Core → Core} {slot : StatusSlot}
    (hf : ∀ core, (f core).status slot = core.status slot) (k : Gid) :
    (graph.modifyCore gid f).status k slot = graph.status k slot := by
  unfold status
  rw [find?_modifyCore]
  split
  · rw [Option.map_map]
    exact congrArg (Option.map · _) (funext hf)
  · rfl

end Graph

namespace Context

theorem status_deliver (ctx : Context) (gid : Gid) (message : Message) (k : Gid)
    (slot : StatusSlot) : (ctx.deliver gid message).graph.status k slot = ctx.graph.status k slot := by
  unfold Graph.status deliver
  rw [find?_locals_signal]
  split
  · cases ctx.graph.locals.find? k with
    | none => rfl
    | some core => exact congrArg some ((Core.status_setNotifier ..).trans (by cases slot <;> rfl))
  · rfl

theorem status_deliverAll (ctx : Context) (receivers : List Gid) (message : Message) (k : Gid)
    (slot : StatusSlot) :
    (ctx.deliverAll receivers message).graph.status k slot = ctx.graph.status k slot := by
  unfold deliverAll
  induction receivers generalizing ctx with
  | nil => rfl
  | cons gid rest ih => exact (ih _).trans (ctx.status_deliver gid message k slot)

theorem status_setCallback (ctx : Context) (gid : Gid) (channel : Channel)
    (callback : Option CallbackId) (k : Gid) (slot : StatusSlot) :
    (ctx.setCallback gid channel callback).graph.status k slot = ctx.graph.status k slot := by
  unfold setCallback
  split
  · rfl
  · simp only [graph_dispatch]
    exact Graph.status_modifyCore _ _ (fun core => Core.status_setNotifier ..) k

/-- A notice is entered at the endpoint that is told. -/
theorem status_fire (ctx : Context) (notice : Notice) (k : Gid) (slot : StatusSlot) :
    (ctx.fire notice).graph.status k slot =
      if notice.endpoint = k then (ctx.graph.status k slot).map (·.note notice)
      else ctx.graph.status k slot := by
  cases notice with
  | gained gid | lost gid | incompatibleQos gid policy | incompatibleType gid =>
    unfold fire Graph.status Notice.endpoint
    rw [find?_locals_signal]
    by_cases hk : k = gid
    · rw [if_pos hk, if_pos hk.symm, Option.map_map, Option.map_map]
      congr 1
      funext core
      exact (Core.status_setNotifier ..).trans (by cases slot <;> rfl)
    · rw [if_neg hk, if_neg (Ne.symm hk)]

/-- An endpoint enters the notices that it is told, one after the other. -/
theorem status_foldl_fire (ctx : Context) (notices : List Notice) (k : Gid) (slot : StatusSlot) :
    (notices.foldl fire ctx).graph.status k slot =
      (ctx.graph.status k slot).map fun status =>
        (notices.filter (·.endpoint = k)).foldl EventStatus.note status := by
  induction notices generalizing ctx with
  | nil => exact Option.map_id'.symm
  | cons notice rest ih =>
    rw [List.foldl_cons, ih, status_fire, List.filter_cons]
    by_cases hk : notice.endpoint = k
    · rw [if_pos hk, if_pos (decide_eq_true hk), Option.map_map]
      rfl
    · rw [if_neg hk, if_neg (by simpa using hk)]

theorem status_change (ctx : Context) (graph : Graph) (notices : List Notice) (k : Gid)
    (slot : StatusSlot) :
    (ctx.change graph notices).graph.status k slot =
      (graph.status k slot).map fun status =>
        (notices.filter (·.endpoint = k)).foldl EventStatus.note status :=
  status_foldl_fire { ctx with graph } notices k slot

end Context

end PubSub
