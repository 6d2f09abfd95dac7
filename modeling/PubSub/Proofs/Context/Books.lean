import Mathlib.Algebra.Order.BigOperators.Group.List
import Mathlib.Algebra.Order.Ring.Int
import Mathlib.Algebra.Order.Ring.Nat
import PubSub.Proofs.Context.Moments

/-!
# Status books account for every pairing

Three books are kept for a local topic endpoint, each with a total, the change since it was last taken
and, for matches, the number there is now.  Notices are entered one by one and takes start the changes
anew, through any number of event handles.  `Account` ties the books to the moments of a trail, which
know nothing of notices: every moment keeps it (`Act.Effect.account`), and the books of an endpoint
can be read off the moments since its creation (`Context.Trail.keepsBooks`).
-/

namespace PubSub

namespace Moment

/-- The change of the total that was returned by taking a book. -/
def returnedTotal (moment : Moment) (gid : Gid) (slot : StatusSlot) : Int :=
  ((moment.returned gid slot).map (·.totalChange)).getD 0

/-- The change of the number of matches that was returned by taking the book of matches. -/
def returnedCurrent (moment : Moment) (gid : Gid) : Int :=
  ((moment.returned gid .matched).map (·.currentChange)).getD 0

/-- The moments since a book was last taken, of moments latest first. -/
def sinceTaken (gid : Gid) (slot : StatusSlot) (life : List Moment) : List Moment :=
  life.takeWhile fun moment => (moment.returned gid slot).isNone

/-- How many notices an endpoint is told. -/
def noticed (moment : Moment) (handle : Handle) : Nat :=
  moment.joined handle.gid + moment.parted handle.gid + moment.clashed handle +
    moment.mistyped handle

/-- Every notice raises one total or tells of a loss. -/
theorem countP_raises_add_isLoss (notices : List Notice) :
    notices.countP (·.raises .matched) + notices.countP (·.isLoss) +
      notices.countP (·.raises .incompatibleQos) + notices.countP (·.raises .incompatibleType) =
        notices.length := by
  induction notices with
  | nil => rfl
  | cons notice rest ih =>
    have hone : (if notice.raises .matched = true then 1 else 0) +
        (if notice.isLoss = true then 1 else 0) +
          (if notice.raises .incompatibleQos = true then 1 else 0) +
            (if notice.raises .incompatibleType = true then 1 else 0) = 1 := by
      cases notice <;> rfl
    simp only [List.countP_cons, List.length_cons]
    omega

theorem Tells.noticed {moment : Moment} {handle : Handle} {notices : List Notice}
    (h : moment.Tells handle notices) :
    moment.noticed handle = (notices.filter (·.endpoint = handle.gid)).length := by
  have hjoined : moment.joined handle.gid = _ := h.entered .matched
  have hclashed : moment.clashed handle = _ := h.entered .incompatibleQos
  have hmistyped : moment.mistyped handle = _ := h.entered .incompatibleType
  rw [Moment.noticed, hjoined, h.parted, hclashed, hmistyped, countP_raises_add_isLoss]

theorem sinceTaken_cons_of_none {moment : Moment} {gid : Gid} {slot : StatusSlot}
    (h : moment.returned gid slot = none) (life : List Moment) :
    sinceTaken gid slot (moment :: life) = moment :: sinceTaken gid slot life := by
  rw [sinceTaken, List.takeWhile_cons, h]
  rfl

theorem sinceTaken_cons_of_some {moment : Moment} {gid : Gid} {slot : StatusSlot}
    {status : EventStatus} (h : moment.returned gid slot = some status) (life : List Moment) :
    sinceTaken gid slot (moment :: life) = [] := by
  rw [sinceTaken, List.takeWhile_cons, h]
  rfl

end Moment

/-! ## The account of an endpoint -/

/-- The books of an endpoint agree with the moments of its life, latest first. -/
structure Account (graph : Graph) (handle : Handle) (life : List Moment) (core : Core) : Prop where
  total : ∀ slot, (core.status slot).total = (life.map (·.entered handle slot)).sum
  totalChange : ∀ slot, (core.status slot).totalChange =
    ((Moment.sinceTaken handle.gid slot life).map (·.entered handle slot)).sum
  totalReturned : ∀ slot, (life.map (·.returnedTotal handle.gid slot)).sum +
    (core.status slot).totalChange = (core.status slot).total
  current : core.matched.current = (graph.matchSet handle.gid).length
  parted : core.matched.current + (life.map (·.parted handle.gid)).sum = core.matched.total
  currentChange : core.matched.currentChange =
    ((Moment.sinceTaken handle.gid .matched life).map (·.joined handle.gid)).sum -
      ((Moment.sinceTaken handle.gid .matched life).map (·.parted handle.gid)).sum
  currentReturned : (life.map (·.returnedCurrent handle.gid)).sum + core.matched.currentChange =
    core.matched.current

namespace Account

variable {moment : Moment} {handle : Handle} {life : List Moment} {core core' : Core}
  {notices : List Notice}

/-- Nothing is entered in the books of a new endpoint. -/
theorem fresh {graph : Graph} (hfree : graph.endpoints.find? handle.gid = none) (record : Endpoint)
    (ignoresLocal : Bool) : Account graph handle [] (record.freshCore ignoresLocal) where
  total slot := by cases slot <;> rfl
  totalChange slot := by cases slot <;> rfl
  totalReturned slot := by cases slot <;> rfl
  current := by
    rw [Graph.matchSet_eq_nil hfree]
    rfl
  parted := rfl
  currentChange := rfl
  currentReturned := rfl

/-- The notices of a moment are entered. -/
theorem tell (h : Account moment.before handle life core) (hbefore : moment.before.Matched)
    (hafter : moment.after.Matched) (htells : moment.Tells handle notices)
    (hreturned : ∀ slot, moment.returned handle.gid slot = none)
    (hstatus : ∀ slot, core'.status slot =
      (notices.filter (·.endpoint = handle.gid)).foldl EventStatus.note (core.status slot)) :
    Account moment.after handle (moment :: life) core' := by
  have htotal (slot : StatusSlot) :
      (core'.status slot).total = (core.status slot).total + moment.entered handle slot := by
    rw [hstatus, EventStatus.total_foldl_note, core.slot_status, htells.entered]
  have htotalChange (slot : StatusSlot) : (core'.status slot).totalChange =
      (core.status slot).totalChange + moment.entered handle slot := by
    rw [hstatus, EventStatus.totalChange_foldl_note, core.slot_status, htells.entered]
  have hmatched : core'.matched =
      (notices.filter (·.endpoint = handle.gid)).foldl MatchedStatus.note core.matched :=
    EventStatus.matched.inj ((hstatus .matched).trans (MatchedStatus.foldl_note ..))
  have hjoined := htells.entered .matched
  have hparted := htells.parted
  have hcurrent : core'.matched.current + moment.parted handle.gid =
      core.matched.current + moment.joined handle.gid := by
    -- Only what is in the match set can leave it.
    have hle : moment.parted handle.gid ≤ core.matched.current := by
      rw [h.current]
      exact List.countP_le_length
    have := core.matched.current_foldl_note (hparted ▸ hle)
    rw [← hmatched, ← hjoined, ← hparted] at this
    exact this
  have hcurrentChange : core'.matched.currentChange =
      core.matched.currentChange + moment.joined handle.gid - moment.parted handle.gid := by
    have := core.matched.currentChange_foldl_note (notices.filter (·.endpoint = handle.gid))
    rw [← hmatched, ← hjoined, ← hparted] at this
    exact this
  have htotalMatched : core'.matched.total = core.matched.total + moment.joined handle.gid :=
    htotal .matched
  have hlength := length_add_countP_not_mem (hbefore.nodup_matchSet handle.gid)
    (hafter.nodup_matchSet handle.gid)
  have hset : (moment.after.matchSet handle.gid).length + moment.parted handle.gid =
      (moment.before.matchSet handle.gid).length + moment.joined handle.gid := hlength
  have hsince := fun slot => Moment.sinceTaken_cons_of_none (hreturned slot) life
  refine ⟨fun slot => ?_, fun slot => ?_, fun slot => ?_, ?_, ?_, ?_, ?_⟩
  · rw [htotal, h.total, List.map_cons, List.sum_cons, Nat.add_comm]
  · rw [htotalChange, h.totalChange, hsince, List.map_cons, List.sum_cons]
    omega
  · have hnone : moment.returnedTotal handle.gid slot = 0 := by
      rw [Moment.returnedTotal, hreturned]
      rfl
    have := h.totalReturned slot
    rw [htotalChange, htotal, List.map_cons, List.sum_cons, hnone]
    omega
  · have := h.current
    omega
  · have := h.parted
    rw [List.map_cons, List.sum_cons]
    omega
  · rw [hcurrentChange, h.currentChange, hsince, List.map_cons, List.map_cons, List.sum_cons,
      List.sum_cons]
    omega
  · have hnone : moment.returnedCurrent handle.gid = 0 := by
      rw [Moment.returnedCurrent, hreturned]
      rfl
    have := h.currentReturned
    rw [List.map_cons, List.sum_cons, hnone]
    omega

/-- A book is taken: what had changed is returned, and the changes start anew. -/
theorem take (moment : Moment) (h : Account moment.before handle life core) {record : Endpoint} {taken : StatusSlot}
    (hrecord : moment.before.endpoints.find? handle.gid = some record)
    (hsame : moment.after.endpoints = moment.before.endpoints)
    (hreturned : ∀ slot, moment.returned handle.gid slot =
      if slot = taken then some (core.status slot) else none) :
    Account moment.after handle (moment :: life) (core.takeStatus taken) := by
  have htells := Moment.Tells.nothing hsame hrecord
  have hentered (slot : StatusSlot) : moment.entered handle slot = 0 := htells.entered slot
  have hjoined : moment.joined handle.gid = 0 := hentered .matched
  have hparted : moment.parted handle.gid = 0 := htells.parted
  have hmatched : (core.takeStatus taken).matched =
      if taken = .matched then core.matched.taken else core.matched := by
    cases taken <;> rfl
  refine ⟨fun slot => ?_, fun slot => ?_, fun slot => ?_, ?_, ?_, ?_, ?_⟩
  · rw [List.map_cons, List.sum_cons, hentered, Nat.zero_add, ← h.total, core.status_takeStatus]
    split
    · cases core.status slot <;> rfl
    · rfl
  · rw [core.status_takeStatus]
    have hslot := hreturned slot
    split
    · next heq =>
      rw [if_pos heq] at hslot
      rw [Moment.sinceTaken_cons_of_some hslot]
      cases core.status slot <;> rfl
    · next heq =>
      rw [if_neg heq] at hslot
      rw [Moment.sinceTaken_cons_of_none hslot, List.map_cons, List.sum_cons, hentered,
        Nat.zero_add, h.totalChange]
  · have hbalance := h.totalReturned slot
    rw [List.map_cons, List.sum_cons, core.status_takeStatus, Moment.returnedTotal, hreturned]
    split
    · cases hstatus : core.status slot <;> rw [hstatus] at hbalance <;>
        simp only [EventStatus.taken, EventStatus.totalChange, EventStatus.total,
          MatchedStatus.taken, IncompatibleQosStatus.taken, IncompatibleTypeStatus.taken,
          Option.map_some, Option.getD_some] at hbalance ⊢ <;> omega
    · simp only [Option.map_none, Option.getD_none]
      omega
  · rw [hmatched, Graph.matchSet_congr hsame, ← h.current]
    split <;> rfl
  · have hbalance := h.parted
    rw [hmatched, List.map_cons, List.sum_cons, hparted, Nat.zero_add]
    split <;> exact hbalance
  · have hslot := hreturned .matched
    rw [hmatched]
    split
    · next heq =>
      rw [if_pos heq.symm] at hslot
      rw [Moment.sinceTaken_cons_of_some hslot]
      rfl
    · next hne =>
      rw [if_neg (Ne.symm hne)] at hslot
      rw [Moment.sinceTaken_cons_of_none hslot, List.map_cons, List.map_cons, List.sum_cons,
        List.sum_cons, hjoined, hparted, Nat.zero_add, Nat.zero_add, h.currentChange]
  · have hbalance := h.currentReturned
    rw [hmatched, List.map_cons, List.sum_cons, Moment.returnedCurrent, hreturned]
    split
    · next heq =>
      rw [if_pos heq.symm]
      show core.matched.currentChange + _ + (0 : Int) = core.matched.current
      omega
    · next hne =>
      rw [if_neg (Ne.symm hne)]
      show (0 : Int) + _ + core.matched.currentChange = core.matched.current
      omega

/-- The same, with the books looked up in the graph. -/
theorem tell_graph (moment : Moment) (h : Account moment.before handle life core)
    (hbefore : moment.before.Matched) (hafter : moment.after.Matched)
    (htells : moment.Tells handle notices)
    (hreturned : ∀ slot, moment.returned handle.gid slot = none)
    (hstatus : ∀ slot, moment.after.status handle.gid slot = some
      ((notices.filter (·.endpoint = handle.gid)).foldl EventStatus.note (core.status slot))) :
    ∃ core', moment.after.locals.find? handle.gid = some core' ∧
      Account moment.after handle (moment :: life) core' := by
  obtain ⟨core', hcore', -⟩ := Option.map_eq_some_iff.1 (hstatus .matched)
  refine ⟨core', hcore', h.tell hbefore hafter htells hreturned fun slot => ?_⟩
  have hslot := hstatus slot
  rw [Graph.status, hcore'] at hslot
  exact Option.some.inj hslot

/-- Nothing happened to the endpoints, and nothing was entered or taken. -/
theorem pass (moment : Moment) (h : Account moment.before handle life core)
    (hcore : moment.before.locals.find? handle.gid = some core) (hbefore : moment.before.Matched)
    (hafter : moment.after.Matched) {record : Endpoint}
    (hrecord : moment.before.endpoints.find? handle.gid = some record)
    (hsame : moment.after.endpoints = moment.before.endpoints)
    (hreturned : ∀ slot, moment.returned handle.gid slot = none)
    (hstatus : ∀ slot, moment.after.status handle.gid slot =
      moment.before.status handle.gid slot) :
    ∃ core', moment.after.locals.find? handle.gid = some core' ∧
      Account moment.after handle (moment :: life) core' :=
  h.tell_graph moment hbefore hafter (Moment.Tells.nothing hsame hrecord) hreturned fun slot =>
    (hstatus slot).trans (Graph.status_eq hcore slot)

/-- A book has changes if anything was entered since it was taken.  A gain and a loss do not make up
for each other, since the total tells of the gain. -/
theorem hasChanges_iff {graph : Graph} (h : Account graph handle life core) (slot : StatusSlot) :
    (core.status slot).hasChanges = true ↔
      0 < ((Moment.sinceTaken handle.gid slot life).map (·.events handle slot)).sum := by
  have htotal := h.totalChange slot
  have hcurrent := h.currentChange
  cases slot with
  | matched =>
    have hsum : ((Moment.sinceTaken handle.gid .matched life).map (·.events handle .matched)).sum =
        ((Moment.sinceTaken handle.gid .matched life).map (·.joined handle.gid)).sum +
          ((Moment.sinceTaken handle.gid .matched life).map (·.parted handle.gid)).sum :=
      List.sum_map_add
    have htotal : core.matched.totalChange =
      ((Moment.sinceTaken handle.gid .matched life).map (·.joined handle.gid)).sum := htotal
    show (decide (core.matched.totalChange ≠ 0) || decide (core.matched.currentChange ≠ 0)) =
      true ↔ _
    rw [hsum, Bool.or_eq_true, decide_eq_true_eq, decide_eq_true_eq]
    omega
  | incompatibleQos =>
    have htotal : core.incompatibleQos.totalChange =
      ((Moment.sinceTaken handle.gid .incompatibleQos life).map
        (·.events handle .incompatibleQos)).sum := htotal
    show decide (core.incompatibleQos.totalChange ≠ 0) = true ↔ _
    rw [decide_eq_true_eq]
    omega
  | incompatibleType =>
    have htotal : core.incompatibleType.totalChange =
      ((Moment.sinceTaken handle.gid .incompatibleType life).map
        (·.events handle .incompatibleType)).sum := htotal
    show decide (core.incompatibleType.totalChange ≠ 0) = true ↔ _
    rw [decide_eq_true_eq]
    omega

theorem sum_sinceTaken_le (gid : Gid) (slot : StatusSlot) (life : List Moment) (f : Moment → Nat) :
    ((Moment.sinceTaken gid slot life).map f).sum ≤ (life.map f).sum :=
  ((List.takeWhile_sublist _).map f).sum_le_sum fun _ _ => Nat.zero_le _

/-- No counter of a book exceeds the number of notices. -/
theorem bounded {graph : Graph} (h : Account graph handle life core) (slot : StatusSlot) :
    (core.status slot).total ≤ (life.map (·.noticed handle)).sum ∧
      (core.status slot).totalChange.natAbs ≤ (life.map (·.noticed handle)).sum := by
  have hentered : (life.map (·.entered handle slot)).sum ≤ (life.map (·.noticed handle)).sum :=
    List.sum_le_sum fun moment _ => by
      cases slot <;> simp only [Moment.entered, Moment.noticed] <;> omega
  have hsince := sum_sinceTaken_le handle.gid slot life (·.entered handle slot)
  have htotal := h.total slot
  have htotalChange := h.totalChange slot
  omega

theorem bounded_current {graph : Graph} (h : Account graph handle life core) :
    core.matched.current ≤ (life.map (·.noticed handle)).sum ∧
      core.matched.currentChange.natAbs ≤ (life.map (·.noticed handle)).sum := by
  have hparted : (life.map (·.parted handle.gid)).sum ≤ (life.map (·.noticed handle)).sum :=
    List.sum_le_sum fun moment _ => by
      simp only [Moment.noticed]
      omega
  have hjoined : (life.map (·.joined handle.gid)).sum ≤ (life.map (·.noticed handle)).sum :=
    List.sum_le_sum fun moment _ => by
      simp only [Moment.noticed]
      omega
  have hsinceJoined := sum_sinceTaken_le handle.gid .matched life (·.joined handle.gid)
  have hsinceParted := sum_sinceTaken_le handle.gid .matched life (·.parted handle.gid)
  have htotal : core.matched.total = (life.map (·.joined handle.gid)).sum := h.total .matched
  have hcurrent := h.parted
  have hcurrentChange := h.currentChange
  omega

end Account

/-! ## The books along a trail -/

namespace Graph

variable {graph graph' : Graph} {gid k : Gid} {notices : List Notice}

theorem status_addEndpoint_of_ne {new : Endpoint} {core : Option Core}
    (hadd : graph.addEndpoint gid new core = .ok (graph', notices)) (hne : k ≠ gid)
    (slot : StatusSlot) : graph'.status k slot = graph.status k slot := by
  obtain ⟨-, -, -, -, hlocals, -⟩ := addEndpoint_eq_ok hadd
  rw [status, hlocals, if_neg fun h => hne h.1]
  rfl

theorem status_removeEndpoint_of_ne (hrem : graph.removeEndpoint gid = some (graph', notices))
    (hne : k ≠ gid) (slot : StatusSlot) : graph'.status k slot = graph.status k slot := by
  obtain ⟨-, -, -, -, -, hlocals, -⟩ := removeEndpoint_eq_some hrem
  rw [status, hlocals, if_neg hne]
  rfl

end Graph

theorem Moment.returned_eq_none {moment : Moment} (h : moment.act.returned = none) (gid : Gid)
    (slot : StatusSlot) : moment.returned gid slot = none := by
  rw [returned, h]

/-- Every act but its own destruction keeps the account of an endpoint. -/
theorem Act.Effect.account {ctx ctx' : Context} {act : Act} (h : act.Effect ctx ctx')
    (hbefore : ctx.graph.Matched) (hafter : ctx'.graph.Matched) {handle : Handle} {node : Node}
    {record : Endpoint} {core : Core} {life : List Moment} (htopic : handle.kind.isTopic = true)
    (hrecord : ctx.graph.endpoints.find? handle.gid = some record)
    (hblank : record.blank = handle.record node)
    (hcore : ctx.graph.locals.find? handle.gid = some core)
    (hlive : ∀ other, act.operation = .destroyEndpoint other → other.gid ≠ handle.gid)
    (haccount : Account ctx.graph handle life core) :
    ∃ core', ctx'.graph.locals.find? handle.gid = some core' ∧
      Account ctx'.graph handle (⟨ctx.graph, act, ctx'.graph⟩ :: life) core' := by
  have hkind : record.kind.isTopic = true := congrArg Endpoint.kind hblank ▸ htopic
  have hlocal : record.isLocal = true := congrArg Endpoint.isLocal hblank
  -- The moments at which others come or go.
  have hadd {gid : Gid} {new : Endpoint} {fresh : Option Core} {graph : Graph}
      {notices : List Notice} {mid : Context} {act : Act}
      (hadd : ctx.graph.addEndpoint gid new fresh = .ok (graph, notices))
      (hafter : (mid.change graph notices).graph.Matched) (hreturned : act.returned = .none) :
      ∃ core', (mid.change graph notices).graph.locals.find? handle.gid = some core' ∧
        Account (mid.change graph notices).graph handle
          (⟨ctx.graph, act, (mid.change graph notices).graph⟩ :: life) core' := by
    have hne : handle.gid ≠ gid := by
      rintro rfl
      rw [(Graph.addEndpoint_eq_ok hadd).1] at hrecord
      cases hrecord
    refine haccount.tell_graph ⟨_, act, _⟩ hbefore hafter
      (.addOld hadd (Context.still_change ..).endpoints hbefore htopic hblank hrecord)
      (Moment.returned_eq_none hreturned _) fun slot => ?_
    rw [Context.status_change, Graph.status_addEndpoint_of_ne hadd hne, Graph.status_eq hcore]
    rfl
  have hremove {gid : Gid} {graph : Graph} {notices : List Notice} {act : Act}
      (hrem : ctx.graph.removeEndpoint gid = some (graph, notices)) (hne : handle.gid ≠ gid)
      (hafter : (ctx.change graph notices).graph.Matched) (hreturned : act.returned = .none) :
      ∃ core', (ctx.change graph notices).graph.locals.find? handle.gid = some core' ∧
        Account (ctx.change graph notices).graph handle
          (⟨ctx.graph, act, (ctx.change graph notices).graph⟩ :: life) core' := by
    refine haccount.tell_graph ⟨_, act, _⟩ hbefore hafter
      (.remove hbefore hkind hlocal hrecord hrem (Context.still_change ..).endpoints hne)
      (Moment.returned_eq_none hreturned _) fun slot => ?_
    rw [Context.status_change, Graph.status_removeEndpoint_of_ne hrem hne, Graph.status_eq hcore]
    rfl
  cases h with
  | none halike hreturned =>
    exact haccount.pass ⟨_, _, _⟩ hcore hbefore hafter hrecord halike.endpoints
      (Moment.returned_eq_none hreturned _) fun slot => Graph.status_alike halike _ slot
  | delivered halike hreturned receivers message =>
    refine haccount.pass ⟨_, _, _⟩ hcore hbefore hafter hrecord ?_ (Moment.returned_eq_none hreturned _)
      fun slot => ?_
    · exact (Context.kept_deliverAll _ receivers message).endpoints.trans halike.endpoints
    · rw [Context.status_deliverAll, Graph.status_alike halike]
  | @taken event taken htaken =>
    by_cases hown : event.gid = handle.gid
    · rw [hown, hcore] at htaken
      cases htaken
      refine ⟨core.takeStatus event.slot, ?_, haccount.take ⟨_, _, _⟩ hrecord rfl fun slot => ?_⟩
      · rw [hown, Graph.find?_modifyCore, if_pos rfl, hcore]
        rfl
      · show (if event.gid = handle.gid ∧ (core.status event.slot).slot = slot then
          some (core.status event.slot) else Option.none) = _
        rw [core.slot_status]
        by_cases hslot : slot = event.slot
        · rw [if_pos ⟨hown, hslot.symm⟩, if_pos hslot, hslot]
        · rw [if_neg fun h => hslot h.2.symm, if_neg hslot]
    · refine haccount.pass ⟨_, _, _⟩ hcore hbefore hafter hrecord rfl (fun slot => ?_) fun slot => ?_
      · exact if_neg fun h => hown h.1
      · rw [Graph.status, Graph.find?_modifyCore, if_neg (Ne.symm hown)]
        rfl
  | registered gid channel callback =>
    exact haccount.pass ⟨_, _, _⟩ hcore hbefore hafter hrecord
      (ctx.still_setCallback gid channel callback).endpoints
      (Moment.returned_eq_none rfl _) fun slot => ctx.status_setCallback ..
  | created _ hnew => exact hadd hnew hafter rfl
  | announced hnew => exact hadd hnew hafter rfl
  | @destroyed other graph notices hrem => exact hremove hrem (hlive other rfl).symm hafter rfl
  | @withdrawn gid graph notices hremote hrem =>
    have hne : handle.gid ≠ gid := by
      rintro rfl
      rw [hcore] at hremote
      cases hremote
    exact hremove hrem hne hafter rfl

namespace Context

/-- The account of an endpoint since its creation. -/
theorem Trail.account {ctx : Context} {moments since earlier : List Moment} {creation : Moment}
    {node : Node} {kind : EndpointKind} {name typeName : String} {qos : Qos.Profile}
    {ignoresLocal : Bool} {handle : Handle} (h : Trail ctx moments)
    (hmoments : moments = since ++ creation :: earlier)
    (hcreation : creation.act =
      ⟨.createEndpoint node kind name typeName qos ignoresLocal, .ok (.endpoint handle)⟩)
    (htopic : handle.kind.isTopic = true)
    (hlive : ∀ moment ∈ since, ∀ other, moment.act.operation = .destroyEndpoint other →
      other.gid ≠ handle.gid) :
    ∃ core, ctx.graph.locals.find? handle.gid = some core ∧
      Account ctx.graph handle (since ++ [creation]) core := by
  induction h generalizing since with
  | create =>
    cases since <;> cases hmoments
  | @perform ctx moments htrail operation hproper ih =>
    have hbefore := htrail.course.accounts.matched
    have hafter := (htrail.perform operation hproper).course.accounts.matched
    cases since with
    | nil =>
      obtain ⟨rfl, rfl⟩ := List.cons.inj hmoments
      obtain ⟨rfl, hreply⟩ := Act.mk.inj hcreation
      obtain ⟨rfl, -⟩ := ctx.registers_createEndpoint hreply
      rcases ctx.createEndpoint_cases node kind name typeName qos ignoresLocal with
        ⟨error, herror, -⟩ | ⟨graph, notices, hadd, heq⟩
      · simp only [Operation.perform, Operation.reply, herror] at hreply
        cases hreply
      · simp only [Operation.perform, Operation.reply, heq] at hafter ⊢
        refine (Account.fresh (Graph.addEndpoint_eq_ok hadd).1
          ((ctx.nextHandle kind name typeName qos).record node) ignoresLocal).tell_graph ⟨_, _, _⟩
          hbefore hafter (.addNew hadd (still_change ..).endpoints htopic)
          (Moment.returned_eq_none rfl _) fun slot => ?_
        rw [status_change, Graph.status, (Graph.addEndpoint_eq_ok hadd).2.2.2.2.1, if_pos ⟨rfl, rfl⟩]
        rfl
    | cons moment since =>
      obtain ⟨rfl, htail⟩ := List.cons.inj hmoments
      have htail : moments = since ++ creation :: earlier := htail
      obtain ⟨core, hcore, haccount⟩ :=
        ih htail fun moment hmem => hlive moment (List.mem_cons_of_mem _ hmem)
      have hacts : moments.map Moment.act = since.map Moment.act ++
          ⟨.createEndpoint node kind name typeName qos ignoresLocal, .ok (.endpoint handle)⟩ ::
            earlier.map Moment.act := by
        rw [htail, List.map_append, List.map_cons, hcreation]
      obtain ⟨-, hregisters⟩ := htrail.course.registers hacts fun act hact => by
        obtain ⟨moment, hin, rfl⟩ := List.mem_map.1 hact
        exact hlive moment (List.mem_cons_of_mem _ hin)
      obtain ⟨⟨record, hrecord, hblank⟩, -⟩ := hregisters.exists_find?
      exact (operation.effect ctx).account hbefore hafter htopic hrecord hblank hcore
        (hlive _ List.mem_cons_self) haccount
  | startWait _ id handles timeout now ih =>
    rw [graph_startWait]
    exact ih hmoments hlive
  | resumeWait _ session now ih =>
    rw [graph_resumeWait]
    exact ih hmoments hlive

/-- The books of an endpoint account for every counterpart that it had to do with in its life, told
in moments, latest first. -/
structure KeepsBooks (ctx : Context) (handle : Handle) (life : List Moment) (core : Core) :
    Prop where
  matchedTotal : core.matched.total = (life.map (·.joined handle.gid)).sum
  matchedCurrent : core.matched.current = (ctx.graph.matchSet handle.gid).length
  /-- The loss of a match always lowered the number. -/
  matchedParted : core.matched.current + (life.map (·.parted handle.gid)).sum = core.matched.total
  /-- Whatever is removed next, the losses to be told of find a match. -/
  lost_of_remove : ∀ {gone graph notices}, ctx.graph.removeEndpoint gone = some (graph, notices) →
    gone ≠ handle.gid → ∀ {fired rest}, notices = fired ++ .lost handle.gid :: rest →
    ∃ core', (fired.foldl fire { ctx with graph }).graph.locals.find? handle.gid = some core' ∧
      0 < core'.matched.current
  /-- Nothing that is added tells of a loss. -/
  not_lost_of_add : ∀ {gid new fresh graph notices},
    ctx.graph.addEndpoint gid new fresh = .ok (graph, notices) → .lost handle.gid ∉ notices
  incompatibleQosTotal : core.incompatibleQos.total = (life.map (·.clashed handle)).sum
  incompatibleTypeTotal : core.incompatibleType.total = (life.map (·.mistyped handle)).sum
  /-- What was returned and what is pending make up the total of each book. -/
  totalReturned : ∀ slot, (life.map (·.returnedTotal handle.gid slot)).sum +
    (core.status slot).totalChange = (core.status slot).total
  currentReturned : (life.map (·.returnedCurrent handle.gid)).sum + core.matched.currentChange =
    core.matched.current
  /-- An event handle is ready if anything happened since its book was taken. -/
  ready : ∀ slot, (ctx.poll (.endpoint handle.gid (.status slot))).1 = true ↔
    0 < ((Moment.sinceTaken handle.gid slot life).map (·.events handle slot)).sum
  /-- With fewer than `2 ^ 31` notices every counter fits into 32 bits. -/
  bounded : ∀ slot, (core.status slot).total ≤ (life.map (·.noticed handle)).sum ∧
    (core.status slot).totalChange.natAbs ≤ (life.map (·.noticed handle)).sum ∧
    core.matched.current ≤ (life.map (·.noticed handle)).sum ∧
    core.matched.currentChange.natAbs ≤ (life.map (·.noticed handle)).sum

/-- A loss that is told of was in the match set, and so it was counted. -/
theorem exists_current_pos_of_lost {ctx : Context} {handle : Handle} {node : Node} {core : Core}
    {record : Endpoint} {life : List Moment} (hmatched : ctx.graph.Matched)
    (htopic : handle.kind.isTopic = true)
    (hrecord : ctx.graph.endpoints.find? handle.gid = some record)
    (hblank : record.blank = handle.record node)
    (hcore : ctx.graph.locals.find? handle.gid = some core)
    (haccount : Account ctx.graph handle life core) {gone : Gid} {graph : Graph}
    {notices fired rest : List Notice}
    (hrem : ctx.graph.removeEndpoint gone = some (graph, notices)) (hne : gone ≠ handle.gid)
    (hsplit : notices = fired ++ .lost handle.gid :: rest) :
    ∃ core', (fired.foldl fire { ctx with graph }).graph.locals.find? handle.gid = some core' ∧
      0 < core'.matched.current := by
  have hkind : record.kind.isTopic = true := congrArg Endpoint.kind hblank ▸ htopic
  have hlocal : record.isLocal = true := congrArg Endpoint.isLocal hblank
  -- What the removal would mean to the endpoint.
  let moment : Moment := ⟨ctx.graph, ⟨.withdrawEndpoint gone, .ok (.flag true)⟩, graph⟩
  have htells : moment.Tells handle notices :=
    .remove hmatched hkind hlocal hrecord hrem rfl (Ne.symm hne)
  have hle : moment.parted handle.gid ≤ core.matched.current := by
    rw [haccount.current]
    exact List.countP_le_length
  have htold : (Notice.lost handle.gid).endpoint = handle.gid := rfl
  rw [htells.parted, hsplit, List.filter_append, List.filter_cons, if_pos (decide_eq_true htold)]
    at hle
  have hstatus := status_foldl_fire { ctx with graph } fired handle.gid .matched
  rw [Graph.status_removeEndpoint_of_ne hrem (Ne.symm hne), Graph.status_eq hcore] at hstatus
  obtain ⟨core', hcore', hstatus⟩ := Option.map_eq_some_iff.1 hstatus
  refine ⟨core', hcore', ?_⟩
  have hmatched' : core'.matched =
      (fired.filter (·.endpoint = handle.gid)).foldl MatchedStatus.note core.matched :=
    EventStatus.matched.inj (hstatus.trans (MatchedStatus.foldl_note ..))
  rw [hmatched']
  exact core.matched.current_pos_of_lost hle

/-- The books of a publisher or subscription that was created and not destroyed since account for
everything that happened to it. -/
theorem Trail.keepsBooks {ctx : Context} {since earlier : List Moment} {creation : Moment}
    {node : Node} {kind : EndpointKind} {name typeName : String} {qos : Qos.Profile}
    {ignoresLocal : Bool} {handle : Handle} (h : Trail ctx (since ++ creation :: earlier))
    (hcreation : creation.act =
      ⟨.createEndpoint node kind name typeName qos ignoresLocal, .ok (.endpoint handle)⟩)
    (htopic : handle.kind = .publisher ∨ handle.kind = .subscription)
    (hlive : ∀ moment ∈ since, ∀ other, moment.act.operation = .destroyEndpoint other →
      other.gid ≠ handle.gid) :
    ∃ core, ctx.graph.locals.find? handle.gid = some core ∧
      ctx.KeepsBooks handle (since ++ [creation]) core := by
  have htopic : handle.kind.isTopic = true := by rcases htopic with h | h <;> rw [h] <;> rfl
  obtain ⟨core, hcore, haccount⟩ := h.account rfl hcreation htopic hlive
  have hacts : (since ++ creation :: earlier).map Moment.act = since.map Moment.act ++
      ⟨.createEndpoint node kind name typeName qos ignoresLocal, .ok (.endpoint handle)⟩ ::
        earlier.map Moment.act := by
    rw [List.map_append, List.map_cons, hcreation]
  obtain ⟨-, hregisters⟩ := h.course.registers hacts fun act hact => by
    obtain ⟨moment, hin, rfl⟩ := List.mem_map.1 hact
    exact hlive moment hin
  obtain ⟨⟨record, hrecord, hblank⟩, -⟩ := hregisters.exists_find?
  refine ⟨core, hcore,
    { matchedTotal := haccount.total .matched
      matchedCurrent := haccount.current
      matchedParted := haccount.parted
      lost_of_remove := fun hrem hne _ _ hsplit => exists_current_pos_of_lost h.course.accounts.matched
        htopic hrecord hblank hcore haccount hrem hne hsplit
      not_lost_of_add := fun hadd => List.count_eq_zero.1 (Graph.count_lost_addEndpoint hadd _)
      incompatibleQosTotal := haccount.total .incompatibleQos
      incompatibleTypeTotal := haccount.total .incompatibleType
      totalReturned := haccount.totalReturned
      currentReturned := haccount.currentReturned
      ready := fun slot => ?_
      bounded := fun slot => ?_ }⟩
  · rw [← haccount.hasChanges_iff slot, poll, hcore]
    rfl
  · have htotal := haccount.bounded slot
    have hcurrent := haccount.bounded_current
    exact ⟨htotal.1, htotal.2, hcurrent.1, hcurrent.2⟩

/-- A publisher gains a match, the status is taken, and the match is lost.  Then come a subscription
of another type and one that asks for what the publisher does not offer.  Each book has counted one of
them, no match is left, and there is something new in all three. -/
theorem Trail.exists_keepsBooks : ∃ (ctx : Context) (moments : List Moment) (handle : Handle)
    (core : Core), Trail ctx moments ∧
    ctx.graph.locals.find? handle.gid = some core ∧ core.matched.total = 1 ∧
    core.matched.current = 0 ∧ core.incompatibleType.total = 1 ∧ core.incompatibleQos.total = 1 ∧
    ∀ slot, (ctx.poll (.endpoint handle.gid (.status slot))).1 = true := by
  have hcreate := @Trail.create (.start 7) _
    { domainId := 0, enclave := "/", discoveryRange := .localhost, discoveryPeers := [],
      instanceId := none, waitSetCapacity := 4, qosProfilePath := none } _ rfl
  have hlost := (((hcreate.perform (.createEndpoint ⟨.mint 7 1 1, "talker", "/"⟩ .publisher
    "chatter" "String" .standard false) trivial).perform (.announceEndpoint ⟨.mint 1 7 1,
      .subscription, "chatter", "String", "listener", "/", .standard⟩) trivial).perform
        (.takeStatus ⟨.mint 7 1 1, .publicationMatched, .matched⟩) trivial).perform
          (.withdrawEndpoint (.mint 1 7 1)) trivial
  have htrail := (hlost.perform (.announceEndpoint ⟨.mint 1 7 2, .subscription, "chatter", "Int",
    "counter", "/", .standard⟩) trivial).perform (.announceEndpoint ⟨.mint 1 7 3, .subscription,
      "chatter", "String", "recorder", "/",
      { Qos.Profile.standard with durability := .exactly .transientLocal }⟩) trivial
  obtain ⟨core, hcore, hbooks⟩ := @Trail.keepsBooks _ [_, _, _, _, _] [] _ _ _ _ _ _ _
    ⟨.mint 7 1 1, .publisher, "chatter", "String", .standard⟩ htrail rfl (Or.inl rfl) (by simp)
  refine ⟨_, _, _, core, htrail, hcore, hbooks.matchedTotal.trans rfl,
    hbooks.matchedCurrent.trans rfl, hbooks.incompatibleTypeTotal.trans rfl,
    hbooks.incompatibleQosTotal.trans rfl, fun slot => (hbooks.ready slot).2 ?_⟩
  cases slot <;> decide

end Context

end PubSub
