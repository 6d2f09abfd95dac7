import Mathlib.Data.List.Perm.Subperm
import PubSub.Proofs.Context.Endpoints
import PubSub.Proofs.Endpoint.Status

/-!
# Who met whom

A `Moment` is an act with the graph before and after it, and a `Context.Trail` is a course told in
moments.  What an endpoint has to do with its counterparts can be read off the moments alone: which
of them entered its match set and which left it, and which began to coexist with it although the
profiles or the types rule a match out.  The notices of a change say the same (`Moment.Tells`).
-/

namespace PubSub

/-! ## Moments -/

/-- An act, with the graph before and after it. -/
structure Moment where
  before : Graph
  act : Act
  after : Graph

/-- What can happen to a context after its creation, with the moments of it, latest first. -/
inductive Context.Trail : Context → List Moment → Prop
  | create {host host' : Host} {options : Options} {ctx : Context}
      (h : Context.create host options = .ok (ctx, host')) : Trail ctx []
  | perform {ctx : Context} {moments : List Moment} (h : Trail ctx moments) (operation : Operation)
      (hproper : operation.Proper ctx) :
      Trail (operation.perform ctx).2
        (⟨ctx.graph, ⟨operation, (operation.perform ctx).1⟩, (operation.perform ctx).2.graph⟩ ::
          moments)
  | startWait {ctx : Context} {moments : List Moment} (h : Trail ctx moments) (id : WaitSetId)
      (handles : List (Option Source)) (timeout : Option Nat) (now : Nat) :
      Trail (ctx.startWait id handles timeout now).1 moments
  | resumeWait {ctx : Context} {moments : List Moment} (h : Trail ctx moments) (session : Session)
      (now : Nat) : Trail (ctx.resumeWait session now).1 moments

/-- A trail is a course. -/
theorem Context.Trail.course {ctx : Context} {moments : List Moment} (h : Trail ctx moments) :
    Course ctx (moments.map Moment.act) := by
  induction h with
  | create hcreate => exact .create hcreate
  | perform _ operation hproper ih => exact ih.perform operation hproper
  | startWait _ id handles timeout now ih => exact ih.startWait id handles timeout now
  | resumeWait _ session now ih => exact ih.resumeWait session now

/-- Every course leaves a trail. -/
theorem Context.Course.exists_trail {ctx : Context} {history : List Act} (h : Course ctx history) :
    ∃ moments, Trail ctx moments ∧ moments.map Moment.act = history := by
  induction h with
  | create hcreate => exact ⟨[], .create hcreate, rfl⟩
  | perform _ operation hproper ih =>
    obtain ⟨moments, htrail, rfl⟩ := ih
    exact ⟨_, htrail.perform operation hproper, rfl⟩
  | startWait _ id handles timeout now ih =>
    obtain ⟨moments, htrail, hacts⟩ := ih
    exact ⟨moments, htrail.startWait id handles timeout now, hacts⟩
  | resumeWait _ session now ih =>
    obtain ⟨moments, htrail, hacts⟩ := ih
    exact ⟨moments, htrail.resumeWait session now, hacts⟩

/-! ## Counterparts -/

namespace Handle

/-- A counterpart on the topic of the endpoint. -/
def Faces (handle : Handle) (other : Endpoint) : Prop :=
  other.kind = handle.kind.counterpart ∧ other.name = handle.name

/-- A counterpart with the same type, one of the two offering what does not serve the other. -/
def ClashesWith (handle : Handle) (other : Endpoint) : Prop :=
  handle.Faces other ∧ other.typeName = handle.typeName ∧
    (handle.kind = .publisher → Qos.Clashes handle.qos other.qos) ∧
    (handle.kind = .subscription → Qos.Clashes other.qos handle.qos)

/-- A counterpart with another type. -/
def DiffersFrom (handle : Handle) (other : Endpoint) : Prop :=
  handle.Faces other ∧ other.typeName ≠ handle.typeName

instance (handle : Handle) : DecidablePred handle.ClashesWith := fun _ =>
  inferInstanceAs (Decidable ((_ = _ ∧ _ = _) ∧ _ = _ ∧ (_ = _ → _) ∧ (_ = _ → _)))

instance (handle : Handle) : DecidablePred handle.DiffersFrom := fun _ =>
  inferInstanceAs (Decidable ((_ = _ ∧ _ = _) ∧ _ ≠ _))

end Handle

/-! ## What a moment means to an endpoint -/

namespace Moment

/-- How many counterparts entered its match set. -/
def joined (moment : Moment) (gid : Gid) : Nat :=
  (moment.after.matchSet gid).countP (· ∉ moment.before.matchSet gid)

/-- How many counterparts left its match set. -/
def parted (moment : Moment) (gid : Gid) : Nat :=
  (moment.before.matchSet gid).countP (· ∉ moment.after.matchSet gid)

/-- The endpoints that began to coexist with it: those that are new, or all of them if it is new
itself. -/
def met (moment : Moment) (gid : Gid) : List Endpoint :=
  (moment.after.endpoints.entries.filter fun e =>
    !(moment.before.endpoints.contains gid && moment.before.endpoints.contains e.1)).map Prod.snd

/-- How many counterparts began to coexist with it whose profiles do not agree. -/
def clashed (moment : Moment) (handle : Handle) : Nat :=
  (moment.met handle.gid).countP fun other => handle.ClashesWith other

/-- How many counterparts began to coexist with it whose types differ. -/
def mistyped (moment : Moment) (handle : Handle) : Nat :=
  (moment.met handle.gid).countP fun other => handle.DiffersFrom other

/-- How many counterparts a book has to count. -/
def entered (moment : Moment) (handle : Handle) : StatusSlot → Nat
  | .matched => moment.joined handle.gid
  | .incompatibleQos => moment.clashed handle
  | .incompatibleType => moment.mistyped handle

/-- How many events of a book there were. -/
def events (moment : Moment) (handle : Handle) : StatusSlot → Nat
  | .matched => moment.joined handle.gid + moment.parted handle.gid
  | slot => moment.entered handle slot

/-- The status that was taken from a book. -/
def returned (moment : Moment) (gid : Gid) (slot : StatusSlot) : Option EventStatus :=
  match moment.act.returned with
  | some (taker, status) => if taker = gid ∧ status.slot = slot then some status else none
  | none => none

/-- The notices tell an endpoint what the moment means to it. -/
structure Tells (moment : Moment) (handle : Handle) (notices : List Notice) : Prop where
  entered : ∀ slot, moment.entered handle slot =
    (notices.filter (·.endpoint = handle.gid)).countP (·.raises slot)
  parted : moment.parted handle.gid =
    (notices.filter (·.endpoint = handle.gid)).countP (·.isLoss)

end Moment

/-! ## Relations and notices -/

/-- The book in which a relation is entered. -/
def Relation.slot : Relation → StatusSlot
  | .matched => .matched
  | .incompatibleQos _ => .incompatibleQos
  | .incompatibleType => .incompatibleType

/-- The book in which each of two endpoints enters the other. -/
def Endpoint.stance (a b : Endpoint) : Option StatusSlot := (a.relate b).map Relation.slot

theorem Endpoint.report_comm {a b : Endpoint} (hkind : b.kind = a.kind.counterpart)
    (htopic : a.kind.isTopic = true) : a.report b = b.report a := by
  unfold report
  cases ha : a.kind <;> rw [ha] at hkind htopic <;> simp_all [EndpointKind.counterpart]
  all_goals cases htopic

theorem Endpoint.stance_comm (a b : Endpoint) : a.stance b = b.stance a := by
  have hkinds : b.kind = a.kind.counterpart ↔ a.kind = b.kind.counterpart := by
    constructor <;> intro h <;> rw [h, EndpointKind.counterpart_counterpart]
  unfold stance relate
  by_cases hfaces : b.kind ≠ a.kind.counterpart ∨ b.name ≠ a.name ∨ (!a.isLocal ∧ !b.isLocal)
  · have hfaces' : a.kind ≠ b.kind.counterpart ∨ a.name ≠ b.name ∨ (!b.isLocal ∧ !a.isLocal) :=
      hfaces.imp (mt hkinds.2) (Or.imp Ne.symm And.symm)
    rw [if_pos hfaces, if_pos hfaces']
  · have hfaces' : ¬ (a.kind ≠ b.kind.counterpart ∨ a.name ≠ b.name ∨ (!b.isLocal ∧ !a.isLocal)) :=
      mt (Or.imp (mt hkinds.1) (Or.imp Ne.symm And.symm)) hfaces
    have hkind : b.kind = a.kind.counterpart := not_not.1 fun h => hfaces (Or.inl h)
    rw [if_neg hfaces, if_neg hfaces']
    by_cases htype : a.typeName = b.typeName
    · rw [if_neg (not_not.2 htype), if_neg (not_not.2 htype.symm)]
      have htopic : a.kind.isTopic = b.kind.isTopic := by
        rw [hkind, EndpointKind.isTopic_counterpart]
      by_cases hclash : a.kind.isTopic ∧ (a.report b).verdict = .incompatible
      · have hclash' : b.kind.isTopic ∧ (b.report a).verdict = .incompatible :=
          ⟨htopic ▸ hclash.1, Endpoint.report_comm hkind hclash.1 ▸ hclash.2⟩
        rw [if_pos hclash, if_pos hclash']
        rfl
      · have hclash' : ¬ (b.kind.isTopic ∧ (b.report a).verdict = .incompatible) := by
          rintro ⟨hb, hverdict⟩
          rw [← htopic] at hb
          exact hclash ⟨hb, (Endpoint.report_comm hkind hb).symm ▸ hverdict⟩
        rw [if_neg hclash, if_neg hclash']
    · rw [if_pos htype, if_pos (Ne.symm htype)]

/-- Only counterparts are entered. -/
theorem Endpoint.kind_of_stance {a b : Endpoint} {slot : StatusSlot} (h : a.stance b = some slot) :
    b.kind = a.kind.counterpart := by
  unfold stance relate at h
  split at h
  · cases h
  · next hfaces => exact not_not.1 fun hkind => hfaces (Or.inl hkind)

theorem Endpoint.stance_eq_matched_iff {a b : Endpoint} :
    a.stance b = some .matched ↔ a.relate b = some .matched := by
  unfold stance
  cases a.relate b with
  | none => simp
  | some relation => cases relation <;> simp [Relation.slot]

section Stance

variable {handle : Handle} {node : Node} {record : Endpoint}

theorem Endpoint.faces_iff (hrecord : record.blank = handle.record node) (other : Endpoint) :
    ¬ (other.kind ≠ record.kind.counterpart ∨ other.name ≠ record.name ∨
      (!record.isLocal ∧ !other.isLocal)) ↔ handle.Faces other := by
  have hkind : record.kind = handle.kind := congrArg Endpoint.kind hrecord
  have hname : record.name = handle.name := congrArg Endpoint.name hrecord
  have hlocal : record.isLocal = true := congrArg Endpoint.isLocal hrecord
  simp [Handle.Faces, hkind, hname, hlocal]

/-- An endpoint enters a counterpart as one with an incompatible profile if the two clash. -/
theorem Endpoint.stance_eq_incompatibleQos_iff (hrecord : record.blank = handle.record node)
    (htopic : handle.kind.isTopic = true) (other : Endpoint) :
    record.stance other = some .incompatibleQos ↔ handle.ClashesWith other := by
  have hkind : record.kind = handle.kind := congrArg Endpoint.kind hrecord
  have htype : record.typeName = handle.typeName := congrArg Endpoint.typeName hrecord
  have hqos : record.qos = handle.qos := congrArg Endpoint.qos hrecord
  have hclash : record.kind.isTopic ∧ (record.report other).verdict = .incompatible ↔
      (handle.kind = .publisher → Qos.Clashes handle.qos other.qos) ∧
        (handle.kind = .subscription → Qos.Clashes other.qos handle.qos) := by
    unfold Endpoint.report Qos.Clashes
    rw [hkind, hqos]
    cases hk : handle.kind <;> rw [hk] at htopic <;> cases htopic <;> simp [EndpointKind.isTopic]
  unfold stance relate Handle.ClashesWith
  rw [← hclash, ← faces_iff hrecord other, ← htype]
  split
  · next hapart => exact iff_of_false (by decide) fun h => h.1 hapart
  · next hfaces =>
    split
    · next hdiffers => exact iff_of_false (by decide) fun h => hdiffers h.2.1.symm
    · next hsame =>
      split
      · next hverdict => exact iff_of_true rfl ⟨hfaces, (not_not.1 hsame).symm, hverdict⟩
      · next hverdict => exact iff_of_false (by decide) fun h => hverdict h.2.2

/-- An endpoint enters a counterpart as one with another type if the types differ. -/
theorem Endpoint.stance_eq_incompatibleType_iff (hrecord : record.blank = handle.record node)
    (other : Endpoint) :
    record.stance other = some .incompatibleType ↔ handle.DiffersFrom other := by
  have htype : record.typeName = handle.typeName := congrArg Endpoint.typeName hrecord
  unfold stance relate Handle.DiffersFrom
  rw [← faces_iff hrecord other, ← htype]
  split
  · next hapart => exact iff_of_false nofun fun h => h.1 hapart
  · next hfaces =>
    split
    · next hdiffers => exact iff_of_true rfl ⟨hfaces, Ne.symm hdiffers⟩
    · next hsame =>
      split <;> exact iff_of_false nofun fun h => h.2 (not_not.1 hsame).symm

end Stance

/-! ## Counting notices -/

namespace Graph

/-- The notices of a pair for one of the two. -/
theorem countP_raises_pairNotices (gid : Gid) (new : Endpoint) (otherGid : Gid) (other : Endpoint)
    (k : Gid) (slot : StatusSlot) :
    ((pairNotices gid new otherGid other).filter (·.endpoint = k)).countP (·.raises slot) =
      if new.stance other = some slot ∧ new.kind.isTopic then
        (if new.isLocal ∧ gid = k then 1 else 0) + (if other.isLocal ∧ otherGid = k then 1 else 0)
      else 0 := by
  have hcount (relation : Relation) (endpoints : List Gid) :
      ((relation.notices endpoints).filter (·.endpoint = k)).countP (·.raises slot) =
        if relation.slot = slot then endpoints.count k else 0 := by
    unfold Relation.notices
    induction endpoints with
    | nil => simp
    | cons endpoint rest ih =>
      simp only [List.map_cons, List.filter_cons, List.count_cons, beq_iff_eq]
      by_cases hk : endpoint = k <;> cases relation <;> cases slot <;>
        simp_all [Notice.endpoint, Notice.raises, Notice.slot, Notice.isLoss, Relation.slot]
  unfold pairNotices Endpoint.stance
  cases new.relate other with
  | none => simp
  | some relation =>
    simp only [Option.map_some, Option.some.injEq]
    by_cases htopic : new.kind.isTopic = true
    · rw [if_pos htopic, hcount]
      by_cases hslot : relation.slot = slot
      · simp only [hslot, htopic, and_self, if_true]
        cases new.isLocal <;> cases other.isLocal <;> simp [List.count_cons, Nat.add_comm]
      · simp only [hslot, false_and, if_false]
    · rw [if_neg htopic, if_neg (fun h => htopic h.2)]
      rfl

/-- A new local endpoint is told of each of the endpoints that it has to enter in a book. -/
theorem countP_raises_new {gid : Gid} {new : Endpoint} {l : List (Gid × Endpoint)}
    (hl : gid ∉ l.map Prod.fst) (hlocal : new.isLocal = true) (htopic : new.kind.isTopic = true)
    (slot : StatusSlot) :
    ((l.flatMap fun e => pairNotices gid new e.1 e.2).filter (·.endpoint = gid)).countP
        (·.raises slot) = l.countP fun e => new.stance e.2 = some slot := by
  induction l with
  | nil => rfl
  | cons e l ih =>
    simp only [List.map_cons, List.mem_cons, not_or] at hl
    have hother : ¬ (e.2.isLocal = true ∧ e.1 = gid) := fun h => hl.1 h.2.symm
    rw [List.flatMap_cons, List.filter_append, List.countP_append, ih hl.2,
      countP_raises_pairNotices, List.countP_cons]
    simp only [htopic, hlocal, hother, and_true, if_true, if_false, Nat.add_zero,
      decide_eq_true_eq]
    exact Nat.add_comm ..

/-- A local endpoint that was there before is told once, if it has to enter the new one. -/
theorem countP_raises_old {gid : Gid} {new : Endpoint} {l : List (Gid × Endpoint)}
    (hl : (l.map Prod.fst).Nodup) {k : Gid} {y : Endpoint} (hk : (k, y) ∈ l) (hne : gid ≠ k)
    (hlocal : y.isLocal = true) (htopic : y.kind.isTopic = true) (slot : StatusSlot) :
    ((l.flatMap fun e => pairNotices gid new e.1 e.2).filter (·.endpoint = k)).countP
        (·.raises slot) = if new.stance y = some slot then 1 else 0 := by
  have hpair : new.stance y = some slot ∧ new.kind.isTopic = true ↔ new.stance y = some slot :=
    and_iff_left_of_imp fun h => by
      rwa [Endpoint.kind_of_stance h, EndpointKind.isTopic_counterpart] at htopic
  have hnone : ∀ l : List (Gid × Endpoint), k ∉ l.map Prod.fst →
      ((l.flatMap fun e => pairNotices gid new e.1 e.2).filter (·.endpoint = k)).countP
        (·.raises slot) = 0 := by
    intro l hnot
    induction l with
    | nil => rfl
    | cons e l ih =>
      simp only [List.map_cons, List.mem_cons, not_or] at hnot
      have hother : ¬ (e.2.isLocal = true ∧ e.1 = k) := fun h => hnot.1 h.2.symm
      rw [List.flatMap_cons, List.filter_append, List.countP_append, ih hnot.2,
        countP_raises_pairNotices]
      simp only [hne, hother, and_false, if_false, ite_self]
  induction l with
  | nil => cases hk
  | cons e l ih =>
    obtain ⟨hnot, hl⟩ := List.nodup_cons.1 hl
    rw [List.flatMap_cons, List.filter_append, List.countP_append, countP_raises_pairNotices]
    rcases List.mem_cons.1 hk with rfl | hk
    · rw [hnone l hnot]
      simp only [hpair, hne, hlocal, and_false, and_true, if_true, if_false, Nat.zero_add,
        Nat.add_zero]
    · have hek : e.1 ≠ k := by
        rintro rfl
        exact hnot (List.mem_map.2 ⟨_, hk, rfl⟩)
      rw [ih hl hk]
      simp only [hne, hek, and_false, if_false, ite_self, Nat.zero_add]

/-- The losses that an endpoint is told of. -/
theorem countP_isLoss_filter (notices : List Notice) (k : Gid) :
    (notices.filter (·.endpoint = k)).countP (·.isLoss) = notices.count (.lost k) := by
  rw [List.countP_filter, List.count]
  refine List.countP_congr fun notice _ => ?_
  cases notice with
  | lost gid =>
    rw [Bool.and_eq_true, decide_eq_true_iff, beq_iff_eq, Notice.lost.injEq]
    exact and_iff_right rfl
  | gained gid | incompatibleQos gid policy | incompatibleType gid => simp [Notice.isLoss]

/-- A removal tells of losses only. -/
theorem countP_raises_removeEndpoint {graph graph' : Graph} {gid : Gid} {notices : List Notice}
    (hrem : graph.removeEndpoint gid = some (graph', notices)) (k : Gid) (slot : StatusSlot) :
    (notices.filter (·.endpoint = k)).countP (·.raises slot) = 0 := by
  obtain ⟨gone, -, -, -, -, -, rfl⟩ := removeEndpoint_eq_some hrem
  rw [List.countP_eq_zero]
  intro notice hmem
  have hmem := (List.mem_filter.1 hmem).1
  split at hmem
  · obtain ⟨gid, -, rfl⟩ := List.mem_map.1 hmem
    simp [Notice.raises, Notice.isLoss]
  · cases hmem

/-- The entries after an endpoint was added: the others as they are now, and the new one. -/
theorem entries_addEndpoint {graph graph' : Graph} {gid : Gid} {new : Endpoint}
    {core : Option Core} {notices : List Notice}
    (hadd : graph.addEndpoint gid new core = .ok (graph', notices)) :
    graph'.endpoints.entries =
      graph.endpoints.entries.map (fun e => (e.1, meet gid (graph.newRecord new core) e.2)) ++
        [(gid, graph.newRecord new core)] := by
  have hfree := (addEndpoint_eq_ok hadd).1
  unfold addEndpoint at hadd
  split at hadd
  · cases hadd
  · simp only [Except.ok.injEq, Prod.mk.injEq] at hadd
    obtain ⟨rfl, -⟩ := hadd
    have hnew : gid ∉ graph.endpoints.keys := Table.find?_eq_none_iff.1 hfree
    unfold Table.insert
    rw [dif_neg (by rwa [Table.keys_map])]
    rfl

end Graph

/-! ## What notices tell -/

/-- What is in one of two lists without repetitions and not in the other makes up for the
difference. -/
theorem length_add_countP_not_mem {α : Type} [DecidableEq α] {a b : List α} (ha : a.Nodup)
    (hb : b.Nodup) : b.length + a.countP (· ∉ b) = a.length + b.countP (· ∉ a) := by
  have hsplit (a b : List α) : a.countP (· ∈ b) + a.countP (· ∉ b) = a.length := by
    rw [List.length_eq_countP_add_countP (fun x => decide (x ∈ b))]
    simp
  have hcommon : a.countP (· ∈ b) = b.countP (· ∈ a) := by
    rw [List.countP_eq_length_filter, List.countP_eq_length_filter]
    refine List.Perm.length_eq ((List.perm_ext_iff_of_nodup (ha.filter _) (hb.filter _)).2 ?_)
    simp [and_comm]
  have := hsplit a b
  have := hsplit b a
  omega

namespace Graph

theorem matchSet_eq {graph : Graph} {gid : Gid} {x : Endpoint}
    (hx : graph.endpoints.find? gid = some x) : graph.matchSet gid = x.peers := by
  rw [matchSet, hx]
  rfl

theorem matchSet_eq_nil {graph : Graph} {gid : Gid} (hx : graph.endpoints.find? gid = none) :
    graph.matchSet gid = [] := by
  rw [matchSet, hx]
  rfl

theorem matchSet_congr {graph graph' : Graph} (h : graph'.endpoints = graph.endpoints) (gid : Gid) :
    graph'.matchSet gid = graph.matchSet gid := by
  rw [matchSet, matchSet, h]

theorem Matched.nodup_matchSet {graph : Graph} (h : graph.Matched) (gid : Gid) :
    (graph.matchSet gid).Nodup := by
  cases hx : graph.endpoints.find? gid with
  | none =>
    rw [matchSet_eq_nil hx]
    exact List.nodup_nil
  | some x =>
    rw [matchSet_eq hx]
    exact h.nodup_peers hx

end Graph

namespace Moment

variable {moment : Moment} {handle : Handle} {node : Node} {record : Endpoint} {graph' : Graph}
  {notices : List Notice} {gid : Gid}

theorem countP_not_mem_eq_zero {α : Type} [DecidableEq α] {a b : List α} (h : a ⊆ b) :
    a.countP (· ∉ b) = 0 := by
  rw [List.countP_eq_zero]
  intro x hx
  simpa using h hx

/-- An endpoint that was there begins to coexist with nobody but new endpoints. -/
theorem met_eq_nil (hrecord : moment.before.endpoints.find? gid = some record)
    (hold : ∀ e ∈ moment.after.endpoints.entries,
      (moment.before.endpoints.find? e.1).isSome = true) : moment.met gid = [] := by
  unfold met
  rw [List.filter_eq_nil_iff.2, List.map_nil]
  intro e he
  simp [Table.contains, hrecord, hold e he]

theorem met_eq_new {new : Endpoint} {l : List (Gid × Endpoint)}
    (hnew : moment.after.endpoints.entries = l ++ [(gid, new)])
    (hfree : moment.before.endpoints.find? gid = none)
    (hold : ∀ e ∈ l, (moment.before.endpoints.find? e.1).isSome = true) {k : Gid}
    (hrecord : moment.before.endpoints.find? k = some record) : moment.met k = [new] := by
  unfold met
  rw [hnew, List.filter_append, List.filter_eq_nil_iff.2]
  · simp [Table.contains, hfree]
  · intro e he
    simp [Table.contains, hrecord, hold e he]

/-- A new endpoint begins to coexist with everybody. -/
theorem met_eq_values (hfree : moment.before.endpoints.find? gid = none) :
    moment.met gid = moment.after.endpoints.values := by
  unfold met
  rw [List.filter_eq_self.2]
  · rfl
  · intro e _
    simp [Table.contains, hfree]

namespace Tells

/-- If nothing happened to the endpoints there is nothing to tell. -/
theorem nothing (hsame : moment.after.endpoints = moment.before.endpoints)
    (hrecord : moment.before.endpoints.find? handle.gid = some record) :
    moment.Tells handle [] := by
  have hsets := Graph.matchSet_congr hsame handle.gid
  have hmet : moment.met handle.gid = [] := met_eq_nil hrecord fun e he => by
    rw [hsame] at he
    rw [Table.find?_eq_some_iff.2 he]
    rfl
  constructor
  · intro slot
    cases slot with
    | matched =>
      show moment.joined handle.gid = 0
      rw [joined, hsets]
      exact countP_not_mem_eq_zero (List.Subset.refl _)
    | incompatibleQos =>
      show moment.clashed handle = 0
      rw [clashed, hmet]
      rfl
    | incompatibleType =>
      show moment.mistyped handle = 0
      rw [mistyped, hmet]
      rfl
  · rw [Moment.parted, hsets]
    exact countP_not_mem_eq_zero (List.Subset.refl _)

/-- A removal tells who was matched with what is gone. -/
theorem remove (hmatched : moment.before.Matched) (htopic : record.kind.isTopic = true)
    (hlocal : record.isLocal = true)
    (hrecord : moment.before.endpoints.find? handle.gid = some record)
    (hrem : moment.before.removeEndpoint gid = some (graph', notices))
    (hafter : moment.after.endpoints = graph'.endpoints) (hne : handle.gid ≠ gid) :
    moment.Tells handle notices := by
  obtain ⟨gone, hgone, -⟩ := Graph.removeEndpoint_eq_some hrem
  have hold := Graph.find?_removeEndpoint_old hrem hgone hne hrecord
  have hlength := Graph.length_peers_part hmatched hrem hgone hne hrecord hlocal htopic
  have hbefore := Graph.matchSet_eq hrecord
  have hset : moment.after.matchSet handle.gid = (Graph.part gid gone handle.gid record).peers := by
    rw [Graph.matchSet_congr hafter, Graph.matchSet_eq hold]
  have hsub : moment.after.matchSet handle.gid ⊆ moment.before.matchSet handle.gid := by
    rw [hset, hbefore]
    intro k hk
    exact ((hmatched.mem_peers_part hgone hrecord k).1 hk).2
  have hjoined : moment.joined handle.gid = 0 := countP_not_mem_eq_zero hsub
  have hmet : moment.met handle.gid = [] := met_eq_nil hrecord fun e he => by
    rw [hafter] at he
    obtain ⟨-, z, hz, -⟩ :=
      Graph.find?_removeEndpoint_cases hrem hgone (Table.find?_eq_some_iff.2 he)
    rw [hz]
    rfl
  constructor
  · intro slot
    rw [Graph.countP_raises_removeEndpoint hrem]
    cases slot with
    | matched => exact hjoined
    | incompatibleQos =>
      show moment.clashed handle = 0
      rw [clashed, hmet]
      rfl
    | incompatibleType =>
      show moment.mistyped handle = 0
      rw [mistyped, hmet]
      rfl
  · have hnodup : (moment.after.matchSet handle.gid).Nodup := by
      rw [hset, ← Graph.matchSet_eq hold]
      exact (hmatched.removeEndpoint hrem).nodup_matchSet _
    have hdifference := length_add_countP_not_mem (hmatched.nodup_matchSet handle.gid) hnodup
    rw [Graph.countP_isLoss_filter]
    unfold Moment.parted
    unfold joined at hjoined
    rw [hset, hbefore] at hdifference hjoined ⊢
    omega

section Add

variable {new : Endpoint} {core : Option Core}
  (hadd : moment.before.addEndpoint gid new core = .ok (graph', notices))
  (hafter : moment.after.endpoints = graph'.endpoints)

include hadd hafter

theorem parted_eq_zero_of_add : moment.parted handle.gid = 0 := by
  refine countP_not_mem_eq_zero fun k hk => ?_
  obtain ⟨x, hx, hk⟩ := Graph.mem_matchSet.1 hk
  rw [Graph.matchSet_congr hafter, Graph.matchSet_eq (Graph.find?_addEndpoint_old hadd hx)]
  unfold Graph.meet
  split
  · exact List.mem_append_left _ hk
  · exact hk

omit hafter in
theorem isLoss_add : (notices.filter (·.endpoint = handle.gid)).countP (·.isLoss) = 0 := by
  rw [Graph.countP_isLoss_filter]
  exact Graph.count_lost_addEndpoint hadd _

/-- An endpoint that was there is told whether the new one is matched, and if not, why. -/
theorem addOld (hmatched : moment.before.Matched) (htopic : handle.kind.isTopic = true)
    (hblank : record.blank = handle.record node)
    (hrecord : moment.before.endpoints.find? handle.gid = some record) :
    moment.Tells handle notices := by
  obtain ⟨hfree, -, -, -, -, hnotices⟩ := Graph.addEndpoint_eq_ok hadd
  have hlocal : record.isLocal = true := congrArg Endpoint.isLocal hblank
  have hne : gid ≠ handle.gid := by
    rintro rfl
    rw [hfree] at hrecord
    cases hrecord
  have hmet : moment.met handle.gid = [moment.before.newRecord new core] := by
    refine met_eq_new (hafter ▸ Graph.entries_addEndpoint hadd) hfree (fun e he => ?_) hrecord
    obtain ⟨old, hold, rfl⟩ := List.mem_map.1 he
    show (moment.before.endpoints.find? old.1).isSome = true
    rw [Table.find?_eq_some_iff.2 hold]
    rfl
  have hcount (slot : StatusSlot) :
      (notices.filter (·.endpoint = handle.gid)).countP (·.raises slot) =
        if record.stance (moment.before.newRecord new core) = some slot then 1 else 0 := by
    have hkind : record.kind = handle.kind := congrArg Endpoint.kind hblank
    rw [hnotices, Graph.countP_raises_old moment.before.endpoints.nodup_keys
      (Table.find?_eq_some_iff.1 hrecord) hne hlocal (hkind ▸ htopic), Endpoint.stance_comm]
  refine ⟨fun slot => ?_, ?_⟩
  · rw [hcount]
    cases slot with
    | matched =>
      rw [if_congr (Endpoint.stance_eq_matched_iff.trans Endpoint.relate_eq_matched_comm) rfl rfl]
      show moment.joined handle.gid = _
      rw [joined, Graph.matchSet_eq hrecord, Graph.matchSet_congr hafter,
        Graph.matchSet_eq (Graph.find?_addEndpoint_old hadd hrecord)]
      have hkept := countP_not_mem_eq_zero (List.Subset.refl record.peers)
      unfold Graph.meet
      split
      · rw [List.countP_append, hkept, List.countP_singleton, Nat.zero_add,
          if_pos (decide_eq_true (hmatched.not_mem_peers hfree hrecord))]
      · exact hkept
    | incompatibleQos =>
      rw [if_congr (Endpoint.stance_eq_incompatibleQos_iff hblank htopic _) rfl rfl]
      show moment.clashed handle = _
      rw [clashed, hmet, List.countP_singleton]
      simp only [decide_eq_true_eq]
    | incompatibleType =>
      rw [if_congr (Endpoint.stance_eq_incompatibleType_iff hblank _) rfl rfl]
      show moment.mistyped handle = _
      rw [mistyped, hmet, List.countP_singleton]
      simp only [decide_eq_true_eq]
  · rw [parted_eq_zero_of_add hadd hafter, isLoss_add hadd]

end Add

/-- What is counted among all endpoints after one was added that does not count itself. -/
theorem countP_values_add {core : Core} {new : Endpoint}
    (hadd : moment.before.addEndpoint gid new (some core) = .ok (graph', notices))
    (hafter : moment.after.endpoints = graph'.endpoints) {p : Endpoint → Prop} [DecidablePred p]
    (hmeet : ∀ x, p (Graph.meet gid (moment.before.newRecord new (some core)) x) ↔ p x)
    (hself : ¬ p (moment.before.newRecord new (some core))) :
    moment.after.endpoints.values.countP (fun other => p other) =
      moment.before.endpoints.entries.countP fun e => p e.2 := by
  unfold Table.values
  rw [hafter, Graph.entries_addEndpoint hadd, List.map_append, List.countP_append, List.map_map,
    List.countP_map, List.map_singleton, List.countP_singleton, if_neg (by simpa using hself)]
  exact List.countP_congr fun e _ => by simp [hmeet]

/-- A new endpoint is told of everybody it has to do with. -/
theorem addNew {core : Core}
    (hadd : moment.before.addEndpoint handle.gid (handle.record node) (some core) =
      .ok (graph', notices))
    (hafter : moment.after.endpoints = graph'.endpoints) (htopic : handle.kind.isTopic = true) :
    moment.Tells handle notices := by
  obtain ⟨hfree, -, -, -, -, hnotices⟩ := Graph.addEndpoint_eq_ok hadd
  have hblank : (moment.before.newRecord (handle.record node) (some core)).blank =
      handle.record node := rfl
  have hself (other : Endpoint) (hkind : other.kind = handle.kind) : ¬ handle.Faces other := by
    rintro ⟨hfaces, -⟩
    rw [hkind] at hfaces
    cases hk : handle.kind <;> rw [hk] at hfaces <;> cases hfaces
  have hcount (slot : StatusSlot) :
      (notices.filter (·.endpoint = handle.gid)).countP (·.raises slot) =
        moment.before.endpoints.entries.countP fun e =>
          (moment.before.newRecord (handle.record node) (some core)).stance e.2 = some slot := by
    rw [hnotices, Graph.countP_raises_new (Table.find?_eq_none_iff.1 hfree) rfl htopic]
  refine ⟨fun slot => ?_, ?_⟩
  · rw [hcount]
    cases slot with
    | matched =>
      show moment.joined handle.gid = _
      simp only [Endpoint.stance_eq_matched_iff]
      rw [joined, Graph.matchSet_eq_nil hfree, Graph.matchSet_congr hafter,
        Graph.matchSet_eq (Graph.find?_addEndpoint_new hadd)]
      unfold Graph.newRecord Graph.matchesOf
      simp [List.countP_eq_length_filter]
      rfl
    | incompatibleQos =>
      show moment.clashed handle = _
      simp only [Endpoint.stance_eq_incompatibleQos_iff hblank htopic]
      rw [clashed, met_eq_values hfree]
      refine countP_values_add hadd hafter (fun x => ?_) fun h => hself _ rfl h.1
      unfold Graph.meet
      split <;> exact Iff.rfl
    | incompatibleType =>
      show moment.mistyped handle = _
      simp only [Endpoint.stance_eq_incompatibleType_iff hblank]
      rw [mistyped, met_eq_values hfree]
      refine countP_values_add hadd hafter (fun x => ?_) fun h => hself _ rfl h.1
      unfold Graph.meet
      split <;> exact Iff.rfl
  · rw [parted_eq_zero_of_add hadd hafter, isLoss_add hadd]

end Tells

end Moment

end PubSub
